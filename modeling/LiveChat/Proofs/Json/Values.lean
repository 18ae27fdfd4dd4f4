import LiveChat.Proofs.Json.ReadBack
import Mathlib.Data.String.Basic

/-!
# Values are their own reading

The value of an outline is in a normal form: its objects name each field once, in ascending order,
and its containers are nested no deeper than it was asked for (`Outline.isNormal_of_value?`). The
outline of such a value has that value again (`IsNormal.value?_outline`). So whatever was read from a
text can be taken apart once more, and nothing is too deep or in another order
(`isNormal_of_read?`). And a value in normal form is read from its own text (`IsNormal.read?_text`).
-/

namespace LiveChat.Json

section Fields

variable {α : Type} {fields : List (String × α)}

/-- Fields in ascending order, each name once. -/
def AscendingFields (fields : List (String × α)) : Prop :=
  fields.Pairwise fun field other => field.1 < other.1

theorem mem_of_mem_setField {name : String} {value : α} {field : String × α}
    (member : field ∈ setField name value fields) : field = (name, value) ∨ field ∈ fields := by
  induction fields with
  | nil => exact .inl (List.mem_singleton.mp member)
  | cons first rest ih =>
      unfold setField at member
      split at member
      · exact (List.mem_cons.mp member).imp_right (List.mem_cons_of_mem _)
      split at member
      · exact List.mem_cons.mp member
      · rcases List.mem_cons.mp member with rfl | later
        · exact .inr List.mem_cons_self
        · exact (ih later).imp_right (List.mem_cons_of_mem _)

theorem ascendingFields_setField (ascending : AscendingFields fields) (name : String) (value : α) :
    AscendingFields (setField name value fields) := by
  induction fields with
  | nil => exact List.pairwise_singleton _ _
  | cons first rest ih =>
      obtain ⟨behind, others⟩ := List.pairwise_cons.mp ascending
      unfold setField
      split
      case isTrue same => exact List.pairwise_cons.mpr ⟨same ▸ behind, others⟩
      case isFalse apart =>
        split
        case isTrue smaller =>
          refine List.pairwise_cons.mpr ⟨fun field member => ?_, ascending⟩
          rcases List.mem_cons.mp member with rfl | later
          · exact smaller
          · exact lt_trans smaller (behind field later)
        case isFalse larger =>
          refine List.pairwise_cons.mpr ⟨fun field member => ?_, ih others⟩
          rcases mem_of_mem_setField member with rfl | later
          · exact lt_of_le_of_ne (not_lt.mp larger) (Ne.symm apart)
          · exact behind field later

/-- A field behind all others is put at the end. -/
theorem setField_of_greatest {name : String} (value : α)
    (behind : ∀ field ∈ fields, field.1 < name) :
    setField name value fields = fields ++ [(name, value)] := by
  induction fields with
  | nil => rfl
  | cons first rest ih =>
      have smaller := behind first List.mem_cons_self
      rw [setField, if_neg (ne_of_gt smaller), if_neg (lt_asymm smaller),
        ih fun field member => behind field (List.mem_cons_of_mem _ member), List.cons_append]

theorem mem_of_mem_sortFields {field : String × α} (member : field ∈ sortFields fields) :
    field ∈ fields := by
  have each (sorted : List (String × α))
      (found : field ∈ fields.foldl (fun sorted field => setField field.1 field.2 sorted) sorted) :
      field ∈ sorted ∨ field ∈ fields := by
    clear member
    induction fields generalizing sorted with
    | nil => exact .inl found
    | cons first rest ih =>
        rcases ih _ found with old | later
        · rcases mem_of_mem_setField old with rfl | old
          · exact .inr List.mem_cons_self
          · exact .inl old
        · exact .inr (List.mem_cons_of_mem _ later)
  exact (each [] member).resolve_left List.not_mem_nil

theorem ascendingFields_sortFields (fields : List (String × α)) :
    AscendingFields (sortFields fields) := by
  have each (sorted : List (String × α)) (ascending : AscendingFields sorted) :
      AscendingFields
        (fields.foldl (fun sorted field => setField field.1 field.2 sorted) sorted) := by
    induction fields generalizing sorted with
    | nil => exact ascending
    | cons first rest ih => exact ih _ (ascendingFields_setField ascending first.1 first.2)
  exact each [] .nil

/-- Sorting leaves ascending fields as they are. -/
theorem sortFields_of_ascending (ascending : AscendingFields fields) :
    sortFields fields = fields := by
  have each (sorted : List (String × α)) (whole : AscendingFields (sorted ++ fields)) :
      fields.foldl (fun sorted field => setField field.1 field.2 sorted) sorted =
        sorted ++ fields := by
    clear ascending
    induction fields generalizing sorted with
    | nil => exact (List.append_nil sorted).symm
    | cons first rest ih =>
        have behind (field : String × α) (member : field ∈ sorted) : field.1 < first.1 :=
          (List.pairwise_append.mp whole).2.2 field member first List.mem_cons_self
        rw [List.foldl_cons, setField_of_greatest first.2 behind]
        exact (ih _ (by rwa [List.append_assoc])).trans (List.append_assoc _ _ _)
  exact each [] ascending

end Fields

/-- A value whose objects have ascending fields and whose containers are nested at most `limit`
deep. -/
inductive IsNormal : Nat → Json → Prop
  | null {limit : Nat} : IsNormal limit .null
  | bool {limit : Nat} (value : Bool) : IsNormal limit (.bool value)
  | number {limit : Nat} (value : Number) : IsNormal limit (.number value)
  | string {limit : Nat} (value : String) : IsNormal limit (.string value)
  | array {limit : Nat} {items : List Json} (each : ∀ item ∈ items, IsNormal limit item) :
      IsNormal (limit + 1) (.array items)
  | object {limit : Nat} {fields : List (String × Json)} (ascending : AscendingFields fields)
      (each : ∀ field ∈ fields, IsNormal limit field.2) : IsNormal (limit + 1) (.object fields)

theorem outlineItems_eq_map (items : List Json) : outlineItems items = items.map outline := by
  induction items with
  | nil => rfl
  | cons item rest ih => rw [outlineItems, ih, List.map_cons]

namespace Outline

theorem itemValues?_outlineItems {limit : Nat} {items : List Json}
    (back : ∀ item ∈ items, item.outline.value? limit = some item) :
    itemValues? limit (outlineItems items) = some items := by
  induction items with
  | nil => rfl
  | cons item rest ih =>
      have later := ih fun other member => back other (List.mem_cons_of_mem _ member)
      simp only [outlineItems, itemValues?, back item List.mem_cons_self, later,
        Option.bind_eq_bind, Option.bind_some, Option.pure_def]

theorem fieldValues?_outlineFields {limit : Nat} {fields : List (String × Json)}
    (back : ∀ field ∈ fields, field.2.outline.value? limit = some field.2) :
    fieldValues? limit (outlineFields fields) = some fields := by
  induction fields with
  | nil => rfl
  | cons field rest ih =>
      obtain ⟨name, value⟩ := field
      have here : value.outline.value? limit = some value := back _ List.mem_cons_self
      have later := ih fun other member => back other (List.mem_cons_of_mem _ member)
      simp only [outlineFields, fieldValues?, here, later, Option.bind_eq_bind, Option.bind_some,
        Option.pure_def]

end Outline

/-- **Values are their own reading.** The outline of a value in normal form has that value. -/
theorem IsNormal.value?_outline {limit : Nat} {value : Json} (normal : IsNormal limit value) :
    value.outline.value? limit = some value := by
  induction normal with
  | null => rfl
  | bool value => rfl
  | number value => rfl
  | string value => rfl
  | array each ih =>
      rw [outline, Outline.value?, Outline.itemValues?_outlineItems ih]
      rfl
  | object ascending each ih =>
      rw [outline, Outline.value?, Outline.fieldValues?_outlineFields ih, Option.map_some, ofFields,
        sortFields_of_ascending ascending]

namespace Outline

/-- **Values are normal.** What an outline means is in normal form. -/
theorem isNormal_of_value? {limit : Nat} {found : Outline} {value : Json}
    (meant : found.value? limit = some value) : IsNormal limit value := by
  induction limit, found using Outline.value?.induct
    (motive_2 := fun limit entries => ∀ fields, fieldValues? limit entries = some fields →
      ∀ field ∈ fields, IsNormal limit field.2)
    (motive_3 := fun limit items => ∀ values, itemValues? limit items = some values →
      ∀ value ∈ values, IsNormal limit value) generalizing value with
  | case1 limit =>
      cases meant
      exact .null
  | case2 limit flag =>
      cases meant
      exact .bool flag
  | case3 limit number =>
      obtain ⟨number, -, rfl⟩ := Option.map_eq_some_iff.mp meant
      exact .number number
  | case4 limit text =>
      obtain ⟨text, -, rfl⟩ := Option.map_eq_some_iff.mp meant
      exact .string text
  | case5 items => cases meant
  | case6 items depth ih =>
      obtain ⟨values, read, rfl⟩ := Option.map_eq_some_iff.mp meant
      exact .array (ih values read)
  | case7 entries => cases meant
  | case8 entries depth ih =>
      obtain ⟨fields, read, rfl⟩ := Option.map_eq_some_iff.mp meant
      exact .object (ascendingFields_sortFields fields)
        fun field member => ih fields read field (mem_of_mem_sortFields member)
  | case9 limit values read value member =>
      cases read
      cases member
  | case10 limit item rest first others values read value member =>
      simp only [itemValues?, Option.bind_eq_bind, Option.bind_eq_some_iff, Option.pure_def] at read
      obtain ⟨here, meant, later, read, same⟩ := read
      cases same
      rcases List.mem_cons.mp member with rfl | behind
      · exact first meant
      · exact others later read value behind
  | case11 limit fields read field member =>
      cases read
      cases member
  | case12 limit name item rest first others fields read field member =>
      simp only [fieldValues?, Option.bind_eq_bind, Option.bind_eq_some_iff, Option.pure_def] at read
      obtain ⟨name, -, here, meant, later, read, same⟩ := read
      cases same
      rcases List.mem_cons.mp member with rfl | behind
      · exact first meant
      · exact others later read field behind

end Outline

/-- What was read from a text can be taken apart once more. -/
theorem isNormal_of_read? {text : String} {value : Json} (read : read? text = some value) :
    IsNormal maxDepth value := by
  obtain ⟨found, -, meant⟩ := Option.bind_eq_some_iff.mp read
  exact Outline.isNormal_of_value? meant

theorem IsNormal.read?_text {value : Json} (normal : IsNormal maxDepth value)
    (exact : IsExact value) : read? value.text = some value := by
  rw [read?, exact.read?_text, Option.bind_some, normal.value?_outline]

/-- The items of an array that was read are nested one level less deep. -/
theorem shallow_of_read? {text : String} {items : List Json}
    (read : read? text = some (.array items)) :
    ∀ item ∈ items, item.outline.value? (maxDepth - 1) = some item := by
  cases isNormal_of_read? read with
  | array each => exact fun item member => (each item member).value?_outline

end LiveChat.Json
