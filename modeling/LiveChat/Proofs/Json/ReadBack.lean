import LiveChat.Proofs.Json.Scalars

/-!
# JSON texts are read back

A value whose numbers are integers of 64 bits is written as a text that says all of the value
(`read?_text`): the reader finds each part again and stops where the part ends (`IsExact.take?`).
-/

namespace LiveChat.Json

open LiveChat.Text

/-- Every number of a value is an integer that a numeral can hold. -/
inductive IsExact : Json → Prop
  | null : IsExact .null
  | bool (value : Bool) : IsExact (.bool value)
  | integer {value : Int} (fits : FitsNumeral value) : IsExact (.number (.integer value))
  | string (value : String) : IsExact (.string value)
  | array {items : List Json} (each : ∀ item ∈ items, IsExact item) : IsExact (.array items)
  | object {fields : List (String × Json)} (each : ∀ field ∈ fields, IsExact field.2) :
      IsExact (.object fields)

/-- A text that is read neither as blank nor as the end of an array. -/
def OpensValue (text : List Char) : Prop :=
  ∃ char rest, text = char :: rest ∧ isSpace char = false ∧ char ≠ ']'

theorem OpensValue.append {text : List Char} (opens : OpensValue text) (rest : List Char) :
    OpensValue (text ++ rest) := by
  obtain ⟨char, others, rfl, solid, notEnd⟩ := opens
  exact ⟨char, others ++ rest, rfl, solid, notEnd⟩

theorem OpensValue.skipSpace {text : List Char} (opens : OpensValue text) :
    skipSpace text = text := by
  obtain ⟨char, rest, rfl, solid, -⟩ := opens
  exact List.dropWhile_cons_of_neg (by rw [solid]; exact Bool.false_ne_true)

theorem OpensValue.length_pos {text : List Char} (opens : OpensValue text) : 0 < text.length := by
  obtain ⟨char, rest, rfl, -⟩ := opens
  exact Nat.succ_pos _

theorem not_isSpace_of_isDigit {char : Char} (digit : char.isDigit = true) :
    isSpace char = false := by
  rw [← Bool.not_eq_true]
  intro space
  simp only [isSpace, Bool.or_eq_true, decide_eq_true_eq] at space
  rcases space with ((rfl | rfl) | rfl) | rfl <;> revert digit <;> decide

theorem opensValue_of_isDigit {char : Char} (digit : char.isDigit = true) (rest : List Char) :
    OpensValue (char :: rest) := by
  refine ⟨char, rest, rfl, not_isSpace_of_isDigit digit, ?_⟩
  rintro rfl
  revert digit
  decide

theorem exists_decimal (value : Nat) :
    ∃ digit digits, decimal value = digit :: digits ∧ digit.isDigit = true := by
  obtain ⟨digit, digits, split⟩ :=
    List.exists_cons_of_ne_nil (Nat.toDigits_ne_nil (n := value) (b := 10))
  exact ⟨digit, digits, split, isDigit_of_mem_decimal (split ▸ List.mem_cons_self)⟩

theorem exists_signedDecimal (value : Int) :
    ∃ char chars, signedDecimal value = char :: chars ∧ (char = '-' ∨ char.isDigit = true) := by
  unfold signedDecimal
  split
  · exact ⟨'-', _, rfl, .inl rfl⟩
  · obtain ⟨digit, digits, split, digitFirst⟩ := exists_decimal value.natAbs
    exact ⟨digit, digits, split, .inr digitFirst⟩

theorem IsExact.opensValue {value : Json} (exact : IsExact value) : OpensValue value.print := by
  cases exact with
  | null => exact ⟨'n', _, print.eq_1, by decide, by decide⟩
  | bool value => cases value <;> exact ⟨_, _, by rw [print], by decide, by decide⟩
  | integer fits =>
      obtain ⟨char, chars, split, first⟩ := exists_signedDecimal _
      rw [print, Number.text, split]
      rcases first with rfl | digit
      · exact ⟨'-', _, rfl, by decide, by decide⟩
      · exact opensValue_of_isDigit digit chars
  | string text =>
      rw [print]
      exact ⟨'"', _, rfl, by decide, by decide⟩
  | @array items each =>
      cases items with
      | nil => exact ⟨'[', [']'], by rw [print], by decide, by decide⟩
      | cons item items => exact ⟨'[', _, by rw [print]; rfl, by decide, by decide⟩
  | @object fields each =>
      cases fields with
      | nil => exact ⟨'\x7b', ['\x7d'], by rw [print], by decide, by decide⟩
      | cons field fields => exact ⟨'\x7b', _, by rw [print]; rfl, by decide, by decide⟩

/-- A value is read back in front of any text that does not go on with a numeral. -/
def ReadsBack (value : Json) : Prop :=
  ∀ fuel rest, 2 * value.print.length ≤ fuel → EndsNumeral rest →
    Outline.take? fuel (value.print ++ rest) = some (value.outline, rest)

theorem skipSpace_cons (char : Char) (solid : isSpace char = false) (rest : List Char) :
    skipSpace (char :: rest) = char :: rest :=
  List.dropWhile_cons_of_neg (by rw [solid]; exact Bool.false_ne_true)

theorem endsNumeral_printItems (items : List Json) (rest : List Char) :
    EndsNumeral (printItems items ++ rest) := by
  cases items <;> rw [printItems] <;> exact endsNumeral_cons _ (by decide)

theorem endsNumeral_printFields (fields : List (String × Json)) (rest : List Char) :
    EndsNumeral (printFields fields ++ rest) := by
  cases fields <;> rw [printFields] <;> exact endsNumeral_cons _ (by decide)

theorem takeItems?_print {items : List Json} (back : ∀ item ∈ items, ReadsBack item)
    {item : Json} (itemBack : ReadsBack item) (fuel : Nat) (rest : List Char)
    (enough : 2 * (item.print.length + (printItems items).length) ≤ fuel) :
    Outline.takeItems? fuel (item.print ++ (printItems items ++ rest)) =
      some (outlineItems (item :: items), rest) := by
  induction items generalizing item fuel with
  | nil =>
      rw [printItems, List.length_singleton] at enough
      obtain ⟨fuel, rfl⟩ : ∃ less, fuel = less + 1 := ⟨fuel - 1, by omega⟩
      rw [Outline.takeItems?, itemBack fuel _ (by omega) (endsNumeral_printItems _ _), printItems]
      rfl
  | cons next items ih =>
      rw [printItems, List.cons_append, List.length_cons, List.length_append] at enough
      obtain ⟨fuel, rfl⟩ : ∃ less, fuel = less + 1 := ⟨fuel - 1, by omega⟩
      have later := ih (fun other member => back other (List.mem_cons_of_mem _ member))
        (back next List.mem_cons_self) fuel (by omega)
      rw [Outline.takeItems?, itemBack fuel _ (by omega) (endsNumeral_printItems _ _), printItems,
        List.cons_append, List.cons_append, List.append_assoc]
      simp only [skipSpace_cons ',' (by decide), later, Option.map_some]
      rfl

theorem takeFields?_print {fields : List (String × Json)}
    (back : ∀ field ∈ fields, ReadsBack field.2) (name : String) {value : Json}
    (valueBack : ReadsBack value) (fuel : Nat) (rest : List Char)
    (enough : 2 * ((writtenString name).length + 1 + value.print.length +
      (printFields fields).length) ≤ fuel) :
    Outline.takeFields? fuel
        (writtenString name ++ ':' :: (value.print ++ (printFields fields ++ rest))) =
      some (outlineFields ((name, value) :: fields), rest) := by
  induction fields generalizing name value fuel with
  | nil =>
      obtain ⟨fuel, rfl⟩ : ∃ less, fuel = less + 1 := ⟨fuel - 1, by omega⟩
      rw [writtenString_append, Outline.takeFields?, skipSpace_cons _ (by decide)]
      simp only [takeString?_writtenString, skipSpace_cons ':' (by decide),
        valueBack fuel _ (by omega) (endsNumeral_printFields _ _)]
      rw [printFields]
      rfl
  | cons next fields ih =>
      obtain ⟨nextName, nextValue⟩ := next
      rw [printFields] at enough
      simp only [List.length_append, List.length_cons] at enough
      obtain ⟨fuel, rfl⟩ : ∃ less, fuel = less + 1 := ⟨fuel - 1, by omega⟩
      have nextBack : ReadsBack nextValue := back _ List.mem_cons_self
      have later := ih (fun other member => back other (List.mem_cons_of_mem _ member)) nextName
        nextBack fuel (by omega)
      rw [writtenString_append, Outline.takeFields?, skipSpace_cons _ (by decide)]
      simp only [takeString?_writtenString, skipSpace_cons ':' (by decide),
        valueBack fuel _ (by omega) (endsNumeral_printFields _ _)]
      rw [printFields]
      simp only [List.cons_append, List.append_assoc, skipSpace_cons ',' (by decide),
        later, Option.map_some]
      rfl

theorem readsBack_integer {value : Int} (fits : FitsNumeral value) :
    ReadsBack (.number (.integer value)) := by
  intro fuel rest enough ends
  have opens := (IsExact.integer fits).opensValue
  obtain ⟨fuel, rfl⟩ : ∃ less, fuel = less + 1 := ⟨fuel - 1, by have := opens.length_pos; omega⟩
  have read := take?_signedDecimal value ends
  obtain ⟨char, chars, split, first⟩ := exists_signedDecimal value
  have other : char ≠ '[' ∧ char ≠ '\x7b' ∧ char ≠ '"' ∧ char ≠ 'n' ∧ char ≠ 't' ∧ char ≠ 'f' := by
    rcases first with rfl | digit
    · decide
    · refine ⟨?_, ?_, ?_, ?_, ?_, ?_⟩ <;> rintro rfl <;> revert digit <;> decide
  obtain ⟨notArray, notObject, notString, notNull, notTrue, notFalse⟩ := other
  rw [Outline.take?, (opens.append rest).skipSpace, print, Number.text, outline]
  rw [split, List.cons_append] at read ⊢
  split
  case h_8 => simp only [read, Option.map_some, ofNumeral?_wholeNumeral fits]
  all_goals
    rename_i same
    cases same <;> contradiction

theorem readsBack_array {items : List Json} (exact : ∀ item ∈ items, IsExact item)
    (back : ∀ item ∈ items, ReadsBack item) : ReadsBack (.array items) := by
  intro fuel rest enough ends
  cases items with
  | nil =>
      rw [print] at enough ⊢
      obtain ⟨fuel, rfl⟩ : ∃ less, fuel = less + 1 := ⟨fuel - 1, by simp at enough; omega⟩
      rfl
  | cons item items =>
      have opens := (exact item List.mem_cons_self).opensValue
      rw [print] at enough ⊢
      simp only [List.length_append, List.length_cons] at enough
      obtain ⟨fuel, rfl⟩ : ∃ less, fuel = less + 1 := ⟨fuel - 1, by omega⟩
      have found := takeItems?_print (fun other member => back other (List.mem_cons_of_mem _ member))
        (back item List.mem_cons_self) fuel rest (by omega)
      have started := (opens.append (printItems items ++ rest)).skipSpace
      obtain ⟨char, chars, split, -, notEnd⟩ := opens
      rw [split, List.cons_append] at started found
      rw [split]
      simp [Outline.take?, skipSpace_cons '[' (by decide), started, notEnd, found, outline]

theorem readsBack_object {fields : List (String × Json)}
    (back : ∀ field ∈ fields, ReadsBack field.2) : ReadsBack (.object fields) := by
  intro fuel rest enough ends
  cases fields with
  | nil =>
      rw [print] at enough ⊢
      obtain ⟨fuel, rfl⟩ : ∃ less, fuel = less + 1 := ⟨fuel - 1, by simp at enough; omega⟩
      rfl
  | cons field fields =>
      obtain ⟨name, value⟩ := field
      rw [print] at enough ⊢
      simp only [List.length_append, List.length_cons] at enough
      obtain ⟨fuel, rfl⟩ : ∃ less, fuel = less + 1 := ⟨fuel - 1, by omega⟩
      have valueBack : ReadsBack value := back _ List.mem_cons_self
      have found := takeFields?_print
        (fun other member => back other (List.mem_cons_of_mem _ member)) name valueBack fuel rest
        (by omega)
      rw [writtenString_append] at found
      simp [Outline.take?, skipSpace_cons '\x7b' (by decide),
        skipSpace_cons '"' (by decide), writtenString_append, found, outline]

/-- **Reading back.** The reader finds the parts of a value in its text. -/
theorem IsExact.readsBack {value : Json} (exact : IsExact value) : ReadsBack value := by
  induction exact with
  | null =>
      intro fuel rest enough _
      obtain ⟨fuel, rfl⟩ : ∃ less, fuel = less + 1 := ⟨fuel - 1, by simp [print] at enough; omega⟩
      rfl
  | bool value =>
      intro fuel rest enough _
      obtain ⟨fuel, rfl⟩ : ∃ less, fuel = less + 1 :=
        ⟨fuel - 1, by cases value <;> simp [print] at enough <;> omega⟩
      cases value <;> rfl
  | integer fits => exact readsBack_integer fits
  | string text =>
      intro fuel rest enough _
      rw [print] at enough ⊢
      obtain ⟨fuel, rfl⟩ : ∃ less, fuel = less + 1 :=
        ⟨fuel - 1, by simp [writtenString] at enough; omega⟩
      rw [writtenString_append, Outline.take?, skipSpace_cons _ (by decide)]
      simp only [takeString?_writtenString, Option.map_some]
      rfl
  | array each ih => exact readsBack_array each ih
  | object _ ih => exact readsBack_object ih

/-- **Texts of values.** The text of a value says the value. -/
theorem IsExact.read?_text {value : Json} (exact : IsExact value) :
    Outline.read? value.text = some value.outline := by
  have back := exact.readsBack (2 * value.print.length + 2) [] (by omega) endsNumeral_nil
  rw [List.append_nil] at back
  simp only [Outline.read?, text, String.toList_ofList, back]
  rfl

end LiveChat.Json
