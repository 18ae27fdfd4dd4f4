import LiveChat.Chat.EmoteCache
import Mathlib.Data.List.Dedup
import Mathlib.Data.List.Perm.Subperm

/-!
# What the cache has after filing emotes

As long as no emote finds the cache full, filing emotes puts each name with its last emote into what
the cache holds (`EmoteCache.insertAll_of_keepsAll`). Filing the same emotes again then changes
nothing (`EmoteCache.insertAll_insertAll`). In any case the last emote of a name is held just when
no emote behind it empties the cache (`EmoteCache.get?_insertAll_iff`), and emotes whose names fit
into the cache empty it at most once (`EmoteCache.keepsAll_of_cleared`).
-/

namespace LiveChat.Chat.EmoteCache

/-- Filing an emote would empty the cache first. -/
def clearsFor (cache : EmoteCache) (emote : Emote) : Bool :=
  emote.name != "" && (!cache.contains emote.name && cache.capacity ≤ cache.size)

/-- No emote of a list finds the cache full when its turn comes. -/
def keepsAll : EmoteCache → List Emote → Bool
  | _, [] => true
  | cache, emote :: rest => !cache.clearsFor emote && (cache.insert emote).keepsAll rest

/-- The emotes that are filed, each under its name. -/
def filed (emotes : List Emote) : List (String × Emote) :=
  (emotes.filter fun emote => emote.name != "").map fun emote => (emote.name, emote)

variable {cache : EmoteCache} {emotes : List Emote}

theorem insert_of_unnamed {emote : Emote} (unnamed : emote.name = "") :
    cache.insert emote = cache :=
  if_pos unnamed

theorem insert_of_keeps {emote : Emote} (named : emote.name ≠ "")
    (keeps : cache.clearsFor emote = false) :
    cache.insert emote = { cache with byName := cache.byName.insert emote.name emote } := by
  have room : (!cache.contains emote.name && decide (cache.capacity ≤ cache.size)) = false := by
    rw [clearsFor, bne_iff_ne.mpr named, Bool.true_and] at keeps
    exact keeps
  rw [insert, if_neg named]
  simp only [room, Bool.false_eq_true, ↓reduceIte]

/-- **Filing emotes.** While there is room, emotes are added to what the cache holds. -/
theorem insertAll_of_keepsAll (keeps : cache.keepsAll emotes = true) :
    cache.insertAll emotes = { cache with byName := cache.byName.insertMany (filed emotes) } := by
  induction emotes generalizing cache with
  | nil => rw [filed, List.filter_nil, List.map_nil, Std.ExtTreeMap.insertMany_nil]; rfl
  | cons emote rest ih =>
      rw [keepsAll, Bool.and_eq_true, Bool.not_eq_true'] at keeps
      have later := ih keeps.2
      change (cache.insert emote).insertAll rest = _
      by_cases unnamed : emote.name = ""
      · have skipped : filed (emote :: rest) = filed rest := by
          rw [filed, List.filter_cons_of_neg (by simp [unnamed]), filed]
        rw [later, insert_of_unnamed unnamed, skipped]
      · have taken : filed (emote :: rest) = (emote.name, emote) :: filed rest := by
          rw [filed, List.filter_cons_of_pos (by simp [unnamed]), List.map_cons, filed]
        rw [later, insert_of_keeps unnamed keeps.1, taken, Std.ExtTreeMap.insertMany_cons]

theorem contains_insert {emote : Emote} {name : String} (keeps : cache.clearsFor emote = false)
    (held : cache.contains name = true) : (cache.insert emote).contains name = true := by
  by_cases unnamed : emote.name = ""
  · rwa [insert_of_unnamed unnamed]
  · rw [insert_of_keeps unnamed keeps, contains, Std.ExtTreeMap.contains_insert]
    rw [contains] at held
    rw [held, Bool.or_true]

/-- A cache that has every name already is never emptied. -/
theorem keepsAll_of_contains
    (held : ∀ emote ∈ emotes, emote.name ≠ "" → cache.contains emote.name = true) :
    cache.keepsAll emotes = true := by
  induction emotes generalizing cache with
  | nil => rfl
  | cons emote rest ih =>
      have keeps : cache.clearsFor emote = false := by
        by_cases unnamed : emote.name = ""
        · simp [clearsFor, unnamed]
        · simp [clearsFor, held emote List.mem_cons_self unnamed]
      rw [keepsAll, keeps, Bool.not_false, Bool.true_and]
      apply ih
      intro other member named
      exact contains_insert keeps (held other (List.mem_cons_of_mem _ member) named)

theorem contains_insertAll (keeps : cache.keepsAll emotes = true) {emote : Emote}
    (member : emote ∈ emotes) (named : emote.name ≠ "") :
    (cache.insertAll emotes).contains emote.name = true := by
  have among : emote.name ∈ (filed emotes).map Prod.fst := by
    rw [filed, List.map_map]
    exact List.mem_map_of_mem (List.mem_filter.mpr ⟨member, bne_iff_ne.mpr named⟩)
  rw [insertAll_of_keepsAll keeps, contains, Std.ExtTreeMap.contains_insertMany_list,
    List.contains_iff_mem.mpr among, Bool.or_true]

/-- **Filing again.** If all emotes found room, filing them a second time changes nothing. -/
theorem insertAll_insertAll (keeps : cache.keepsAll emotes = true) :
    (cache.insertAll emotes).insertAll emotes = cache.insertAll emotes := by
  have again : (cache.insertAll emotes).keepsAll emotes = true :=
    keepsAll_of_contains fun emote member named => contains_insertAll keeps member named
  rw [insertAll_of_keepsAll again, insertAll_of_keepsAll keeps]
  congr 1
  apply Std.ExtTreeMap.ext_getElem?
  intro name
  rw [Std.ExtTreeMap.getElem?_insertMany_list, Std.ExtTreeMap.getElem?_insertMany_list,
    ← Option.or_assoc, Option.or_self]

theorem insertAll_append (first second : List Emote) :
    cache.insertAll (first ++ second) = (cache.insertAll first).insertAll second :=
  List.foldl_append

theorem keepsAll_append (first second : List Emote) :
    cache.keepsAll (first ++ second) =
      (cache.keepsAll first && (cache.insertAll first).keepsAll second) := by
  induction first generalizing cache with
  | nil => rfl
  | cons emote rest ih =>
      rw [List.cons_append, keepsAll, keepsAll, ih, Bool.and_assoc]
      rfl

theorem insert_of_clears {emote : Emote} (clears : cache.clearsFor emote = true) :
    cache.insert emote = { cache with byName := Std.ExtTreeMap.insert ∅ emote.name emote } := by
  rw [clearsFor, Bool.and_eq_true, bne_iff_ne] at clears
  rw [insert, if_neg clears.1]
  simp only [clears.2, ↓reduceIte]

theorem get?_insert_self {emote : Emote} (named : emote.name ≠ "") :
    (cache.insert emote).get? emote.name = some emote := by
  rw [insert, if_neg named, get?]
  exact Std.ExtTreeMap.getElem?_insert_self

theorem get?_insert_of_ne {emote : Emote} {name : String} (other : emote.name ≠ name) :
    (cache.insert emote).get? name =
      if cache.clearsFor emote = true then none else cache.get? name := by
  have apart : ¬ compare emote.name name = .eq := fun same => other (Std.compare_eq_iff_eq.mp same)
  by_cases clears : cache.clearsFor emote = true
  · rw [if_pos clears, insert_of_clears clears, get?, Std.ExtTreeMap.getElem?_insert, if_neg apart,
      Std.ExtTreeMap.getElem?_empty]
  · rw [if_neg clears]
    by_cases unnamed : emote.name = ""
    · rw [insert_of_unnamed unnamed]
    · rw [insert_of_keeps unnamed (Bool.eq_false_iff.mpr clears), get?,
        Std.ExtTreeMap.getElem?_insert, if_neg apart, get?]

/-- Under a name that is not among them, emotes leave what was there, unless they empty the
cache. -/
theorem get?_insertAll_of_others {name : String} (others : ∀ emote ∈ emotes, emote.name ≠ name) :
    (cache.insertAll emotes).get? name =
      if cache.keepsAll emotes = true then cache.get? name else none := by
  induction emotes generalizing cache with
  | nil => rfl
  | cons emote rest ih =>
      have later : ((cache.insert emote).insertAll rest).get? name = _ :=
        ih fun other member => others other (List.mem_cons_of_mem _ member)
      change ((cache.insert emote).insertAll rest).get? name = _
      rw [later, get?_insert_of_ne (others emote List.mem_cons_self), keepsAll]
      cases cache.clearsFor emote <;> simp

/-- Among some emotes, the last one of its name, with those before it and behind it. -/
structure IsLastOfName (emotes earlier : List Emote) (emote : Emote) (later : List Emote) :
    Prop where
  cut : emotes = earlier ++ [emote] ++ later
  last : ∀ other ∈ later, other.name ≠ emote.name

/-- **The last emote of a name.** The cache has it just when no emote behind it emptied the
cache. -/
theorem get?_insertAll_iff {earlier later : List Emote} {emote : Emote}
    (place : IsLastOfName emotes earlier emote later) (named : emote.name ≠ "") :
    (cache.insertAll emotes).get? emote.name = some emote ↔
      (cache.insertAll (earlier ++ [emote])).keepsAll later = true := by
  have filed : (cache.insertAll (earlier ++ [emote])).get? emote.name = some emote := by
    rw [insertAll_append]
    exact get?_insert_self named
  rw [place.cut, insertAll_append, get?_insertAll_of_others place.last, filed]
  by_cases keeps : (cache.insertAll (earlier ++ [emote])).keepsAll later = true
  · rw [if_pos keeps]
    exact iff_of_true rfl keeps
  · rw [if_neg keeps]
    exact iff_of_false (Option.some_ne_none _).symm keeps

section Room

variable {names : List String}

/-- The cache has no other names than some. -/
def IsWithin (cache : EmoteCache) (names : List String) : Prop :=
  ∀ name, cache.contains name = true → name ∈ names

theorem capacity_insert (emote : Emote) : (cache.insert emote).capacity = cache.capacity := by
  unfold insert
  split <;> rfl

theorem capacity_insertAll (emotes : List Emote) :
    (cache.insertAll emotes).capacity = cache.capacity := by
  induction emotes generalizing cache with
  | nil => rfl
  | cons emote rest ih => exact ih.trans (capacity_insert emote)

theorem contains_eq_isSome (cache : EmoteCache) (name : String) :
    cache.contains name = (cache.get? name).isSome :=
  Std.ExtTreeMap.contains_eq_isSome_getElem?

/-- A cache that is emptied for an emote has that emote only. -/
theorem isWithin_insert_of_clears {emote : Emote} (clears : cache.clearsFor emote = true)
    (among : emote.name ∈ names) : (cache.insert emote).IsWithin names := by
  intro name held
  by_cases same : emote.name = name
  · exact same ▸ among
  · rw [contains_eq_isSome, get?_insert_of_ne same, if_pos clears] at held
    cases held

theorem IsWithin.insert {emote : Emote} (within : cache.IsWithin names)
    (among : emote.name ∈ names) : (cache.insert emote).IsWithin names := by
  by_cases clears : cache.clearsFor emote = true
  · exact isWithin_insert_of_clears clears among
  · intro name held
    by_cases same : emote.name = name
    · exact same ▸ among
    · rw [contains_eq_isSome, get?_insert_of_ne same, if_neg clears, ← contains_eq_isSome] at held
      exact within name held

/-- A cache that has only some of the names that would fit into it is not full for one of them that
it does not have. -/
theorem IsWithin.keeps {emote : Emote} (within : cache.IsWithin names)
    (fit : names.dedup.length ≤ cache.capacity) (among : emote.name ∈ names) :
    cache.clearsFor emote = false := by
  rw [clearsFor, Bool.and_eq_false_imp]
  intro named
  by_cases held : cache.contains emote.name = true
  · rw [held, Bool.not_true, Bool.false_and]
  · have distinct : (emote.name :: cache.byName.keys).Nodup := by
      refine List.nodup_cons.mpr ⟨fun member => held ?_, Std.ExtTreeMap.nodup_keys⟩
      exact Std.ExtTreeMap.contains_iff_mem.mpr (Std.ExtTreeMap.mem_keys.mp member)
    have covered : emote.name :: cache.byName.keys ⊆ names.dedup := by
      intro name member
      apply List.mem_dedup.mpr
      rcases List.mem_cons.mp member with rfl | key
      · exact among
      · exact within name (Std.ExtTreeMap.contains_iff_mem.mpr (Std.ExtTreeMap.mem_keys.mp key))
    have fewer : cache.size < names.dedup.length := by
      have bound := (List.subperm_of_subset distinct covered).length_le
      rwa [List.length_cons, Std.ExtTreeMap.length_keys, Nat.succ_le_iff] at bound
    have room : ¬ cache.capacity ≤ cache.size := by omega
    rw [decide_eq_false room, Bool.and_false]

/-- Emotes whose names fit into a cache that has only names of theirs never empty it. -/
theorem IsWithin.keepsAll (within : cache.IsWithin names)
    (fit : names.dedup.length ≤ cache.capacity) (among : ∀ emote ∈ emotes, emote.name ∈ names) :
    cache.keepsAll emotes = true := by
  induction emotes generalizing cache with
  | nil => rfl
  | cons emote rest ih =>
      have here := among emote List.mem_cons_self
      have there : (cache.insert emote).keepsAll rest = true :=
        ih (within.insert here) (by rwa [capacity_insert])
          fun other member => among other (List.mem_cons_of_mem _ member)
      rw [EmoteCache.keepsAll, within.keeps fit here, there, Bool.not_false, Bool.and_self]

theorem IsWithin.insertAll (within : cache.IsWithin names)
    (among : ∀ emote ∈ emotes, emote.name ∈ names) : (cache.insertAll emotes).IsWithin names := by
  induction emotes generalizing cache with
  | nil => exact within
  | cons emote rest ih =>
      exact ih (within.insert (among emote List.mem_cons_self))
        fun other member => among other (List.mem_cons_of_mem _ member)

/-- A cache that emotes have emptied has only names of theirs. -/
theorem isWithin_insertAll_of_cleared (cleared : cache.keepsAll emotes = false)
    (among : ∀ emote ∈ emotes, emote.name ∈ names) : (cache.insertAll emotes).IsWithin names := by
  induction emotes generalizing cache with
  | nil => cases cleared
  | cons emote rest ih =>
      have here := among emote List.mem_cons_self
      have there := fun other member => among other (List.mem_cons_of_mem emote member)
      by_cases clears : cache.clearsFor emote = true
      · exact (isWithin_insert_of_clears clears here).insertAll there
      · rw [keepsAll, Bool.eq_false_iff.mpr clears, Bool.not_false, Bool.true_and] at cleared
        exact ih cleared there

/-- **Emptied once.** Emotes whose names fit into the cache empty it at most once. -/
theorem keepsAll_of_cleared {earlier later : List Emote}
    (fit : ((earlier ++ later).map Emote.name).dedup.length ≤ cache.capacity)
    (cleared : cache.keepsAll earlier = false) :
    (cache.insertAll earlier).keepsAll later = true := by
  have among (emote : Emote) (member : emote ∈ earlier ++ later) :
      emote.name ∈ (earlier ++ later).map Emote.name :=
    List.mem_map_of_mem member
  have within := isWithin_insertAll_of_cleared cleared fun emote member =>
    among emote (List.mem_append_left _ member)
  apply within.keepsAll
  · rwa [capacity_insertAll]
  · exact fun emote member => among emote (List.mem_append_right _ member)

/-- Where all names fit into the cache, the later emotes find room just when an earlier one did not,
or when there is room for all. -/
theorem keepsAll_behind_iff {earlier later : List Emote}
    (fit : ((earlier ++ later).map Emote.name).dedup.length ≤ cache.capacity) :
    (cache.insertAll earlier).keepsAll later = true ↔
      cache.keepsAll earlier = false ∨ cache.keepsAll (earlier ++ later) = true := by
  rw [keepsAll_append]
  by_cases keeps : cache.keepsAll earlier = true
  · rw [keeps, Bool.true_and]
    exact (or_iff_right Bool.noConfusion).symm
  · have cleared := Bool.eq_false_iff.mpr keeps
    exact iff_of_true (keepsAll_of_cleared fit cleared) (.inl cleared)

end Room

end LiveChat.Chat.EmoteCache
