import LiveChat.Delivery.SeenIds

/-!
# What the set of sent ids remembers

Recording an id adds that id and no other (`SeenIds.contains_insert_self`,
`SeenIds.contains_of_contains_insert`). It loses ids only when it empties the set, which it does for
a fresh id that finds the set full (`SeenIds.forgets`), and is alone in it then
(`SeenIds.mem_insert_of_forgets`).
-/

namespace LiveChat.Delivery.SeenIds

/-- Recording the id empties the set first. -/
def forgets (seen : SeenIds) (id : String) : Bool :=
  !seen.contains id && seen.capacity ≤ seen.size

variable {seen : SeenIds} {id other : String}

theorem not_contains_empty : empty.contains id = false := Std.ExtTreeSet.contains_empty

theorem insert_of_contains (known : seen.contains id = true) : seen.insert id = (false, seen) := by
  unfold insert
  rw [if_pos known]

theorem fst_insert (seen : SeenIds) (id : String) : (seen.insert id).1 = !seen.contains id := by
  unfold insert
  by_cases known : seen.contains id = true
  · rw [if_pos known, known]
    rfl
  · rw [if_neg known, Bool.eq_false_iff.mpr known]
    rfl

theorem contains_iff_mem (seen : SeenIds) (id : String) :
    seen.contains id = true ↔ id ∈ seen.ids :=
  Std.ExtTreeSet.contains_iff_mem

theorem fst_insert_eq_false_iff (seen : SeenIds) (id : String) :
    (seen.insert id).1 = false ↔ id ∈ seen.ids := by
  rw [fst_insert, Bool.not_eq_false', contains_iff_mem]

theorem capacity_insert (seen : SeenIds) (id : String) :
    (seen.insert id).2.capacity = seen.capacity := by
  unfold insert
  split <;> rfl

/-- What recording a fresh id leaves of the set. -/
theorem insert_of_not_contains (fresh : seen.contains id = false) :
    (seen.insert id).2.ids = (if seen.capacity ≤ seen.size then ∅ else seen.ids).insert id := by
  unfold insert
  rw [if_neg (Bool.eq_false_iff.mp fresh)]

theorem contains_insert_self (seen : SeenIds) (id : String) :
    (seen.insert id).2.contains id = true := by
  by_cases known : seen.contains id = true
  · rw [insert_of_contains known]
    exact known
  · unfold contains
    rw [insert_of_not_contains (Bool.eq_false_iff.mpr known)]
    exact Std.ExtTreeSet.contains_insert_self

/-- Recording an id adds no other. -/
theorem contains_of_contains_insert (recorded : (seen.insert id).2.contains other = true)
    (different : other ≠ id) : seen.contains other = true := by
  by_cases known : seen.contains id = true
  · rw [insert_of_contains known] at recorded
    exact recorded
  · unfold contains at recorded
    rw [insert_of_not_contains (Bool.eq_false_iff.mpr known), Std.ExtTreeSet.contains_insert,
      Bool.or_eq_true, beq_iff_eq, Std.LawfulEqCmp.compare_eq_iff_eq] at recorded
    rcases recorded with same | old
    · exact absurd same.symm different
    · split at old
      · rw [Std.ExtTreeSet.contains_empty] at old
        cases old
      · exact old

/-- Recording an id without emptying the set loses none. -/
theorem contains_insert_of_contains (kept : seen.forgets id = false)
    (known : seen.contains other = true) : (seen.insert id).2.contains other = true := by
  by_cases found : seen.contains id = true
  · rw [insert_of_contains found]
    exact known
  · have fresh := Bool.eq_false_iff.mpr found
    have room : ¬ seen.capacity ≤ seen.size := by
      intro full
      unfold forgets at kept
      rw [fresh, decide_eq_true full] at kept
      cases kept
    unfold contains
    rw [insert_of_not_contains fresh, if_neg room, Std.ExtTreeSet.contains_insert, Bool.or_eq_true]
    exact Or.inr known

/-- A fresh id that finds the set full is alone in it afterwards. -/
theorem ids_insert_of_forgets (emptied : seen.forgets id = true) :
    (seen.insert id).2.ids = (∅ : Std.ExtTreeSet String).insert id := by
  rw [forgets, Bool.and_eq_true, Bool.not_eq_true', decide_eq_true_eq] at emptied
  rw [insert_of_not_contains emptied.1, if_pos emptied.2]

theorem mem_insert_of_forgets (emptied : seen.forgets id = true) (held : String) :
    held ∈ (seen.insert id).2.ids ↔ held = id := by
  rw [ids_insert_of_forgets emptied, Std.ExtTreeSet.mem_insert,
    Std.LawfulEqCmp.compare_eq_iff_eq, or_iff_left Std.ExtTreeSet.not_mem_empty]
  exact eq_comm

end LiveChat.Delivery.SeenIds
