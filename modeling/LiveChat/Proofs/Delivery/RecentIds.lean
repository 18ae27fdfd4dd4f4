import LiveChat.Proofs.Delivery.SeenIds
import Mathlib.Data.List.DropRight
import Mathlib.Data.List.Nodup

/-!
# Which ids are still remembered

The set of sent ids is emptied each time that a fresh id finds it full. So what it holds is told by
how many ids were fresh until then: it is a last part of them, which grows by one with each fresh id
and starts over at one (`recent_concat_of_room`, `recent_concat_of_full`). Recording a fresh id keeps
the set in step with that (`HoldsRecent.insert`), and so does any run of recordings
(`holdsRecent_insertAll`). An id that was recorded is fresh again only if the set was emptied since
(`exists_forgets`).
-/

namespace LiveChat.Delivery.SeenIds

variable {seen : SeenIds} {limit : Nat} {fresh : List String} {id : String}

/-- The set after ids were recorded one after the other. -/
def insertAll (seen : SeenIds) (ids : List String) : SeenIds :=
  ids.foldl (fun seen id => (seen.insert id).2) seen

/-- The ids that were fresh when they were recorded. -/
def freshOf (seen : SeenIds) : List String → List String
  | [] => []
  | id :: rest =>
      if (seen.insert id).1 then id :: (seen.insert id).2.freshOf rest
      else (seen.insert id).2.freshOf rest

theorem insertAll_append (seen : SeenIds) (first second : List String) :
    seen.insertAll (first ++ second) = (seen.insertAll first).insertAll second :=
  List.foldl_append

theorem insertAll_concat (seen : SeenIds) (ids : List String) (id : String) :
    seen.insertAll (ids ++ [id]) = ((seen.insertAll ids).insert id).2 :=
  insertAll_append seen ids [id]

theorem freshOf_concat (seen : SeenIds) (ids : List String) (id : String) :
    seen.freshOf (ids ++ [id]) =
      seen.freshOf ids ++ if ((seen.insertAll ids).insert id).1 then [id] else [] := by
  induction ids generalizing seen with
  | nil => rfl
  | cons first rest ih =>
      have later := ih (seen.insert first).2
      rw [List.cons_append, freshOf, freshOf]
      by_cases isFresh : (seen.insert first).1 = true
      · rw [if_pos isFresh, if_pos isFresh, later]
        rfl
      · rw [if_neg isFresh, if_neg isFresh, later]
        rfl

section Recent

/-- How many of the last fresh ids are remembered, out of a number of them. -/
def recentCount (limit count : Nat) : Nat := if count = 0 then 0 else (count - 1) % limit + 1

/-- The fresh ids that are remembered. -/
def recent (limit : Nat) (fresh : List String) : List String :=
  fresh.rtake (recentCount limit fresh.length)

theorem recentCount_succ (limit count : Nat) : recentCount limit (count + 1) = count % limit + 1 :=
  rfl

theorem recentCount_le (positive : 0 < limit) (count : Nat) : recentCount limit count ≤ limit := by
  cases count with
  | zero => exact Nat.zero_le _
  | succ count => exact Nat.mod_lt count positive

/-- One more fresh id finds the set full, and it is the only one then. -/
theorem recentCount_succ_of_full (positive : 0 < limit) {count : Nat}
    (full : recentCount limit count = limit) : recentCount limit (count + 1) = 1 := by
  cases count with
  | zero => exact absurd full (Nat.ne_of_lt positive)
  | succ count =>
      rw [recentCount_succ] at full
      rw [recentCount_succ, ← Nat.mod_add_mod, full, Nat.mod_self]

/-- One more fresh id finds room. -/
theorem recentCount_succ_of_room {count : Nat} (room : recentCount limit count < limit) :
    recentCount limit (count + 1) = recentCount limit count + 1 := by
  cases count with
  | zero => exact congrArg (· + 1) (Nat.zero_mod limit)
  | succ count =>
      rw [recentCount_succ] at room
      rw [recentCount_succ, recentCount_succ, ← Nat.mod_add_mod, Nat.mod_eq_of_lt room]

theorem recent_concat_of_full (positive : 0 < limit)
    (full : recentCount limit fresh.length = limit) (id : String) :
    recent limit (fresh ++ [id]) = [id] := by
  rw [recent, List.length_append, List.length_singleton, recentCount_succ_of_full positive full,
    List.rtake_concat_succ, List.rtake_zero, List.nil_append]

theorem recent_concat_of_room (room : recentCount limit fresh.length < limit) (id : String) :
    recent limit (fresh ++ [id]) = recent limit fresh ++ [id] := by
  rw [recent, List.length_append, List.length_singleton, recentCount_succ_of_room room,
    List.rtake_concat_succ, recent]

end Recent

/-- The set holds a last part of the fresh ids, each of them once. -/
structure HoldsRecent (seen : SeenIds) (limit : Nat) (fresh : List String) : Prop where
  capacity : seen.capacity = limit
  mem_iff : ∀ id, id ∈ seen.ids ↔ id ∈ recent limit fresh
  distinct : (recent limit fresh).Nodup
  size : seen.size = recentCount limit fresh.length

namespace HoldsRecent

theorem withCapacity (capacity : Nat) :
    (SeenIds.withCapacity capacity).HoldsRecent (max capacity 1) [] where
  capacity := rfl
  mem_iff _ := iff_of_false Std.ExtTreeSet.not_mem_empty List.not_mem_nil
  distinct := List.nodup_nil
  size := Std.ExtTreeSet.size_empty

theorem size_le (holds : seen.HoldsRecent limit fresh) (positive : 0 < limit) :
    seen.size ≤ limit := by
  rw [holds.size]
  exact recentCount_le positive _

/-- A fresh id that finds the set full. -/
theorem insert_of_full (holds : seen.HoldsRecent limit fresh) (positive : 0 < limit)
    (unknown : seen.contains id = false) (full : recentCount limit fresh.length = limit) :
    (seen.insert id).2.HoldsRecent limit (fresh ++ [id]) := by
  have only := recent_concat_of_full positive full id
  have emptied : seen.forgets id = true := by
    rw [forgets, unknown, holds.capacity, holds.size, full, decide_eq_true (Nat.le_refl _)]
    rfl
  refine ⟨(capacity_insert seen id).trans holds.capacity, fun held => ?_, ?_, ?_⟩
  · rw [mem_insert_of_forgets emptied, only, List.mem_singleton]
  · rw [only]
    exact List.nodup_singleton id
  · rw [List.length_append, List.length_singleton, recentCount_succ_of_full positive full,
      SeenIds.size, ids_insert_of_forgets emptied, Std.ExtTreeSet.size_insert,
      Std.ExtTreeSet.contains_empty]
    rfl

/-- A fresh id that finds room in the set. -/
theorem insert_of_room (holds : seen.HoldsRecent limit fresh)
    (unknown : seen.contains id = false) (room : recentCount limit fresh.length < limit) :
    (seen.insert id).2.HoldsRecent limit (fresh ++ [id]) := by
  have grown := recent_concat_of_room room id
  have notFull : ¬ seen.capacity ≤ seen.size := by
    rw [holds.capacity, holds.size]
    exact Nat.not_le.mpr room
  have ids : (seen.insert id).2.ids = seen.ids.insert id := by
    rw [insert_of_not_contains unknown, if_neg notFull]
  refine ⟨(capacity_insert seen id).trans holds.capacity, fun held => ?_, ?_, ?_⟩
  · rw [ids, grown, Std.ExtTreeSet.mem_insert, Std.LawfulEqCmp.compare_eq_iff_eq, holds.mem_iff,
      List.mem_append, List.mem_singleton, or_comm, eq_comm]
  · have absent : id ∉ recent limit fresh := by
      rw [← holds.mem_iff, ← contains_iff_mem, unknown]
      exact Bool.false_ne_true
    rw [grown, ← List.concat_eq_append]
    exact holds.distinct.concat absent
  · have absent : seen.ids.contains id = false := unknown
    rw [List.length_append, List.length_singleton, recentCount_succ_of_room room, ← holds.size,
      SeenIds.size, ids, Std.ExtTreeSet.size_insert, absent]
    rfl

theorem insert (holds : seen.HoldsRecent limit fresh) (positive : 0 < limit)
    (unknown : seen.contains id = false) :
    (seen.insert id).2.HoldsRecent limit (fresh ++ [id]) := by
  rcases Nat.lt_or_eq_of_le (recentCount_le positive fresh.length) with room | full
  · exact holds.insert_of_room unknown room
  · exact holds.insert_of_full positive unknown full

end HoldsRecent

theorem limit_pos (capacity : Nat) : 0 < max capacity 1 :=
  Nat.lt_of_lt_of_le Nat.one_pos (Nat.le_max_right _ _)

/-- Whatever was recorded, the set holds a last part of the ids that were fresh. -/
theorem holdsRecent_insertAll (capacity : Nat) (ids : List String) :
    ((withCapacity capacity).insertAll ids).HoldsRecent (max capacity 1)
      ((withCapacity capacity).freshOf ids) := by
  -- From the end, as what is remembered depends on all that was fresh before.
  induction ids using List.reverseRecOn with
  | nil => exact HoldsRecent.withCapacity capacity
  | append_singleton ids id ih =>
      rw [insertAll_concat, freshOf_concat, fst_insert]
      cases known : ((withCapacity capacity).insertAll ids).contains id with
      | true =>
          rw [insert_of_contains known, Bool.not_true, if_neg Bool.false_ne_true, List.append_nil]
          exact ih
      | false =>
          rw [Bool.not_false, if_pos rfl]
          exact ih.insert (limit_pos capacity) known

/-- An id gets lost only by an id that empties the set. -/
theorem exists_forgets {ids : List String} (known : seen.contains id = true)
    (lost : (seen.insertAll ids).contains id = false) :
    ∃ front other back, ids = front ++ other :: back ∧
      (seen.insertAll front).forgets other = true := by
  induction ids generalizing seen with
  | nil => cases known.symm.trans lost
  | cons next rest ih =>
      cases emptied : seen.forgets next with
      | true => exact ⟨[], next, rest, rfl, emptied⟩
      | false =>
          obtain ⟨front, other, back, rfl, later⟩ :=
            ih (contains_insert_of_contains emptied known) lost
          exact ⟨next :: front, other, back, rfl, later⟩

/-- **What the set remembers.** Of the ids that were fresh when they were recorded, the set holds
exactly the last ones, each once: their number grows by one with each fresh id and starts over at one
behind the limit, which it never exceeds. An id is not fresh if and only if it is in the set, which
is then left as it is. An id that is fresh although it was recorded before was lost in between, by a
fresh id that emptied the set and was alone in it. -/
theorem holds_last_fresh_ids (capacity : Nat) (ids : List String) :
    let limit := max capacity 1
    let recorded := (withCapacity capacity).insertAll
    let seen := recorded ids
    seen.HoldsRecent limit ((withCapacity capacity).freshOf ids) ∧ seen.size ≤ limit ∧
      (∀ id, (seen.contains id = true ↔ id ∈ seen.ids) ∧
        ((seen.insert id).1 = false ↔ id ∈ seen.ids) ∧
        (id ∈ seen.ids → (seen.insert id).2 = seen)) ∧
      ∀ id earlier middle, ids = earlier ++ id :: middle → (seen.insert id).1 = true →
        ∃ front other back, middle = front ++ other :: back ∧
          (recorded (earlier ++ id :: front)).forgets other = true ∧
          ∀ held, held ∈ (recorded (earlier ++ id :: front ++ [other])).ids ↔ held = other := by
  intro limit recorded seen
  have holds : seen.HoldsRecent limit _ := holdsRecent_insertAll capacity ids
  refine ⟨holds, holds.size_le (limit_pos capacity), fun id => ⟨?_, ?_, ?_⟩, ?_⟩
  · exact contains_iff_mem seen id
  · exact fst_insert_eq_false_iff seen id
  · intro member
    rw [insert_of_contains ((contains_iff_mem seen id).mpr member)]
  · intro id earlier middle split again
    have known : (recorded (earlier ++ [id])).contains id = true := by
      change ((withCapacity capacity).insertAll _).contains id = true
      rw [insertAll_concat]
      exact contains_insert_self _ id
    have behind (front : List String) :
        (recorded (earlier ++ [id])).insertAll front = recorded (earlier ++ id :: front) := by
      change ((withCapacity capacity).insertAll _).insertAll front =
        (withCapacity capacity).insertAll _
      rw [← insertAll_append, List.append_assoc]
      rfl
    have lost : ((recorded (earlier ++ [id])).insertAll middle).contains id = false := by
      rw [behind, ← split, ← Bool.not_eq_true', ← fst_insert]
      exact again
    obtain ⟨front, other, back, place, emptied⟩ := exists_forgets known lost
    rw [behind] at emptied
    refine ⟨front, other, back, place, emptied, fun held => ?_⟩
    change held ∈ ((withCapacity capacity).insertAll _).ids ↔ _
    rw [insertAll_concat]
    exact mem_insert_of_forgets emptied held

/-- The fourth fresh id empties a set for three, so that the first one is fresh again. -/
theorem holds_last_fresh_ids_of_four :
    let ids := ["a", "a", "b", "c", "d"]
    let seen := (withCapacity 3).insertAll ids
    (withCapacity 3).freshOf ids = ["a", "b", "c", "d"] ∧ (∀ id, id ∈ seen.ids ↔ id = "d") ∧
      seen.size = 1 ∧ (seen.insert "a").1 = true ∧
      ∃ front other back, ["a", "b", "c", "d"] = front ++ other :: back ∧
        ((withCapacity 3).insertAll ("a" :: front)).forgets other = true := by
  intro ids seen
  have fresh : (withCapacity 3).freshOf ids = ["a", "b", "c", "d"] := by decide +kernel
  have again : (seen.insert "a").1 = true := by decide +kernel
  obtain ⟨holds, -, -, lost⟩ := holds_last_fresh_ids 3 ids
  rw [fresh] at holds
  obtain ⟨front, other, back, place, emptied, -⟩ := lost "a" [] _ rfl again
  refine ⟨fresh, fun id => ?_, holds.size, again, front, other, back, place, emptied⟩
  rw [holds.mem_iff, ← List.mem_singleton]
  rfl

end LiveChat.Delivery.SeenIds
