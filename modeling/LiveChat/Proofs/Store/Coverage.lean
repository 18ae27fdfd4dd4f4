import LiveChat.Proofs.Store.Queries

/-!
# What a cursor has passed

A reader moves a cursor over a log that grows meanwhile. Due are the rows that stood or came in
behind the cursor, taken are those that its scans returned. The taken rows are the due rows that the
cursor has passed, in strict order (`Coverage`), and that outlasts new rows (`Coverage.arrive`) and
scans (`Coverage.scan`). A scan that returns nothing finds that all due rows have been taken
(`Coverage.perm_of_eq_nil`).
-/

namespace LiveChat.Store

structure Coverage (log : MessageLog) (cursor : Position) (due taken : List LogRow) : Prop where
  due_sublist : due.Sublist log.rows
  due_of_before : ∀ row ∈ log.rows, cursor.before row.position = true → row ∈ due
  mem_taken_iff : ∀ row, row ∈ taken ↔ row ∈ due ∧ ¬ cursor.before row.position = true
  taken_pairwise : taken.Pairwise fun earlier later =>
    earlier.position.before later.position = true

namespace Coverage

/-- At the beginning all rows behind the cursor are due, and none has been taken. -/
theorem start (log : MessageLog) (cursor : Position) :
    Coverage log cursor (log.rows.filter fun row => cursor.before row.position) [] where
  due_sublist := List.filter_sublist
  due_of_before row member ahead := List.mem_filter.mpr ⟨member, ahead⟩
  mem_taken_iff row := by
    constructor
    · intro impossible
      cases impossible
    · rintro ⟨due, passed⟩
      exact absurd (List.mem_filter.mp due).2 passed
  taken_pairwise := .nil

variable {log : MessageLog} {cursor : Position} {due taken : List LogRow}

theorem due_nodup (coverage : Coverage log cursor due taken) : due.Nodup :=
  log.rows_nodup.sublist coverage.due_sublist

theorem taken_nodup (coverage : Coverage log cursor due taken) : taken.Nodup := by
  refine coverage.taken_pairwise.imp ?_
  rintro earlier later ahead rfl
  exact Position.before_irrefl _ ahead

theorem mem_rows_of_mem_taken (coverage : Coverage log cursor due taken) {row : LogRow}
    (member : row ∈ taken) : row ∈ log.rows :=
  coverage.due_sublist.subset ((coverage.mem_taken_iff row).mp member).1

/-- A row that comes in behind the cursor is due, and no other that comes in. -/
theorem arrive (coverage : Coverage log cursor due taken) {changed : MessageLog} {row : LogRow}
    (rows : changed.rows = log.rows ++ [row]) :
    Coverage changed cursor
      (due ++ (log.arrivals changed).filter fun row => cursor.before row.position) taken where
  due_sublist := by
    rw [rows, MessageLog.arrivals_of_append rows]
    exact coverage.due_sublist.append List.filter_sublist
  due_of_before other member ahead := by
    rw [rows, List.mem_append] at member
    rw [MessageLog.arrivals_of_append rows, List.mem_append, List.mem_filter]
    rcases member with old | new
    · exact Or.inl (coverage.due_of_before other old ahead)
    · exact Or.inr ⟨new, ahead⟩
  mem_taken_iff other := by
    rw [coverage.mem_taken_iff, List.mem_append, List.mem_filter]
    constructor
    · rintro ⟨due, passed⟩
      exact ⟨Or.inl due, passed⟩
    · rintro ⟨due | ⟨-, ahead⟩, passed⟩
      · exact ⟨due, passed⟩
      · exact absurd ahead passed
  taken_pairwise := coverage.taken_pairwise

/-- A scan takes due rows, and moves the cursor past them. -/
theorem scan (coverage : Coverage log cursor due taken) (limit : Nat) :
    Coverage log (log.reached cursor limit) due (taken ++ log.rowsAfter cursor limit) where
  due_sublist := coverage.due_sublist
  due_of_before row member ahead :=
    coverage.due_of_before row member
      (Position.before_of_not_before (log.not_reached_before cursor limit) ahead)
  mem_taken_iff row := by
    rw [List.mem_append, coverage.mem_taken_iff, log.mem_rowsAfter_iff]
    constructor
    · rintro (⟨due, passed⟩ | ⟨present, ahead, passed⟩)
      · exact ⟨due, fun beyond => passed
          (Position.before_of_not_before (log.not_reached_before cursor limit) beyond)⟩
      · exact ⟨coverage.due_of_before row present ahead, passed⟩
    · rintro ⟨due, passed⟩
      by_cases ahead : cursor.before row.position = true
      · exact Or.inr ⟨coverage.due_sublist.subset due, ahead, passed⟩
      · exact Or.inl ⟨due, ahead⟩
  taken_pairwise := by
    refine List.pairwise_append.mpr
      ⟨coverage.taken_pairwise, log.rowsAfter_pairwise cursor limit, ?_⟩
    intro earlier old later new
    have passed := ((coverage.mem_taken_iff earlier).mp old).2
    have ahead := (log.mem_of_mem_rowsAfter cursor limit new).2
    exact Position.before_of_not_before passed ahead

/-- When a scan returns nothing, all due rows have been taken. -/
theorem perm_of_eq_nil (coverage : Coverage log cursor due taken) {limit : Nat}
    (positive : 0 < limit) (nothing : log.rowsAfter cursor limit = []) : taken.Perm due := by
  refine (List.perm_ext_iff_of_nodup coverage.taken_nodup coverage.due_nodup).mpr ?_
  intro row
  rw [coverage.mem_taken_iff]
  constructor
  · exact fun parts => parts.1
  · intro member
    exact ⟨member, (log.rowsAfter_eq_nil_iff cursor limit positive).mp nothing row
      (coverage.due_sublist.subset member)⟩

end Coverage

end LiveChat.Store
