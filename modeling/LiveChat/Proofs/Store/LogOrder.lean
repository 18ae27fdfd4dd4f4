import LiveChat.Store.Database
import Mathlib.Data.List.Forall2
import Mathlib.Data.List.Perm.Basic

/-!
# The order of the log

Positions are strictly ordered, and no two rows of a log share one. A forward scan therefore cuts
the rows behind a cursor in two: it returns those up to the position that it reached
(`MessageLog.mem_rowsAfter_iff`), and nothing is left behind when it returns none
(`MessageLog.rowsAfter_eq_nil_iff`).
-/

namespace LiveChat.Store

namespace Position

theorem before_iff (left right : Position) :
    left.before right = true ↔
      left.ts < right.ts ∨ left.ts = right.ts ∧ left.rowId < right.rowId := by
  simp only [before, Bool.or_eq_true, decide_eq_true_eq, Bool.and_eq_true, beq_iff_eq]

theorem before_irrefl (position : Position) : ¬ position.before position = true := by
  rw [before_iff]
  omega

/-- A position that is not before another is passed by everything that the other is before. -/
theorem before_of_not_before {first second third : Position}
    (reached : ¬ second.before first = true) (ahead : second.before third = true) :
    first.before third = true := by
  rw [before_iff] at *
  omega

theorem not_before_of_before {first second : Position} (ahead : first.before second = true) :
    ¬ second.before first = true := by
  rw [before_iff] at *
  omega

end Position

/-- The messages of rows, one for each, if all of them can be read. -/
theorem messagesOf_eq_ok_iff (rows : List LogRow) (messages : List StoredMessage) :
    messagesOf rows = .ok messages ↔
      List.Forall₂ (fun row message => row.toMessage = .ok message) rows messages := by
  unfold messagesOf
  induction rows generalizing messages with
  | nil =>
      rw [List.forall₂_nil_left_iff]
      constructor
      · intro read
        cases read
        rfl
      · intro none
        rw [none]
        rfl
  | cons row rest ih =>
      rw [List.mapM_cons, List.forall₂_cons_left_iff]
      cases head : row.toMessage with
      | error failure =>
          constructor
          · intro read
            cases read
          · rintro ⟨message, others, readable, -, -⟩
            cases readable
      | ok message =>
          cases tail : rest.mapM LogRow.toMessage with
          | error failure =>
              constructor
              · intro read
                cases read
              · rintro ⟨first, others, -, readable, -⟩
                rw [(ih others).mpr readable] at tail
                cases tail
          | ok others =>
              constructor
              · intro read
                cases read
                exact ⟨message, others, rfl, (ih others).mp tail, rfl⟩
              · rintro ⟨first, read, readable, rest, rfl⟩
                cases readable
                rw [(ih read).mpr rest] at tail
                cases tail
                rfl

theorem messagesOf_append {first second : List LogRow} {left right : List StoredMessage}
    (readLeft : messagesOf first = .ok left) (readRight : messagesOf second = .ok right) :
    messagesOf (first ++ second) = .ok (left ++ right) := by
  rw [messagesOf_eq_ok_iff] at *
  exact List.rel_append readLeft readRight

theorem eq_nil_iff_of_messagesOf {rows : List LogRow} {messages : List StoredMessage}
    (read : messagesOf rows = .ok messages) : messages = [] ↔ rows = [] := by
  rw [messagesOf_eq_ok_iff] at read
  rw [← List.length_eq_zero_iff, ← read.length_eq, List.length_eq_zero_iff]

namespace MessageLog

theorem placeRow_perm (row : LogRow) (rows : List LogRow) :
    (placeRow row rows).Perm (row :: rows) := by
  induction rows with
  | nil => exact .refl _
  | cons first rest ih =>
      rw [placeRow]
      split
      · exact .refl _
      · exact (ih.cons first).trans (.swap row first rest)

theorem foldr_placeRow_perm (rows : List LogRow) : (rows.foldr placeRow []).Perm rows := by
  induction rows with
  | nil => exact .refl _
  | cons row rest ih => exact (placeRow_perm row _).trans (ih.cons row)

/-- A row of another number finds its place among ordered rows. -/
theorem placeRow_pairwise {row : LogRow} {rows : List LogRow}
    (different : ∀ other ∈ rows, row.rowId ≠ other.rowId)
    (sorted : rows.Pairwise fun left right => left.position.before right.position = true) :
    (placeRow row rows).Pairwise fun left right =>
      left.position.before right.position = true := by
  induction rows with
  | nil => exact List.pairwise_singleton _ _
  | cons first rest ih =>
      obtain ⟨behind, others⟩ := List.pairwise_cons.mp sorted
      rw [placeRow]
      split
      · rename_i ahead
        refine List.pairwise_cons.mpr ⟨fun other member => ?_, sorted⟩
        rcases List.mem_cons.mp member with rfl | later
        · exact ahead
        · have further := behind other later
          simp only [Position.before_iff] at ahead further ⊢
          omega
      · rename_i notAhead
        refine List.pairwise_cons.mpr ⟨fun other member => ?_,
          ih (fun other member => different other (List.mem_cons_of_mem _ member)) others⟩
        rcases List.mem_cons.mp ((placeRow_perm row rest).mem_iff.mp member) with rfl | later
        · have unequal := different first List.mem_cons_self
          simp only [Position.before_iff, LogRow.position] at notAhead ⊢
          omega
        · exact behind other later

variable (log : MessageLog)

theorem ordered_perm : log.ordered.Perm log.rows := foldr_placeRow_perm log.rows

theorem mem_ordered {row : LogRow} : row ∈ log.ordered ↔ row ∈ log.rows :=
  log.ordered_perm.mem_iff

theorem ordered_pairwise :
    log.ordered.Pairwise fun left right => left.position.before right.position = true := by
  unfold ordered
  have numbered := log.numbered
  generalize log.rows = rows at numbered ⊢
  induction rows with
  | nil => exact .nil
  | cons row rest ih =>
      obtain ⟨greater, numbered⟩ := List.pairwise_cons.mp numbered
      refine placeRow_pairwise (fun other member => ?_) (ih numbered)
      exact Nat.ne_of_lt (greater other ((foldr_placeRow_perm rest).mem_iff.mp member))

theorem rows_nodup : log.rows.Nodup := by
  refine log.numbered.imp ?_
  rintro earlier later below rfl
  exact Nat.lt_irrefl _ below

/-- The position at which a scan goes on. -/
def reached (after : Position) (limit : Nat) : Position :=
  ((log.rowsAfter after limit).getLast?.map LogRow.position).getD after

variable (after : Position) (limit : Nat)

/-- A scan returns a leading part of the rows behind the cursor. -/
theorem rowsAfter_append :
    log.rowsAfter after limit ++
        (log.ordered.filter fun row => after.before row.position).drop limit =
      log.ordered.filter fun row => after.before row.position :=
  List.take_append_drop _ _

theorem rowsAfter_pairwise :
    (log.rowsAfter after limit).Pairwise fun left right =>
      left.position.before right.position = true :=
  (log.ordered_pairwise.filter _).sublist (List.take_sublist _ _)

theorem mem_of_mem_rowsAfter {row : LogRow} (member : row ∈ log.rowsAfter after limit) :
    row ∈ log.rows ∧ after.before row.position = true := by
  obtain ⟨present, ahead⟩ := List.mem_filter.mp (List.mem_of_mem_take member)
  exact ⟨log.mem_ordered.mp present, ahead⟩

theorem reached_of_eq_nil (nothing : log.rowsAfter after limit = []) :
    log.reached after limit = after := by
  unfold reached
  rw [nothing]
  rfl

/-- A scan returns just the rows up to the position that it reached. -/
theorem mem_rowsAfter_iff {row : LogRow} :
    row ∈ log.rowsAfter after limit ↔
      row ∈ log.rows ∧ after.before row.position = true ∧
        ¬ (log.reached after limit).before row.position = true := by
  cases final : (log.rowsAfter after limit).getLast? with
  | none =>
      have nothing := List.getLast?_eq_none_iff.mp final
      rw [log.reached_of_eq_nil after limit nothing, nothing]
      simp only [List.not_mem_nil, and_not_self, and_false]
  | some last =>
      simp only [reached, final, Option.map_some, Option.getD_some]
      obtain ⟨earlier, split⟩ := List.getLast?_eq_some_iff.mp final
      have sorted := log.rowsAfter_pairwise after limit
      rw [split, List.pairwise_append] at sorted
      constructor
      · intro member
        obtain ⟨present, ahead⟩ := log.mem_of_mem_rowsAfter after limit member
        refine ⟨present, ahead, ?_⟩
        rw [split, List.mem_append, List.mem_singleton] at member
        rcases member with member | rfl
        · exact Position.not_before_of_before
            (sorted.2.2 row member last (List.mem_singleton_self last))
        · exact Position.before_irrefl _
      · rintro ⟨present, ahead, notBeyond⟩
        have behind : row ∈ log.rowsAfter after limit ++
            (log.ordered.filter fun row => after.before row.position).drop limit := by
          rw [rowsAfter_append]
          exact List.mem_filter.mpr ⟨log.mem_ordered.mpr present, ahead⟩
        rcases List.mem_append.mp behind with member | left
        · exact member
        · have cut := log.ordered_pairwise.filter fun row => after.before row.position
          rw [← log.rowsAfter_append after limit, List.pairwise_append] at cut
          exact absurd (cut.2.2 last (List.mem_of_getLast? final) row left) notBeyond

/-- A scan that returns nothing has left nothing behind. -/
theorem rowsAfter_eq_nil_iff (positive : 0 < limit) :
    log.rowsAfter after limit = [] ↔
      ∀ row ∈ log.rows, ¬ after.before row.position = true := by
  unfold rowsAfter
  rw [List.take_eq_nil_iff, List.filter_eq_nil_iff]
  simp only [mem_ordered, Nat.pos_iff_ne_zero.mp positive, false_or]

/-- A scan that returns rows moves on. -/
theorem before_reached (found : log.rowsAfter after limit ≠ []) :
    after.before (log.reached after limit) = true := by
  have last := List.getLast?_eq_some_getLast found
  unfold reached
  rw [last]
  exact (log.mem_of_mem_rowsAfter after limit (List.getLast_mem found)).2

theorem not_reached_before : ¬ (log.reached after limit).before after = true := by
  by_cases nothing : log.rowsAfter after limit = []
  · rw [log.reached_of_eq_nil after limit nothing]
    exact Position.before_irrefl _
  · exact Position.not_before_of_before (log.before_reached after limit nothing)

/-- A scan that returns rows reaches one of them. -/
theorem exists_reached {after : Position} {limit : Nat} (found : log.rowsAfter after limit ≠ []) :
    ∃ row ∈ log.rowsAfter after limit, log.reached after limit = row.position := by
  refine ⟨(log.rowsAfter after limit).getLast found, List.getLast_mem found, ?_⟩
  rw [reached, List.getLast?_eq_some_getLast found]
  rfl

/-- The end of the log is the position of a row, or the origin where there is none. -/
theorem tailHead_cases :
    log.tailHead = .origin ∨ ∃ row ∈ log.rows, log.tailHead = row.position := by
  unfold tailHead
  cases final : log.ordered.getLast? with
  | none => exact .inl rfl
  | some last => exact .inr ⟨last, log.mem_ordered.mp (List.mem_of_getLast? final), rfl⟩

/-- Nothing is behind the end of the log. -/
theorem not_tailHead_before {row : LogRow} (member : row ∈ log.rows) :
    ¬ log.tailHead.before row.position = true := by
  rw [← log.mem_ordered] at member
  unfold tailHead
  cases final : log.ordered.getLast? with
  | none =>
      rw [List.getLast?_eq_none_iff.mp final] at member
      cases member
  | some last =>
      obtain ⟨earlier, split⟩ := List.getLast?_eq_some_iff.mp final
      have sorted := log.ordered_pairwise
      rw [split, List.pairwise_append] at sorted
      rw [split, List.mem_append, List.mem_singleton] at member
      rcases member with member | rfl
      · exact Position.not_before_of_before
          (sorted.2.2 row member last (List.mem_singleton_self last))
      · exact Position.before_irrefl _

end MessageLog

end LiveChat.Store
