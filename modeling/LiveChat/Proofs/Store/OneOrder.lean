import LiveChat.Proofs.Store.Reading
import LiveChat.Proofs.Store.Newest
import Mathlib.Data.List.DropRight

/-!
# One order for all scans

The rows of a log have one order by position (`eq_of_perm_of_ascending`), and every query is told by
it: the newest messages are the last rows backwards (`Database.Serves.recent_eq`), a bound in time
cuts the rows in two (`Ascending.filter_append_filter`), a forward scan shows the first rows behind
its cursor (`Database.Serves.tailNext_eq`), and a purge leaves the rows on one side of a bound as
they are (`Database.Serves.exists_purgeBefore`). A store goes on to answer in this way whatever
messages come in and whatever is purged (`Database.Serves.run`).
-/

namespace LiveChat.Store

open LiveChat.Time

/-- Rows in ascending order of their positions. -/
def Ascending (rows : List LogRow) : Prop :=
  rows.Pairwise fun left right => left.position.before right.position = true

/-- There is one way to put rows into order. -/
theorem eq_of_perm_of_ascending {left right : List LogRow} (perm : left.Perm right)
    (first : Ascending left) (second : Ascending right) : left = right := by
  apply perm.eq_of_pairwise _ first second
  intro row other _ _ ahead behind
  exact absurd behind (Position.not_before_of_before ahead)

theorem not_older (cutoff : Int) :
    (fun row : LogRow => !decide (row.ts < cutoff)) = fun row => decide (cutoff ≤ row.ts) := by
  funext row
  rw [← decide_not, decide_eq_decide, Int.not_lt]

/-- A bound in time cuts ordered rows in two. -/
theorem Ascending.filter_append_filter {rows : List LogRow} (ascending : Ascending rows)
    (cutoff : Int) :
    (rows.filter fun row => row.ts < cutoff) ++ (rows.filter fun row => cutoff ≤ row.ts) =
      rows := by
  apply eq_of_perm_of_ascending
  · rw [← not_older]
    exact List.filter_append_perm _ rows
  · refine List.pairwise_append.mpr ⟨ascending.filter _, ascending.filter _, ?_⟩
    intro old older new newer
    have early := of_decide_eq_true (List.mem_filter.mp older).2
    have late := of_decide_eq_true (List.mem_filter.mp newer).2
    rw [Position.before_iff]
    exact .inl (Int.lt_of_lt_of_le early late)
  · exact ascending

/-- The last rows of a list, or all of them where the limit is zero. -/
def lastOf (limit : Nat) (rows : List LogRow) : List LogRow :=
  if limit = 0 then rows else rows.rtake limit

theorem upTo_reverse (limit : Nat) (rows : List LogRow) :
    MessageLog.upTo limit rows.reverse = (lastOf limit rows).reverse := by
  unfold MessageLog.upTo lastOf
  split
  · rfl
  · rw [List.rtake_eq_reverse_take_reverse, List.reverse_reverse]

/-- The position of the last row, or a given one where there is none. -/
def endOf (rows : List LogRow) (otherwise : Position) : Position :=
  (rows.getLast?.map LogRow.position).getD otherwise

namespace LogRow

/-- The message of a row, where it can be read. -/
def shown (row : LogRow) : StoredMessage := row.toMessage.toOption.getD (.new "" ⟨0, 0⟩)

theorem toMessage_eq_shown {row : LogRow} (readable : row.isReadable = true) :
    row.toMessage = .ok row.shown := by
  obtain ⟨message, read⟩ := LogRow.exists_toMessage readable
  rw [shown, read]
  rfl

end LogRow

theorem messagesOf_eq_shown {rows : List LogRow}
    (readable : ∀ row ∈ rows, row.isReadable = true) :
    messagesOf rows = .ok (rows.map LogRow.shown) := by
  rw [messagesOf_eq_ok_iff, List.forall₂_map_right_iff, List.forall₂_same]
  exact fun row member => LogRow.toMessage_eq_shown (readable row member)

namespace MessageLog

variable {log changed : MessageLog}

theorem ascending_ordered (log : MessageLog) : Ascending log.ordered := log.ordered_pairwise

/-- Rows that are left keep their order. -/
theorem ordered_of_filter {test : LogRow → Bool} (rows : changed.rows = log.rows.filter test) :
    changed.ordered = log.ordered.filter test := by
  apply eq_of_perm_of_ascending
  · have perm := changed.ordered_perm
    rw [rows] at perm
    exact perm.trans (log.ordered_perm.filter test).symm
  · exact changed.ascending_ordered
  · exact log.ascending_ordered.filter test

theorem newestRows_eq (log : MessageLog) (query : RecentQuery) :
    log.newestRows query =
      (lastOf query.limit.toNat (log.ordered.filter query.admits)).reverse := by
  rw [newestRows, List.filter_reverse, upTo_reverse]

end MessageLog

namespace Database

/-- A store that is open for reading and writing, and has readable rows only. -/
structure Serves (database : Database) : Prop where
  answers : database.Answers
  writable : database.connection.readOnly = false
  readable : ∀ row ∈ database.tables.log.rows, row.isReadable = true

namespace Serves

variable {database : Database}

theorem writable_eq_ok (serves : database.Serves) : database.writable = .ok () := by
  unfold Database.writable
  rw [serves.answers.ready]
  change database.connection.checkWritable = _
  rw [Connection.checkWritable, serves.writable]
  rfl

theorem messagesOf_eq (serves : database.Serves) {rows : List LogRow}
    (among : ∀ row ∈ rows, row ∈ database.tables.log.ordered) :
    messagesOf rows = .ok (rows.map LogRow.shown) := by
  apply messagesOf_eq_shown
  intro row member
  exact serves.readable row (database.tables.log.mem_ordered.mp (among row member))

/-- The newest messages are the last rows within the bounds, backwards. -/
theorem recent_eq (serves : database.Serves) {query : RecentQuery}
    (accepted : query.check = .ok ()) :
    database.recent query =
      .ok ((lastOf query.limit.toNat (database.tables.log.ordered.filter query.admits)).reverse.map
        LogRow.shown) := by
  have among : ∀ row ∈
      (lastOf query.limit.toNat (database.tables.log.ordered.filter query.admits)).reverse,
      row ∈ database.tables.log.ordered := by
    intro row member
    rw [List.mem_reverse, lastOf] at member
    apply List.mem_of_mem_filter (p := query.admits)
    split at member
    · exact member
    · exact List.mem_of_mem_drop member
  unfold recent
  rw [accepted, serves.answers.ready]
  change (database.connection.checkColumn "ts" _ >>= _) = _
  rw [serves.answers.checkColumn]
  change messagesOf _ = _
  rw [MessageLog.newestRows_eq]
  exact serves.messagesOf_eq among

theorem recent_newest (serves : database.Serves) (limit : Nat) :
    database.recent ⟨limit, none, none⟩ =
      .ok ((lastOf limit database.tables.log.ordered).reverse.map LogRow.shown) := by
  have admitted : database.tables.log.ordered.filter (RecentQuery.admits ⟨limit, none, none⟩) =
      database.tables.log.ordered := List.filter_eq_self.mpr fun _ _ => rfl
  rw [serves.recent_eq rfl, admitted]
  rfl

theorem recent_since (serves : database.Serves) (limit : Nat) (cutoff : Int) :
    database.recent ⟨limit, some cutoff, none⟩ =
      .ok ((lastOf limit (database.tables.log.ordered.filter fun row =>
        cutoff ≤ row.ts)).reverse.map LogRow.shown) := by
  have admitted : RecentQuery.admits ⟨limit, some cutoff, none⟩ =
      fun row : LogRow => decide (cutoff ≤ row.ts) := funext fun row => Bool.and_true _
  rw [serves.recent_eq rfl, admitted]
  rfl

theorem recent_before (serves : database.Serves) (limit : Nat) (cutoff : Int) :
    database.recent ⟨limit, none, some cutoff⟩ =
      .ok ((lastOf limit (database.tables.log.ordered.filter fun row =>
        row.ts < cutoff)).reverse.map LogRow.shown) := by
  have admitted : RecentQuery.admits ⟨limit, none, some cutoff⟩ =
      fun row : LogRow => decide (row.ts < cutoff) := funext fun row => Bool.true_and _
  rw [serves.recent_eq rfl, admitted]
  rfl

theorem tailHead_eq (serves : database.Serves) :
    database.tailHead = .ok (endOf database.tables.log.ordered .origin) := by
  unfold tailHead
  rw [serves.answers.ready]
  change (database.connection.checkColumn "ts" _ >>= _) = _
  rw [serves.answers.checkColumn]
  rfl

/-- A forward scan shows the first rows behind its cursor, and goes on at the last of them. -/
theorem tailNext_eq (serves : database.Serves) (after : Position) (limit : Int) :
    database.tailNext after limit =
      (checkBatchLimit limit).map fun _ =>
        let rows := (database.tables.log.ordered.filter fun row =>
          after.before row.position).take limit.toNat
        ⟨rows.map LogRow.shown, endOf rows after⟩ := by
  have among : ∀ row ∈ database.tables.log.rowsAfter after limit.toNat,
      row ∈ database.tables.log.ordered :=
    fun row member => List.mem_of_mem_filter (List.mem_of_mem_take member)
  unfold tailNext
  cases checkBatchLimit limit with
  | error failure => rfl
  | ok accepted =>
      rw [serves.answers.ready]
      change (database.connection.checkColumn "ts" _ >>= _) = _
      rw [serves.answers.checkColumn]
      change (messagesOf _ >>= _) = _
      rw [serves.messagesOf_eq among]
      rfl

/-- Behind the end of the log there is nothing. -/
theorem tailNext_endOf (serves : database.Serves) (limit : Int) :
    database.tailNext (endOf database.tables.log.ordered .origin) limit =
      (checkBatchLimit limit).map fun _ => ⟨[], endOf database.tables.log.ordered .origin⟩ := by
  have nothing : (database.tables.log.ordered.filter fun row =>
      (endOf database.tables.log.ordered .origin).before row.position) = [] := by
    rw [List.filter_eq_nil_iff]
    intro row member
    exact database.tables.log.not_tailHead_before (database.tables.log.mem_ordered.mp member)
  rw [serves.tailNext_eq, nothing, List.take_nil]
  rfl

/-- A purge leaves the rows from a millisecond on, in their order, and counts the older messages. -/
theorem exists_purgeBefore (serves : database.Serves) (cutoff : Int) :
    ∃ older changed, database.recent ⟨0, none, some cutoff⟩ = .ok older ∧
      database.purgeBefore cutoff = .ok (older.length, changed) ∧
      changed.tables.log.ordered =
        database.tables.log.ordered.filter fun row => cutoff ≤ row.ts := by
  refine ⟨_, database.withLog (database.tables.log.keep fun row => !(row.ts < cutoff)),
    serves.recent_before 0 cutoff, ?_, ?_⟩
  · have counted := database.tables.log.ordered_perm.countP_eq fun row => row.ts < cutoff
    rw [List.countP_eq_length_filter] at counted
    rw [Database.purgeBefore, serves.writable_eq_ok, List.length_map, List.length_reverse, lastOf,
      if_pos rfl, counted]
    rfl
  · apply MessageLog.ordered_of_filter
    change database.tables.log.rows.filter _ = _
    rw [not_older]

end Serves

end Database

/-- What changes the log of a store. -/
inductive LogEvent where
  | insert (message : StoredMessage)
  | purgeBefore (cutoff : Int)
  | purgeAll
deriving DecidableEq, Repr

namespace LogEvent

/-- Messages that are added have covered timestamps. -/
def isCovered : LogEvent → Bool
  | .insert message => message.isCovered
  | _ => true

/-- The store after a change that it is asked for. A change that it refuses makes no difference. -/
def carryOut (database : Database) : LogEvent → Database
  | .insert message => (database.insertMessage message).toOption.getD database
  | .purgeBefore cutoff => ((database.purgeBefore cutoff).toOption.map Prod.snd).getD database
  | .purgeAll => (database.purgeAll.toOption.map Prod.snd).getD database

end LogEvent

namespace Database

def run (database : Database) (events : List LogEvent) : Database :=
  events.foldl LogEvent.carryOut database

namespace Serves

variable {database : Database}

theorem carryOut (serves : database.Serves) {event : LogEvent} (covered : event.isCovered = true) :
    (event.carryOut database).Serves := by
  cases event with
  | insert message =>
      cases stored : database.insertMessage message with
      | error failure =>
          rw [LogEvent.carryOut, stored]
          exact serves
      | ok changed =>
          obtain ⟨log, added, rfl⟩ := insertMessage_eq_ok stored
          rw [LogEvent.carryOut, stored]
          refine ⟨serves.answers, serves.writable, ?_⟩
          intro row member
          change row ∈ log.rows at member
          rw [(MessageLog.rows_of_insertMessage added).2] at member
          rcases List.mem_append.mp member with old | new
          · exact serves.readable row old
          · cases List.mem_singleton.mp new
            exact covered
  | purgeBefore cutoff =>
      rw [LogEvent.carryOut, Database.purgeBefore, serves.writable_eq_ok]
      refine ⟨serves.answers, serves.writable, ?_⟩
      intro row member
      exact serves.readable row (List.mem_of_mem_filter member)
  | purgeAll =>
      rw [LogEvent.carryOut, Database.purgeAll, serves.writable_eq_ok]
      refine ⟨serves.answers, serves.writable, ?_⟩
      intro row member
      cases member

/-- A store goes on to serve, whatever changes its log. -/
theorem run (serves : database.Serves) {events : List LogEvent}
    (covered : ∀ event ∈ events, event.isCovered = true) : (database.run events).Serves := by
  induction events generalizing database with
  | nil => exact serves
  | cons event rest ih =>
      obtain ⟨first, others⟩ := List.forall_mem_cons.mp covered
      exact ih (serves.carryOut first) others

end Serves

end Database

end LiveChat.Store
