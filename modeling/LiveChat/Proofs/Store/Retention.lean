import LiveChat.Proofs.Store.Coverage

/-!
# Cursors and purges

A cursor outlives the rows that it was taken from. As long as messages come with timestamps that do
not go back, the numbers of their rows grow with the timestamps, and a purge that leaves a row leaves
the one with the greatest number (`MessageLog.nextRowId_le_of_purge`). So what comes in is behind
every cursor that was found before, and chained scans return it (`Watch.finds_new_rows`). A purge that
leaves nothing lets the numbers begin again, and then the cursor is passed by no row of its own
millisecond until the numbers have caught up (`Watch.renumbered_row_is_skipped`).
-/

namespace LiveChat.Store

open LiveChat.Time

namespace MessageLog

/-- The timestamps do not go back. -/
def Chronological (log : MessageLog) : Prop :=
  log.rows.Pairwise fun earlier later => earlier.ts ≤ later.ts

variable {log changed : MessageLog} {row other : LogRow}

theorem nextRowId_le {bound : Nat} (positive : 0 < bound)
    (below : ∀ row ∈ log.rows, row.rowId < bound) : log.nextRowId ≤ bound := by
  have largest (numbers : List Nat) (start : Nat) (first : start < bound)
      (rest : ∀ number ∈ numbers, number < bound) : numbers.foldl max start < bound := by
    induction numbers generalizing start with
    | nil => exact first
    | cons number numbers ih =>
        refine ih _ (Nat.max_lt.mpr ⟨first, rest number List.mem_cons_self⟩) ?_
        exact fun other member => rest other (List.mem_cons_of_mem _ member)
  refine largest _ 0 positive fun number member => ?_
  obtain ⟨row, present, rfl⟩ := List.mem_map.mp member
  exact below row present

/-- Of two rows, the one with the later timestamp has the greater number. -/
theorem rowId_lt_of_ts_lt (chronological : log.Chronological) (member : row ∈ log.rows)
    (present : other ∈ log.rows) (later : row.ts < other.ts) : row.rowId < other.rowId := by
  have forward : log.rows.Pairwise fun row other => row.ts < other.ts → row.rowId < other.rowId :=
    log.numbered.imp fun {_ _} less => fun _ => less
  have backward : log.rows.Pairwise
      (flip fun row other => row.ts < other.ts → row.rowId < other.rowId) :=
    chronological.imp fun {_ _} order back => absurd back (Int.not_lt.mpr order)
  refine forward.forall_of_forall_of_flip ?_ backward member present later
  exact fun row _ same => absurd same (Int.lt_irrefl _)

/-- A purge that leaves a row leaves the one with the greatest number. -/
theorem nextRowId_le_of_purge (chronological : log.Chronological) {test : LogRow → Bool}
    (upward : ∀ row other : LogRow, test row = true → row.ts ≤ other.ts → test other = true)
    (rows : changed.rows = log.rows.filter test) (left : changed.rows ≠ []) :
    log.nextRowId ≤ changed.nextRowId := by
  obtain ⟨kept, member⟩ := List.exists_mem_of_ne_nil _ left
  rw [rows] at member
  obtain ⟨present, passes⟩ := List.mem_filter.mp member
  refine nextRowId_le (Nat.succ_pos _) fun row stands => ?_
  by_cases stays : test row = true
  · refine changed.rowId_lt_nextRowId row ?_
    rw [rows]
    exact List.mem_filter.mpr ⟨stands, stays⟩
  · -- A row that goes is older than the one that stays, and so has a smaller number.
    have older : row.ts < kept.ts := by
      by_contra order
      exact stays (upward kept row passes (Int.not_lt.mp order))
    refine Nat.lt_trans (rowId_lt_of_ts_lt chronological stands present older) ?_
    refine changed.rowId_lt_nextRowId kept ?_
    rw [rows]
    exact member

theorem nextRowId_le_of_append (rows : changed.rows = log.rows ++ [row]) :
    log.nextRowId ≤ changed.nextRowId := by
  refine nextRowId_le (Nat.succ_pos _) fun other member => changed.rowId_lt_nextRowId other ?_
  rw [rows]
  exact List.mem_append_left _ member

/-- The rows behind a cursor become fewer by a scan that returns some. -/
theorem countP_reached_lt (log : MessageLog) (after : Position) (limit : Nat)
    (found : log.rowsAfter after limit ≠ []) :
    (log.rows.countP fun row => (log.reached after limit).before row.position) <
      log.rows.countP fun row => after.before row.position := by
  obtain ⟨row, member⟩ := List.exists_mem_of_ne_nil _ found
  obtain ⟨present, ahead, passed⟩ := (log.mem_rowsAfter_iff after limit).mp member
  have split := List.countP_eq_countP_filter_add log.rows
    (fun row => after.before row.position) fun row => (log.reached after limit).before row.position
  rw [List.countP_filter, List.countP_filter] at split
  have still : (log.rows.countP fun row =>
      after.before row.position && (log.reached after limit).before row.position) =
        log.rows.countP fun row => (log.reached after limit).before row.position := by
    refine List.countP_congr fun other _ => ?_
    rw [Bool.and_eq_true, and_iff_right_iff_imp]
    exact Position.before_of_not_before (log.not_reached_before after limit)
  have some : 0 < log.rows.countP fun row =>
      after.before row.position && !(log.reached after limit).before row.position := by
    refine List.countP_pos_iff.mpr ⟨row, present, ?_⟩
    simp [ahead, passed]
  omega

end MessageLog

namespace Database

variable {database changed : Database} {removed : Nat}

/-- A purge leaves the rows from a millisecond on. -/
theorem rows_of_purgeBefore {cutoff : Int}
    (purged : database.purgeBefore cutoff = .ok (removed, changed)) :
    changed.tables.log.rows = database.tables.log.rows.filter fun row => !(row.ts < cutoff) := by
  obtain ⟨-, -, done⟩ := bind_eq_ok.mp purged
  cases done
  rfl

theorem rows_of_purgeAll (purged : database.purgeAll = .ok (removed, changed)) :
    changed.tables.log.rows = [] := by
  obtain ⟨-, -, done⟩ := bind_eq_ok.mp purged
  cases done
  rfl

end Database

inductive WatchEvent where
  | insert (message : StoredMessage)
  | purgeBefore (cutoff : Int)
  | purgeAll
  /-- The cursor is put to the end of the log. -/
  | seek
  /-- The rows behind the cursor are scanned, and the cursor is moved past them. -/
  | scan (limit : Int)
deriving DecidableEq, Repr

/-- Somebody keeps a cursor while rows come and go. Nobody else moves it, and it moves nothing, so what
holds of one cursor holds of each. -/
structure Watch where
  database : Database
  /-- The timestamp of the last message that came in. -/
  latest : Int
  /-- The position that the last query returned. -/
  cursor : Position
  /-- A purge left the log empty since the cursor was put to its place. -/
  renewed : Bool
  /-- The rows that came in behind the cursor and were neither purged nor returned since. -/
  awaited : List LogRow

namespace Watch

def log (watch : Watch) : MessageLog := watch.database.tables.log

def start (database : Database) (latest : Int) : Watch := ⟨database, latest, .origin, false, []⟩

/-- What is left after a purge. -/
def purged (watch : Watch) (database : Database) : Watch :=
  { watch with
    database := database
    renewed := watch.renewed || database.tables.log.rows.isEmpty
    awaited := watch.awaited.filter (· ∈ database.tables.log.rows) }

/-- A query that fails changes nothing. -/
def step (watch : Watch) : WatchEvent → Watch
  | .insert message =>
      match watch.database.insertMessage message with
      | .ok database =>
          let arrivals := watch.log.arrivals database.tables.log
          { watch with
            database := database
            latest := message.timestamp.toMillis
            awaited := watch.awaited ++ arrivals.filter fun row => watch.cursor.before row.position }
      | .error _ => watch
  | .purgeBefore cutoff =>
      match watch.database.purgeBefore cutoff with
      | .ok (_, database) => watch.purged database
      | .error _ => watch
  | .purgeAll =>
      match watch.database.purgeAll with
      | .ok (_, database) => watch.purged database
      | .error _ => watch
  | .seek =>
      match watch.database.tailHead with
      | .ok position => { watch with cursor := position, renewed := false, awaited := [] }
      | .error _ => watch
  | .scan limit =>
      match watch.database.tailNext watch.cursor limit with
      | .ok batch =>
          { watch with
            cursor := batch.last
            renewed := watch.renewed && batch.messages.isEmpty
            awaited := watch.awaited.filter (· ∉ watch.log.rowsAfter watch.cursor limit.toNat) }
      | .error _ => watch

def run (watch : Watch) (events : List WatchEvent) : Watch := events.foldl step watch

/-- A message that comes in bears no earlier timestamp than the last one. -/
def follows (watch : Watch) : WatchEvent → Bool
  | .insert message => watch.latest ≤ message.timestamp.toMillis
  | _ => true

/-- The messages of a run come in with timestamps that do not go back. -/
def isOrdered : Watch → List WatchEvent → Bool
  | _, [] => true
  | watch, event :: rest => watch.follows event && (watch.step event).isOrdered rest

/-- A message that is stored gets its row at the end of the log, and the row is awaited if it is
behind the cursor. -/
theorem step_insert {watch : Watch} {message : StoredMessage} {changed : Database}
    (stored : watch.database.insertMessage message = .ok changed) :
    changed.tables.log.rows = watch.log.rows ++ [watch.log.rowFor message] ∧
      watch.step (.insert message) =
        { watch with
          database := changed
          latest := message.timestamp.toMillis
          awaited := watch.awaited ++
            [watch.log.rowFor message].filter fun row => watch.cursor.before row.position } := by
  obtain ⟨log, added, rfl⟩ := Database.insertMessage_eq_ok stored
  have rows : log.rows = watch.log.rows ++ [watch.log.rowFor message] :=
    (MessageLog.rows_of_insertMessage added).2
  have arrived : watch.log.arrivals (watch.database.withLog log).tables.log =
      [watch.log.rowFor message] := MessageLog.arrivals_of_append rows
  refine ⟨rows, ?_⟩
  simp only [step, stored, arrived]

/-- What holds of a watch at all times. -/
structure Valid (watch : Watch) : Prop where
  nonnegative : 0 ≤ watch.latest
  chronological : watch.log.Chronological
  newest : ∀ row ∈ watch.log.rows, row.ts ≤ watch.latest
  cursor_ts : watch.cursor.ts ≤ watch.latest
  cursor_rowId : watch.renewed = false → watch.cursor.rowId < watch.log.nextRowId
  awaited : ∀ row ∈ watch.awaited,
    row ∈ watch.log.rows ∧ watch.cursor.before row.position = true

namespace Valid

variable {watch : Watch}

/-- At the beginning the cursor is before all rows. -/
theorem start {database : Database} {latest : Int} (nonnegative : 0 ≤ latest)
    (chronological : database.tables.log.Chronological)
    (newest : ∀ row ∈ database.tables.log.rows, row.ts ≤ latest) :
    (Watch.start database latest).Valid where
  nonnegative := nonnegative
  chronological := chronological
  newest := newest
  cursor_ts := nonnegative
  cursor_rowId _ := Int.ofNat_lt.mpr (Nat.succ_pos _)
  awaited _ member := nomatch member

/-- A row that comes in is behind the cursor unless it has to do with a purge that left nothing. -/
theorem before_row (valid : watch.Valid) (row : LogRow) (later : watch.latest ≤ row.ts)
    (numbered : row.rowId = watch.log.nextRowId) :
    (watch.renewed = false → watch.cursor.before row.position = true) ∧
      (watch.cursor.before row.position = true ↔
        watch.cursor.ts < row.ts ∨ watch.cursor.rowId < row.rowId) := by
  have order := Int.le_trans valid.cursor_ts later
  have exact : watch.cursor.before row.position = true ↔
      watch.cursor.ts < row.ts ∨ watch.cursor.rowId < row.rowId := by
    rw [Position.before_iff]
    simp only [LogRow.position]
    omega
  refine ⟨fun old => exact.mpr (.inr ?_), exact⟩
  rw [numbered]
  exact valid.cursor_rowId old

theorem insert (valid : watch.Valid) {message : StoredMessage}
    (later : watch.latest ≤ message.timestamp.toMillis) : (watch.step (.insert message)).Valid := by
  cases stored : watch.database.insertMessage message with
  | error failure => simpa only [Watch.step, stored] using valid
  | ok database =>
      obtain ⟨rows, same⟩ := step_insert stored
      rw [same]
      exact
        { nonnegative := Int.le_trans valid.nonnegative later
          chronological := by
            change database.tables.log.rows.Pairwise _
            rw [rows]
            refine List.pairwise_append.mpr
              ⟨valid.chronological, List.pairwise_singleton _ _, ?_⟩
            intro row member other new
            cases List.mem_singleton.mp new
            exact Int.le_trans (valid.newest row member) later
          newest := by
            intro row member
            change row ∈ database.tables.log.rows at member
            rw [rows] at member
            rcases List.mem_append.mp member with old | new
            · exact Int.le_trans (valid.newest row old) later
            · cases List.mem_singleton.mp new
              exact Int.le_refl _
          cursor_ts := Int.le_trans valid.cursor_ts later
          cursor_rowId := by
            intro old
            refine Int.lt_of_lt_of_le (valid.cursor_rowId old) ?_
            exact Int.ofNat_le.mpr (MessageLog.nextRowId_le_of_append rows)
          awaited := by
            intro row member
            change row ∈ database.tables.log.rows ∧ _
            rw [rows]
            rcases List.mem_append.mp member with old | new
            · obtain ⟨present, ahead⟩ := valid.awaited row old
              exact ⟨List.mem_append_left _ present, ahead⟩
            · obtain ⟨new, ahead⟩ := List.mem_filter.mp new
              exact ⟨List.mem_append_right _ new, ahead⟩ }

theorem purged (valid : watch.Valid) {database : Database} (test : LogRow → Bool)
    (upward : ∀ row other : LogRow, test row = true → row.ts ≤ other.ts → test other = true)
    (rows : database.tables.log.rows = watch.log.rows.filter test) :
    (watch.purged database).Valid where
  nonnegative := valid.nonnegative
  chronological := by
    change database.tables.log.rows.Pairwise _
    rw [rows]
    exact valid.chronological.filter test
  newest row member := by
    change row ∈ database.tables.log.rows at member
    rw [rows] at member
    exact valid.newest row (List.mem_filter.mp member).1
  cursor_ts := valid.cursor_ts
  cursor_rowId kept := by
    obtain ⟨old, left⟩ := Bool.or_eq_false_iff.mp kept
    refine Int.lt_of_lt_of_le (valid.cursor_rowId old) (Int.ofNat_le.mpr ?_)
    refine MessageLog.nextRowId_le_of_purge valid.chronological upward rows ?_
    exact List.isEmpty_eq_false_iff.mp left
  awaited row member := by
    obtain ⟨waits, present⟩ := List.mem_filter.mp member
    exact ⟨of_decide_eq_true present, (valid.awaited row waits).2⟩

theorem seek (valid : watch.Valid) : (watch.step .seek).Valid := by
  simp only [Watch.step]
  split
  next position sought =>
      have place : position.ts ≤ watch.latest ∧ position.rowId < watch.log.nextRowId := by
        rw [Database.tailHead_eq_ok sought]
        rcases watch.log.tailHead_cases with origin | ⟨row, member, place⟩
        · rw [show watch.database.tables.log.tailHead = _ from origin]
          exact ⟨valid.nonnegative, Int.ofNat_lt.mpr (Nat.succ_pos _)⟩
        · rw [show watch.database.tables.log.tailHead = _ from place]
          exact ⟨valid.newest row member,
            Int.ofNat_lt.mpr (watch.log.rowId_lt_nextRowId row member)⟩
      exact
        { nonnegative := valid.nonnegative
          chronological := valid.chronological
          newest := valid.newest
          cursor_ts := place.1
          cursor_rowId := fun _ => place.2
          awaited := fun _ member => nomatch member }
  next => exact valid

theorem scan (valid : watch.Valid) (limit : Int) : (watch.step (.scan limit)).Valid := by
  simp only [Watch.step]
  split
  next batch found =>
      obtain ⟨-, read, last⟩ := Database.tailNext_eq_ok found
      have place : batch.last.ts ≤ watch.latest ∧
          ((watch.renewed && batch.messages.isEmpty) = false →
            batch.last.rowId < watch.log.nextRowId) := by
        rw [last]
        by_cases nothing : watch.log.rowsAfter watch.cursor limit.toNat = []
        · have same := watch.log.reached_of_eq_nil watch.cursor limit.toNat nothing
          rw [show watch.database.tables.log.reached _ _ = _ from same,
            (eq_nil_iff_of_messagesOf read).mpr nothing, List.isEmpty_nil, Bool.and_true]
          exact ⟨valid.cursor_ts, valid.cursor_rowId⟩
        · obtain ⟨row, member, same⟩ := watch.log.exists_reached nothing
          rw [show watch.database.tables.log.reached _ _ = _ from same]
          have present := (watch.log.mem_of_mem_rowsAfter watch.cursor limit.toNat member).1
          exact ⟨valid.newest row present,
            fun _ => Int.ofNat_lt.mpr (watch.log.rowId_lt_nextRowId row present)⟩
      exact
        { nonnegative := valid.nonnegative
          chronological := valid.chronological
          newest := valid.newest
          cursor_ts := place.1
          cursor_rowId := place.2
          awaited := by
            intro row member
            obtain ⟨waits, left⟩ := List.mem_filter.mp member
            obtain ⟨present, ahead⟩ := valid.awaited row waits
            refine ⟨present, ?_⟩
            rw [last]
            by_contra passed
            refine of_decide_eq_true left ?_
            exact (watch.log.mem_rowsAfter_iff watch.cursor limit.toNat).mpr
              ⟨present, ahead, passed⟩ }
  next => exact valid

theorem step (valid : watch.Valid) (event : WatchEvent) (later : watch.follows event = true) :
    (watch.step event).Valid := by
  cases event with
  | insert message => exact valid.insert (of_decide_eq_true later)
  | purgeBefore cutoff =>
      simp only [Watch.step]
      split
      next removed database purged =>
          refine valid.purged _ ?_ (Database.rows_of_purgeBefore purged)
          intro row other stays order
          simp only [Bool.not_eq_true', decide_eq_false_iff_not] at stays ⊢
          omega
      next => exact valid
  | purgeAll =>
      simp only [Watch.step]
      split
      next removed database purged =>
          refine valid.purged (fun _ => false) (fun _ _ impossible _ => impossible) ?_
          rw [Database.rows_of_purgeAll purged, List.filter_false]
      next => exact valid
  | seek => exact valid.seek
  | scan limit => exact valid.scan limit

theorem run (valid : watch.Valid) (events : List WatchEvent)
    (ordered : watch.isOrdered events = true) : (watch.run events).Valid := by
  induction events generalizing watch with
  | nil => exact valid
  | cons event rest ih =>
      obtain ⟨later, ordered⟩ := Bool.and_eq_true_iff.mp ordered
      exact ih (valid.step event later) ordered

end Valid

variable {watch : Watch}

/-- A row ceases to be awaited when it is purged, or when a scan returns its message. -/
theorem awaited_step {row : LogRow} (waits : row ∈ watch.awaited) {event : WatchEvent}
    (other : event ≠ .seek) :
    row ∈ (watch.step event).awaited ∨ row ∉ (watch.step event).log.rows ∨
      ∃ limit batch, event = .scan limit ∧
        watch.database.tailNext watch.cursor limit = .ok batch ∧
          ∃ message ∈ batch.messages, row.toMessage = .ok message := by
  have purge (database : Database) : row ∈ (watch.purged database).awaited ∨
      row ∉ (watch.purged database).log.rows := by
    by_cases left : row ∈ database.tables.log.rows
    · exact .inl (List.mem_filter.mpr ⟨waits, decide_eq_true left⟩)
    · exact .inr left
  cases event with
  | insert message =>
      cases stored : watch.database.insertMessage message with
      | error failure => exact .inl (by simpa only [step, stored] using waits)
      | ok database =>
          rw [(step_insert stored).2]
          exact .inl (List.mem_append_left _ waits)
  | purgeBefore cutoff =>
      simp only [step]
      split
      next removed database purged => exact (purge database).imp_right .inl
      next => exact .inl waits
  | purgeAll =>
      simp only [step]
      split
      next removed database purged => exact (purge database).imp_right .inl
      next => exact .inl waits
  | seek => exact absurd rfl other
  | scan limit =>
      cases found : watch.database.tailNext watch.cursor limit with
      | error failure => exact .inl (by simpa only [step, found] using waits)
      | ok batch =>
          by_cases returned : row ∈ watch.log.rowsAfter watch.cursor limit.toNat
          · obtain ⟨-, read, -⟩ := Database.tailNext_eq_ok found
            exact .inr (.inr ⟨limit, batch, rfl, found, exists_message_of_mem read returned⟩)
          · left
            simp only [step, found]
            exact List.mem_filter.mpr ⟨waits, decide_eq_true returned⟩

/-- Scans come to an end: each returns rows or finds that none is left. -/
theorem Valid.awaited_scans (valid : watch.Valid) (answers : watch.database.Answers)
    (readable : ∀ row ∈ watch.log.rows, row.isReadable = true) (limits : List Int)
    (positive : ∀ limit ∈ limits, 0 < limit)
    (enough : (watch.log.rows.countP fun row => watch.cursor.before row.position) ≤
      limits.length) : (watch.run (limits.map .scan)).awaited = [] := by
  induction limits generalizing watch with
  | nil =>
      refine List.eq_nil_iff_forall_not_mem.mpr fun row waits => ?_
      obtain ⟨present, ahead⟩ := valid.awaited row waits
      have behind : 0 < watch.log.rows.countP fun row => watch.cursor.before row.position :=
        List.countP_pos_iff.mpr ⟨row, present, ahead⟩
      exact absurd enough (Nat.not_le.mpr behind)
  | cons limit rest ih =>
      have least := positive limit List.mem_cons_self
      obtain ⟨batch, found⟩ := Database.exists_tailNext answers readable watch.cursor least
      obtain ⟨-, -, last⟩ := Database.tailNext_eq_ok found
      have stepped : watch.step (.scan limit) =
          { watch with
            cursor := watch.log.reached watch.cursor limit.toNat
            renewed := watch.renewed && batch.messages.isEmpty
            awaited := watch.awaited.filter
              (· ∉ watch.log.rowsAfter watch.cursor limit.toNat) } := by
        simp only [Watch.step, found, last]
        rfl
      have valid := valid.scan limit
      rw [stepped] at valid
      change (Watch.run (watch.step (.scan limit)) _).awaited = []
      rw [stepped]
      refine ih valid answers readable (fun other member =>
        positive other (List.mem_cons_of_mem _ member)) ?_
      change watch.log.rows.countP (fun row =>
        (watch.log.reached watch.cursor limit.toNat).before row.position) ≤ rest.length
      rw [List.length_cons] at enough
      by_cases nothing : watch.log.rowsAfter watch.cursor limit.toNat = []
      · have none := (watch.log.rowsAfter_eq_nil_iff watch.cursor limit.toNat (by omega)).mp nothing
        rw [watch.log.reached_of_eq_nil watch.cursor limit.toNat nothing,
          List.countP_eq_zero.mpr none]
        exact Nat.zero_le _
      · have fewer := watch.log.countP_reached_lt watch.cursor limit.toNat nothing
        omega

/-- **Cursors and purges.** Somebody keeps a cursor while messages come in, with timestamps that do
not go back, and are purged. Unless a purge has left the log empty since the cursor was put to its
place, each row that comes in is behind it; in any case it is just if it bears a later timestamp or a
greater number than the cursor. Such a row is awaited from then on until it is purged or its message
is returned by a scan, and on a store that answers, with readable rows, as many scans as there are
rows leave nothing awaited. -/
theorem finds_new_rows (database : Database) (latest : Int) (nonnegative : 0 ≤ latest)
    (chronological : database.tables.log.Chronological)
    (newest : ∀ row ∈ database.tables.log.rows, row.ts ≤ latest) (events : List WatchEvent)
    (ordered : (start database latest).isOrdered events = true) :
    let watch := (start database latest).run events
    (∀ message changed, watch.latest ≤ message.timestamp.toMillis →
      watch.database.insertMessage message = .ok changed →
        let row := watch.log.rowFor message
        (watch.renewed = false → watch.cursor.before row.position = true) ∧
          (watch.cursor.before row.position = true ↔
            watch.cursor.ts < row.ts ∨ watch.cursor.rowId < row.rowId) ∧
          (watch.cursor.before row.position = true →
            row ∈ (watch.step (.insert message)).awaited)) ∧
    (∀ row ∈ watch.awaited, ∀ event, event ≠ .seek →
      row ∈ (watch.step event).awaited ∨ row ∉ (watch.step event).log.rows ∨
        ∃ limit batch, event = .scan limit ∧
          watch.database.tailNext watch.cursor limit = .ok batch ∧
            ∃ message ∈ batch.messages, row.toMessage = .ok message) ∧
    (watch.database.Answers → (∀ row ∈ watch.log.rows, row.isReadable = true) →
      ∀ limits : List Int, (∀ limit ∈ limits, 0 < limit) → watch.log.count ≤ limits.length →
        (watch.run (limits.map .scan)).awaited = []) := by
  intro watch
  have valid : watch.Valid :=
    (Valid.start nonnegative chronological newest).run events ordered
  refine ⟨?_, fun row waits event other => awaited_step waits other, ?_⟩
  · intro message changed later stored row
    obtain ⟨found, exact⟩ := valid.before_row row later rfl
    refine ⟨found, exact, fun ahead => ?_⟩
    rw [(step_insert stored).2]
    refine List.mem_append_right _ (List.mem_filter.mpr ⟨List.mem_singleton_self _, ahead⟩)
  · intro answers readable limits positive enough
    exact valid.awaited_scans answers readable limits positive
      (Nat.le_trans List.countP_le_length enough)

/-- The row of the cursor is purged, and one is left. -/
def thinnedEvents : List WatchEvent :=
  [.insert (spoken "a" 1), .seek, .insert (spoken "b" 1), .insert (spoken "c" 2), .scan 1,
    .purgeBefore 2000]

/-- The watch after these events. -/
def thinned : Watch := (start vacant 0).run thinnedEvents

theorem finds_new_rows_thinned :
    (start vacant 0).isOrdered thinnedEvents = true ∧ thinned.cursor = ⟨1000, 2⟩ ∧
      thinned.log.rows = [.ofEntry (.ofMessage (spoken "c" 2)) 3 2000] ∧
      thinned.cursor.before (thinned.log.rowFor (spoken "d" 2)).position = true ∧
      (thinned.run [.scan 1]).awaited = [] := by
  have ordered : (start vacant 0).isOrdered thinnedEvents = true := by decide +kernel
  have rows : thinned.log.rows = [.ofEntry (.ofMessage (spoken "c" 2)) 3 2000] := by decide +kernel
  have stands : thinned.latest = 2000 ∧ thinned.renewed = false := by decide +kernel
  have answers : thinned.database.Answers := ⟨by decide +kernel, by decide +kernel⟩
  obtain ⟨arrives, -, ends⟩ := finds_new_rows vacant 0 (Int.le_refl 0) .nil
    (fun _ member => absurd member List.not_mem_nil) thinnedEvents ordered
  refine ⟨ordered, by decide +kernel, rows, ?_, ?_⟩
  · have accepted : (thinned.database.insertMessage (spoken "d" 2)).isOk = true := by decide +kernel
    cases stored : thinned.database.insertMessage (spoken "d" 2) with
    | error failure =>
        rw [stored] at accepted
        cases accepted
    | ok changed =>
        have later : thinned.latest ≤ (spoken "d" 2).timestamp.toMillis := by
          rw [stands.1]
          decide
        exact (arrives (spoken "d" 2) changed later stored).1 stands.2
  · refine ends answers ?_ [1] (by decide) ?_
    · rw [show ((start vacant 0).run thinnedEvents).log.rows = _ from rows]
      decide +kernel
    · rw [MessageLog.count, show ((start vacant 0).run thinnedEvents).log.rows = _ from rows]
      decide

/-- **A row under an old number is skipped.** The cursor stands at the first row of a millisecond. All
rows are purged, and another one comes in within the same millisecond. It gets the number of the
first row again, is not behind the cursor, and is returned by no scan. -/
theorem renumbered_row_is_skipped :
    let watch := (start vacant 0).run
      [.insert (spoken "a" 1), .seek, .purgeAll, .insert (spoken "b" 1)]
    (start vacant 0).isOrdered [.insert (spoken "a" 1), .seek, .purgeAll, .insert (spoken "b" 1)] =
        true ∧
      watch.cursor = ⟨1000, 1⟩ ∧ watch.log.rows.map LogRow.position = [⟨1000, 1⟩] ∧
      watch.database.tailNext watch.cursor 10 = .ok ⟨[], ⟨1000, 1⟩⟩ := by
  refine ⟨?_, ?_, ?_, ?_⟩
  all_goals decide +kernel

end Watch

end LiveChat.Store
