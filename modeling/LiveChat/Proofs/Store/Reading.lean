import LiveChat.Proofs.Store.Coverage

/-!
# Reading along

Somebody scans a store again and again, each time from the cursor that the last scan returned, while
messages are added. Each message that the store takes is one row more (`Reading.rows_run`). Whatever
the order of these events, no row is returned twice, the rows come in the order of their positions,
and a scan that returns nothing finds that exactly the due rows have been returned
(`scans_return_due_rows`).
-/

namespace LiveChat.Store

open LiveChat.Time

inductive ReadingEvent where
  | insert (message : StoredMessage)
  | scan (limit : Int)
deriving DecidableEq, Repr

def ReadingEvent.inserted? : ReadingEvent → Option StoredMessage
  | .insert message => some message
  | .scan _ => none

structure Scan where
  given : Position
  limit : Int
  outcome : Result TailBatch

def Scan.messages (scan : Scan) : List StoredMessage :=
  match scan.outcome with
  | .ok batch => batch.messages
  | .error _ => []

structure Reading where
  database : Database
  /-- The cursor that the last scan returned. -/
  cursor : Position
  /-- The rows that stood behind the cursor at the start, and those that came in behind it. -/
  due : List LogRow
  /-- The scans so far, the oldest first. -/
  scans : List Scan

namespace Reading

def start (database : Database) (cursor : Position) : Reading where
  database := database
  cursor := cursor
  due := database.tables.log.rows.filter fun row => cursor.before row.position
  scans := []

/-- A message that the store refuses changes nothing, and a scan that fails leaves the cursor where
it is. -/
def step (reading : Reading) : ReadingEvent → Reading
  | .insert message =>
      match reading.database.insertMessage message with
      | .ok database =>
          let arrivals := reading.database.tables.log.arrivals database.tables.log
          { reading with
            database := database
            due := reading.due ++ arrivals.filter fun row => reading.cursor.before row.position }
      | .error _ => reading
  | .scan limit =>
      let outcome := reading.database.tailNext reading.cursor limit
      { reading with
        cursor :=
          match outcome with
          | .ok batch => batch.last
          | .error _ => reading.cursor
        scans := reading.scans ++ [⟨reading.cursor, limit, outcome⟩] }

def run (reading : Reading) (events : List ReadingEvent) : Reading := events.foldl step reading

def returned (reading : Reading) : List StoredMessage := reading.scans.flatMap Scan.messages

/-- The message of an event, if the store takes it. -/
def taken? (reading : Reading) (event : ReadingEvent) : Option StoredMessage :=
  event.inserted?.filter fun message => (reading.database.insertMessage message).isOk

/-- The messages of some events that the store takes, in their order. -/
def accepted (reading : Reading) : List ReadingEvent → List StoredMessage
  | [] => []
  | event :: rest => (reading.taken? event).toList ++ (reading.step event).accepted rest

/-- A message that is taken gets a row at the end of the log. -/
theorem rows_step (reading : Reading) (event : ReadingEvent) :
    ∃ arrivals, (reading.step event).database.tables.log.rows =
        reading.database.tables.log.rows ++ arrivals ∧
      List.Forall₂ LogRow.Holds arrivals (reading.taken? event).toList := by
  cases event with
  | scan limit => exact ⟨[], (List.append_nil _).symm, .nil⟩
  | insert message =>
      simp only [step, taken?, ReadingEvent.inserted?, Option.filter_some]
      cases stored : reading.database.insertMessage message with
      | error failure => exact ⟨[], (List.append_nil _).symm, .nil⟩
      | ok database =>
          obtain ⟨log, added, rfl⟩ := Database.insertMessage_eq_ok stored
          exact ⟨[reading.database.tables.log.rowFor message],
            (MessageLog.rows_of_insertMessage added).2,
            .cons (reading.database.tables.log.holds_rowFor message) .nil⟩

theorem rows_run (reading : Reading) (events : List ReadingEvent) :
    ∃ arrivals, (reading.run events).database.tables.log.rows =
        reading.database.tables.log.rows ++ arrivals ∧
      List.Forall₂ LogRow.Holds arrivals (reading.accepted events) := by
  induction events generalizing reading with
  | nil => exact ⟨[], (List.append_nil _).symm, .nil⟩
  | cons event rest ih =>
      obtain ⟨first, stepped, held⟩ := reading.rows_step event
      obtain ⟨others, later, heldLater⟩ := ih (reading.step event)
      refine ⟨first ++ others, ?_, List.rel_append held heldLater⟩
      rw [← List.append_assoc, ← stepped]
      exact later

/-- On a store that can be written to, messages with ids of their own are all taken. -/
theorem accepted_of_fresh {reading : Reading} {events : List ReadingEvent}
    (writable : reading.database.writable = .ok ())
    (fresh : ∀ message ∈ events.filterMap ReadingEvent.inserted?,
      reading.database.tables.log.hasId message.id = false)
    (different : (events.filterMap ReadingEvent.inserted?).Pairwise (·.id ≠ ·.id)) :
    reading.accepted events = events.filterMap ReadingEvent.inserted? := by
  induction events generalizing reading with
  | nil => rfl
  | cons event rest ih =>
      cases event with
      | scan limit => exact ih writable fresh different
      | insert message =>
          obtain ⟨others, different⟩ := List.pairwise_cons.mp different
          obtain ⟨log, stored, rows⟩ :=
            Database.exists_insertMessage writable (fresh message List.mem_cons_self)
          have changed : (reading.step (.insert message)).database =
              reading.database.withLog log := by
            simp only [step, stored]
          simp only [accepted, taken?, ReadingEvent.inserted?, Option.filter_some, stored]
          refine congrArg (message :: ·) (ih (changed ▸ writable) ?_ different)
          intro other member
          rw [changed]
          have unused := fresh other (List.mem_cons_of_mem _ member)
          change log.hasId other.id = false
          simpa [MessageLog.hasId, rows, MessageLog.rowFor, LogRow.ofEntry, LogEntry.ofMessage,
            others other member] using unused

/-- The rows that were returned are those that the cursor has passed. -/
structure Invariant (reading : Reading) (rows : List LogRow) : Prop where
  coverage : Coverage reading.database.tables.log reading.cursor reading.due rows
  read : messagesOf rows = .ok reading.returned
  advancing : ∀ scan ∈ reading.scans, ∀ batch, scan.outcome = .ok batch →
    ¬ batch.last.before scan.given = true ∧ (batch.last = scan.given ↔ batch.messages = [])

theorem Invariant.start (database : Database) (cursor : Position) :
    (Reading.start database cursor).Invariant [] where
  coverage := .start _ _
  read := rfl
  advancing scan member := by cases member

theorem Invariant.insert {reading : Reading} {rows : List LogRow}
    (invariant : reading.Invariant rows) (message : StoredMessage) :
    (reading.step (.insert message)).Invariant rows := by
  simp only [step]
  split
  · rename_i database stored
    obtain ⟨log, added, rfl⟩ := Database.insertMessage_eq_ok stored
    exact
      { coverage := invariant.coverage.arrive (MessageLog.rows_of_insertMessage added).2
        read := invariant.read
        advancing := invariant.advancing }
  · exact invariant

theorem Invariant.scan {reading : Reading} {rows : List LogRow}
    (invariant : reading.Invariant rows) (limit : Int) :
    ∃ more, (reading.step (.scan limit)).Invariant (rows ++ more) := by
  have recorded : (reading.step (.scan limit)).returned =
      reading.returned ++
        (Scan.mk reading.cursor limit (reading.database.tailNext reading.cursor limit)).messages := by
    simp only [step, returned, List.flatMap_append, List.flatMap_cons, List.flatMap_nil,
      List.append_nil]
  have advancing : ∀ scan ∈ (reading.step (.scan limit)).scans, ∀ batch,
      scan.outcome = .ok batch → ¬ batch.last.before scan.given = true ∧
        (batch.last = scan.given ↔ batch.messages = []) := by
    intro scan member batch outcome
    rcases List.mem_append.mp member with old | new
    · exact invariant.advancing scan old batch outcome
    · cases List.mem_singleton.mp new
      exact Database.tailNext_advances outcome
  cases found : reading.database.tailNext reading.cursor limit with
  | error failure =>
      refine ⟨[], ?_, ?_, advancing⟩
      · simpa only [step, found, List.append_nil] using invariant.coverage
      · simpa only [recorded, found, Scan.messages, List.append_nil] using invariant.read
  | ok batch =>
      obtain ⟨-, read, last⟩ := Database.tailNext_eq_ok found
      refine ⟨reading.database.tables.log.rowsAfter reading.cursor limit.toNat, ?_, ?_, advancing⟩
      · simpa only [step, found, last] using invariant.coverage.scan limit.toNat
      · rw [recorded, found]
        exact messagesOf_append invariant.read read

theorem Invariant.run {reading : Reading} {rows : List LogRow}
    (invariant : reading.Invariant rows) (events : List ReadingEvent) :
    ∃ rows, (reading.run events).Invariant rows := by
  induction events generalizing reading rows with
  | nil => exact ⟨rows, invariant⟩
  | cons event rest ih =>
      cases event with
      | insert message => exact ih (invariant.insert message)
      | scan limit =>
          obtain ⟨more, scanned⟩ := invariant.scan limit
          exact ih scanned

end Reading

/-- The clock covers the timestamp of a message, so that its row can be read. -/
def StoredMessage.isCovered (message : StoredMessage) : Bool :=
  (Timestamp.ofMillis? message.timestamp.toMillis).isSome

/-- Messages that are added have covered timestamps. -/
def ReadingEvent.isCovered : ReadingEvent → Bool
  | .insert message => message.isCovered
  | .scan _ => true

namespace Reading

/-- The store answers, its rows can be read, and no scan with a positive limit has failed. -/
structure Healthy (reading : Reading) : Prop where
  answers : reading.database.Answers
  readable : ∀ row ∈ reading.database.tables.log.rows, row.isReadable = true
  succeeded : ∀ scan ∈ reading.scans, 0 < scan.limit → ∃ batch, scan.outcome = .ok batch

theorem Healthy.step {reading : Reading} (healthy : reading.Healthy) (event : ReadingEvent)
    (covered : event.isCovered = true) : (reading.step event).Healthy := by
  cases event with
  | insert message =>
      simp only [Reading.step]
      split
      · rename_i database stored
        obtain ⟨log, added, rfl⟩ := Database.insertMessage_eq_ok stored
        refine ⟨healthy.answers, ?_, healthy.succeeded⟩
        intro row member
        change row ∈ log.rows at member
        rw [(MessageLog.rows_of_insertMessage added).2] at member
        rcases List.mem_append.mp member with old | new
        · exact healthy.readable row old
        · cases List.mem_singleton.mp new
          exact covered
      · exact healthy
  | scan limit =>
      refine ⟨healthy.answers, healthy.readable, ?_⟩
      intro scan member positive
      rcases List.mem_append.mp member with old | new
      · exact healthy.succeeded scan old positive
      · cases List.mem_singleton.mp new
        exact Database.exists_tailNext healthy.answers healthy.readable _ positive

theorem Healthy.run {reading : Reading} (healthy : reading.Healthy) (events : List ReadingEvent)
    (covered : ∀ event ∈ events, event.isCovered = true) : (reading.run events).Healthy := by
  induction events generalizing reading with
  | nil => exact healthy
  | cons event rest ih =>
      exact ih (healthy.step event (covered event List.mem_cons_self))
        fun other member => covered other (List.mem_cons_of_mem _ member)

end Reading

/-- **Reading along loses and repeats nothing.** After any events, the messages of all scans are
those of some rows of the store in strict order of their positions; each scan returned a cursor that
is not before the one it was given, and the same one just when it returned nothing; and if one more
scan returns nothing, then the rows are exactly the due ones. On a store that answers, with readable
rows, no scan with a positive limit fails. The rows that came in are those of the messages that the
store took, which are all that were given to it if it can be written to and their ids are new. -/
theorem scans_return_due_rows (database : Database) (cursor : Position)
    (events : List ReadingEvent) :
    let reading := (Reading.start database cursor).run events
    let given := events.filterMap ReadingEvent.inserted?
    (∃ rows : List LogRow,
      messagesOf rows = .ok reading.returned ∧
      (∀ row ∈ rows, row ∈ reading.database.tables.log.rows) ∧
      (rows.Pairwise fun earlier later => earlier.position.before later.position = true) ∧
      ∀ limit batch, reading.database.tailNext reading.cursor limit = .ok batch →
        batch.messages = [] → rows.Perm reading.due) ∧
    (∀ scan ∈ reading.scans, ∀ batch, scan.outcome = .ok batch →
      ¬ batch.last.before scan.given = true ∧ (batch.last = scan.given ↔ batch.messages = [])) ∧
    (database.Answers → (∀ row ∈ database.tables.log.rows, row.isReadable = true) →
      (∀ event ∈ events, event.isCovered = true) →
        ∀ scan ∈ reading.scans, 0 < scan.limit → ∃ batch, scan.outcome = .ok batch) ∧
    (∃ arrivals, reading.database.tables.log.rows = database.tables.log.rows ++ arrivals ∧
      List.Forall₂ LogRow.Holds arrivals ((Reading.start database cursor).accepted events)) ∧
    (database.writable = .ok () →
      (∀ message ∈ given, database.tables.log.hasId message.id = false) →
      given.Pairwise (·.id ≠ ·.id) → (Reading.start database cursor).accepted events = given) := by
  intro reading given
  obtain ⟨rows, invariant⟩ := (Reading.Invariant.start database cursor).run events
  refine ⟨⟨rows, invariant.read, fun row member => invariant.coverage.mem_rows_of_mem_taken member,
    invariant.coverage.taken_pairwise, ?_⟩, invariant.advancing, ?_,
    (Reading.start database cursor).rows_run events, fun writable fresh different =>
      Reading.accepted_of_fresh writable fresh different⟩
  · intro limit batch found nothing
    obtain ⟨positive, read, -⟩ := Database.tailNext_eq_ok found
    exact invariant.coverage.perm_of_eq_nil (by omega)
      ((eq_nil_iff_of_messagesOf read).mp nothing)
  · intro answers readable covered
    have healthy : (Reading.start database cursor).Healthy :=
      ⟨answers, readable, fun scan member => by cases member⟩
    exact (healthy.run events covered).succeeded

/-- A message is read, one comes in before it and two behind it in one second, of which the first
scan returns only one, and one under an id that is taken. -/
def lateEvents : List ReadingEvent :=
  [.insert (spoken "a" 2), .scan 10, .insert (spoken "b" 1), .insert (spoken "c" 3),
    .insert (spoken "d" 3), .scan 1, .insert (spoken "a" 4), .scan 10]

theorem scans_return_due_rows_lateEvents :
    let reading := (Reading.start vacant .origin).run lateEvents
    reading.returned.map StoredMessage.id = ["a", "c", "d"] ∧
      (∃ rows : List LogRow, messagesOf rows = .ok reading.returned ∧ rows.Perm reading.due) ∧
      (∀ scan ∈ reading.scans, ∃ batch, scan.outcome = .ok batch) ∧
      List.Forall₂ LogRow.Holds reading.database.tables.log.rows
        [spoken "a" 2, spoken "b" 1, spoken "c" 3, spoken "d" 3] := by
  intro reading
  obtain ⟨⟨rows, read, -, -, caught⟩, -, succeeded, ⟨arrivals, stored, held⟩, -⟩ :=
    scans_return_due_rows vacant .origin lateEvents
  have limits : reading.scans.all (0 < ·.limit) = true := by decide +kernel
  have covered : lateEvents.all ReadingEvent.isCovered = true := by decide +kernel
  refine ⟨by decide +kernel, ⟨rows, read, caught 1 ⟨[], ⟨3000, 4⟩⟩ (by decide +kernel) rfl⟩, ?_, ?_⟩
  · intro scan member
    have limit := of_decide_eq_true (List.all_eq_true.mp limits scan member)
    exact succeeded ⟨rfl, rfl⟩ nofun (List.all_eq_true.mp covered) scan member limit
  · have same : (Reading.start vacant .origin).accepted lateEvents =
        [spoken "a" 2, spoken "b" 1, spoken "c" 3, spoken "d" 3] := by decide +kernel
    rw [same] at held
    have rows : reading.database.tables.log.rows = arrivals := stored
    rwa [rows]

end LiveChat.Store
