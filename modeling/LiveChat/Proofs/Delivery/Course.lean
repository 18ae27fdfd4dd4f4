import LiveChat.Proofs.Delivery.Separation
import LiveChat.Proofs.Store.Coverage

/-!
# A relay and a tailer at work

A relay and a tailer share a store, a set of noted ids and a hub, while other writers add rows to
the store. Each of them acts at any time, and the store may stop answering this process. What the
hub is given is recorded nowhere; `Course.Invariant` says that it was given certain publications,
and which ones they are.
-/

namespace LiveChat.Delivery

open LiveChat.Chat LiveChat.Store

/-- What happens to a store that a relay and a tailer work on. -/
inductive DeliveryEvent where
  | accept (value : Json) (origin : Option Platform) (stamp : Stamp)
  | insert (message : StoredMessage)
  | poll
  /-- The store stops answering this process, or answers it again. -/
  | outage (down : Bool)

namespace DeliveryEvent

def id? : DeliveryEvent → Option String
  | .accept _ _ stamp => some stamp.id
  | .insert message => some message.id
  | _ => none

def inserted? : DeliveryEvent → Option StoredMessage
  | .insert message => some message
  | _ => none

end DeliveryEvent

structure Course where
  relay : Relay
  tailer : Tailer
  offsets : OffsetDisk
  /-- The ids and payloads of the messages that the relay took in, the oldest first. -/
  admitted : List (String × String)
  /-- The rows that other writers added, the oldest first. -/
  foreign : List LogRow
  /-- The rows that stood or came in behind the position of the tailer. -/
  due : List LogRow

namespace Course

def log (course : Course) : MessageLog := course.relay.database.tables.log

def position (course : Course) : Position := course.tailer.position

def start (relay : Relay) (tailer : Tailer) (offsets : OffsetDisk) : Course where
  relay := relay
  tailer := tailer
  offsets := offsets
  admitted := []
  foreign := []
  due := relay.database.tables.log.rows.filter fun row => tailer.position.before row.position

/-- The rows that a changed log has beyond those of the log, as far as they are behind the position
of the tailer. -/
def dueIn (course : Course) (changed : MessageLog) : List LogRow :=
  (course.log.arrivals changed).filter fun row => course.position.before row.position

def step (course : Course) : DeliveryEvent → Course
  | .accept value origin stamp =>
      let relay := (course.relay.accept value origin stamp).2
      { course with
        relay := relay
        admitted := course.admitted ++ (course.relay.admission? value origin stamp).toList
        due := course.due ++ course.dueIn relay.database.tables.log }
  | .insert message =>
      match course.log.insertMessage message with
      | .ok log =>
          { course with
            relay := { course.relay with database := course.relay.database.withLog log }
            foreign := course.foreign ++ course.log.arrivals log
            due := course.due ++ course.dueIn log }
      | .error _ => course
  | .poll =>
      let outcome :=
        course.tailer.poll (.ofDatabase course.relay.database) course.relay course.offsets
      { course with relay := outcome.relay, tailer := outcome.tailer, offsets := outcome.offsets }
  | .outage down =>
      { course with
        relay := { course.relay with database := { course.relay.database with isClosed := down } } }

def run (course : Course) (events : List DeliveryEvent) : Course := events.foldl step course

def limit (course : Course) : Nat := max course.tailer.settings.batch 1

def scan (course : Course) : Result TailBatch :=
  course.relay.database.tailNext course.position course.limit

def scanned (course : Course) : List LogRow := course.log.rowsAfter course.position course.limit

/-- A condition on every event at the point of the course where it happens. -/
def throughout (condition : Course → DeliveryEvent → Bool) : Course → List DeliveryEvent → Bool
  | _, [] => true
  | course, event :: rest =>
      condition course event && (course.step event).throughout condition rest

/-- The rows that the event adds come in behind the position of the tailer. -/
def arrivesBehind (course : Course) (event : DeliveryEvent) : Bool :=
  (course.log.arrivals (course.step event).log).all fun row => course.position.before row.position

/-- The event does not make the set of noted ids forget. -/
def remembers (course : Course) : DeliveryEvent → Bool
  | .accept value origin stamp =>
      (course.relay.admission? value origin stamp).all fun _ => !course.relay.seen.forgets stamp.id
  | .poll =>
      match course.scan with
      | .ok batch => course.relay.remembers batch.messages
      | .error _ => true
  | _ => true

/-- The ids of what is to come are different, and used nowhere yet. Other writers give an id to each
row. -/
structure Fresh (course : Course) (events : List DeliveryEvent) : Prop where
  distinct : (events.filterMap DeliveryEvent.id?).Nodup
  unstored : ∀ id ∈ events.filterMap DeliveryEvent.id?, course.log.hasId id = false
  unnoted : ∀ id ∈ events.filterMap DeliveryEvent.id?, course.relay.seen.contains id = false
  nonempty : ∀ message ∈ events.filterMap DeliveryEvent.inserted?, message.id ≠ ""

/-- A message that the relay takes in may bring a row, under the id of its stamp. -/
theorem log_accept (relay : Relay) (value : Json) (origin : Option Platform) (stamp : Stamp) :
    (relay.accept value origin stamp).2.database.tables.log = relay.database.tables.log ∨
      ∃ row : LogRow, row.id = some stamp.id ∧
        (relay.accept value origin stamp).2.database.tables.log.rows =
          relay.database.tables.log.rows ++ [row] := by
  rcases relay.accept_cases value origin stamp with
    ⟨-, enricher, -, same⟩ | ⟨payload, enricher, database, -, -, kept | ⟨row, id, stored⟩, same⟩
  · rw [same]
    exact Or.inl rfl
  · rw [same, kept]
    exact Or.inl rfl
  · obtain ⟨log, added, rfl⟩ := Database.insertMessage_eq_ok stored
    obtain ⟨-, rows⟩ := MessageLog.rows_of_insertMessage added
    rw [same]
    exact Or.inr ⟨_, congrArg some id, rows⟩

theorem scan_eq_ok {course : Course} {batch : TailBatch} (found : course.scan = .ok batch) :
    messagesOf course.scanned = .ok batch.messages ∧
      batch.last = course.log.reached course.position course.limit := by
  obtain ⟨-, read, last⟩ := Database.tailNext_eq_ok found
  rw [Int.toNat_natCast] at read last
  exact ⟨read, last⟩

/-- A scan that fails changes nothing. One that succeeds sends its rows and moves on past them. -/
theorem step_poll (course : Course) :
    ((∃ failure, course.scan = .error failure) ∧ course.step .poll = course) ∨
      ∃ batch offsets, course.scan = .ok batch ∧
        course.step .poll =
          { course with
            relay := (course.relay.publishRows batch.messages).2
            tailer := { course.tailer with position := batch.last }
            offsets := offsets } := by
  cases found : course.scan with
  | error failure =>
      refine Or.inl ⟨⟨failure, rfl⟩, ?_⟩
      have next : (TailSource.ofDatabase course.relay.database).next course.tailer.position
          (max course.tailer.settings.batch 1 : Nat) = .error failure := found
      simp only [step, Tailer.poll, next]
  | ok batch =>
      have next : (TailSource.ofDatabase course.relay.database).next course.tailer.position
          (max course.tailer.settings.batch 1 : Nat) = .ok batch := found
      by_cases nothing : batch.messages = []
      · have last := (Database.tailNext_advances found).2.mpr nothing
        refine Or.inr ⟨batch, course.offsets, rfl, ?_⟩
        simp only [step, Tailer.poll, next, nothing, if_true, last]
        rfl
      · refine Or.inr
          ⟨batch, ({ course.tailer with position := batch.last }).keep course.offsets, rfl, ?_⟩
        simp only [step, Tailer.poll, next, nothing, if_false]

theorem log_step (course : Course) (event : DeliveryEvent) :
    (course.step event).log = course.log ∨
      ∃ row : LogRow, row.id ≠ none ∧ row.id = event.id? ∧
        (course.step event).log.rows = course.log.rows ++ [row] := by
  cases event with
  | accept value origin stamp =>
      rcases log_accept course.relay value origin stamp with same | ⟨row, id, rows⟩
      · exact Or.inl same
      · refine Or.inr ⟨row, ?_, id, rows⟩
        rw [id]
        exact Option.some_ne_none _
  | insert message =>
      rcases course.log.insertMessage_cases message with
        ⟨-, failure, refused⟩ | ⟨-, log, added, rows⟩
      · refine Or.inl ?_
        simp only [step, refused]
      · refine Or.inr ⟨course.log.rowFor message, Option.some_ne_none _, rfl, ?_⟩
        simp only [step, added]
        exact rows
  | poll =>
      rcases course.step_poll with ⟨-, same⟩ | ⟨batch, offsets, -, same⟩
      · rw [same]
        exact Or.inl rfl
      · rw [same]
        exact Or.inl (congrArg (fun database => database.tables.log)
          (course.relay.publishRows_keeps batch.messages).1)
  | outage down => exact Or.inl rfl

theorem contains_of_step {course : Course} {event : DeliveryEvent} {id : String}
    (noted : (course.step event).relay.seen.contains id = true) :
    course.relay.seen.contains id = true ∨ course.log.hasId id = true ∨ event.id? = some id := by
  cases event with
  | accept value origin stamp =>
      by_cases this : id = stamp.id
      · rw [this]
        exact Or.inr (Or.inr rfl)
      · refine Or.inl ?_
        change (course.relay.accept value origin stamp).2.seen.contains id = true at noted
        rcases course.relay.accept_cases value origin stamp with
          ⟨-, enricher, -, same⟩ | ⟨payload, enricher, database, -, -, -, same⟩
        · rw [same] at noted
          exact noted
        · rw [same] at noted
          exact SeenIds.contains_of_contains_insert noted this
  | insert message =>
      refine Or.inl ?_
      rcases course.log.insertMessage_cases message with
        ⟨-, failure, refused⟩ | ⟨-, log, added, -⟩
      · simpa only [step, refused] using noted
      · simpa only [step, added] using noted
  | poll =>
      rcases course.step_poll with ⟨-, same⟩ | ⟨batch, offsets, found, same⟩
      · rw [same] at noted
        exact Or.inl noted
      · rw [same] at noted
        rcases Relay.contains_of_publishRows noted with known | ⟨given, message, listed, rfl⟩
        · exact Or.inl known
        · obtain ⟨row, scanned, readable⟩ := exists_row_of_mem (scan_eq_ok found).1 listed
          refine Or.inr (Or.inl ((course.log.hasId_eq_true_iff _).mpr ⟨row, ?_, ?_⟩))
          · exact (course.log.mem_of_mem_rowsAfter _ _ scanned).1
          · exact LogRow.id_eq_some readable given
  | outage down => exact Or.inl noted

namespace Fresh

variable {course : Course} {event : DeliveryEvent} {rest : List DeliveryEvent}

theorem head (fresh : course.Fresh (event :: rest)) {id : String} (given : event.id? = some id) :
    course.log.hasId id = false ∧ course.relay.seen.contains id = false := by
  have listed : id ∈ (event :: rest).filterMap DeliveryEvent.id? :=
    List.mem_filterMap.mpr ⟨event, List.mem_cons_self, given⟩
  exact ⟨fresh.unstored id listed, fresh.unnoted id listed⟩

theorem id_ne (fresh : course.Fresh (event :: rest)) {id : String}
    (later : id ∈ rest.filterMap DeliveryEvent.id?) : event.id? ≠ some id := by
  intro given
  have distinct := fresh.distinct
  rw [List.filterMap_cons_some given, List.nodup_cons] at distinct
  exact distinct.1 later

theorem step (fresh : course.Fresh (event :: rest)) : (course.step event).Fresh rest := by
  have later {id : String} (listed : id ∈ rest.filterMap DeliveryEvent.id?) :
      id ∈ (event :: rest).filterMap DeliveryEvent.id? := by
    obtain ⟨other, member, given⟩ := List.mem_filterMap.mp listed
    exact List.mem_filterMap.mpr ⟨other, List.mem_cons_of_mem _ member, given⟩
  refine ⟨?_, ?_, ?_, ?_⟩
  · exact fresh.distinct.sublist ((List.sublist_cons_self event rest).filterMap _)
  · intro id listed
    have absent := fresh.unstored id (later listed)
    rw [Bool.eq_false_iff, ne_eq, MessageLog.hasId_eq_true_iff] at *
    rintro ⟨row, member, same⟩
    rcases course.log_step event with kept | ⟨added, -, given, rows⟩
    · rw [kept] at member
      exact absent ⟨row, member, same⟩
    · rw [rows] at member
      rcases List.mem_append.mp member with old | new
      · exact absent ⟨row, old, same⟩
      · cases List.mem_singleton.mp new
        exact fresh.id_ne listed (given.symm.trans same)
  · intro id listed
    rw [Bool.eq_false_iff]
    intro noted
    rcases contains_of_step noted with known | stored | given
    · exact Bool.eq_false_iff.mp (fresh.unnoted id (later listed)) known
    · exact Bool.eq_false_iff.mp (fresh.unstored id (later listed)) stored
    · exact fresh.id_ne listed given
  · intro message listed
    obtain ⟨other, member, inserted⟩ := List.mem_filterMap.mp listed
    exact fresh.nonempty message
      (List.mem_filterMap.mpr ⟨other, List.mem_cons_of_mem _ member, inserted⟩)

end Fresh

end Course

end LiveChat.Delivery
