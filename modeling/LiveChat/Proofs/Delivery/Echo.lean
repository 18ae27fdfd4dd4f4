import LiveChat.Proofs.Delivery.Backlog
import LiveChat.Proofs.Delivery.ExactlyOnce

/-!
# No echo of own messages

A tailer also finds the rows that its own process wrote, and passes them over as long as their ids
are noted. The set of noted ids is emptied when it is full. That does no harm while no row is behind
the position of the tailer (`Course.Quiet.step`), and otherwise the rows there are lost to the set,
and sent again by a later scan (`Course.Lost.step`). So own rows are never sent just when no message
makes the set forget at a wrong time (`Course.sends_no_own_row`).
-/

namespace LiveChat

open LiveChat.Chat LiveChat.Store LiveChat.Time

/-- The row is one of a message that was let through under some options. -/
structure Store.LogRow.IsOwn (row : LogRow) (options : EnrichOptions) : Prop where
  named : ∃ id, row.id = some id ∧ id ≠ ""
  replays : ∀ (enricher : Enricher) (message : StoredMessage), enricher.options = options →
    row.toMessage = .ok message → enricher.replays message = true

namespace Delivery

theorem SeenIds.not_contains_of_forgets {seen : SeenIds} {id other : String}
    (forgot : seen.forgets id = true) (different : other ≠ id) :
    (seen.insert id).2.contains other = false := by
  rw [← Bool.not_eq_true, contains_iff_mem, mem_insert_of_forgets forgot]
  exact different

namespace Relay

theorem publishRow_of_noted {relay : Relay} {row : StoredMessage}
    (noted : relay.seen.contains row.id = true) : relay.publishRow row = (false, relay) := by
  rcases relay.publishRow_cases row with ⟨-, same⟩ | ⟨-, unknown, -⟩
  · exact same
  · rw [noted] at unknown
    cases unknown

theorem publishRows_of_noted {relay : Relay} {rows : List StoredMessage}
    (noted : ∀ row ∈ rows, relay.seen.contains row.id = true) :
    relay.publishRows rows = (0, relay) := by
  induction rows with
  | nil => rfl
  | cons row rest ih =>
      rw [publishRows, publishRow_of_noted (noted row List.mem_cons_self)]
      dsimp only
      rw [ih fun other member => noted other (List.mem_cons_of_mem _ member)]
      rfl

/-- A row that is not noted, and that a message can be rebuilt from, is sent. -/
theorem publishRow_of_replays {relay : Relay} {row : StoredMessage} (given : row.id ≠ "")
    (unknown : relay.seen.contains row.id = false) (replays : relay.enricher.replays row = true) :
    (relay.publishRow row).1 = true := by
  have fresh : relay.seen.insert row.id = (true, (relay.seen.insert row.id).2) := by
    refine Prod.ext ?_ rfl
    rw [SeenIds.fst_insert, unknown]
    rfl
  unfold Enricher.replays Enricher.replayed? at replays
  rw [publishRow, if_neg given, fresh]
  cases rebuilt : relay.enricher.rehydrate row with
  | mk outcome enricher =>
      rw [rebuilt] at replays
      cases outcome with
      | ok message => rfl
      | error reason => cases replays

/-- If none of the rows is sent, although a message can be rebuilt from each, then all are noted. -/
theorem noted_of_publishRows {relay : Relay} {rows : List StoredMessage}
    (silent : (relay.publishRows rows).1 = 0)
    (own : ∀ row ∈ rows, row.id ≠ "" ∧ relay.enricher.replays row = true) :
    ∀ row ∈ rows, relay.seen.contains row.id = true := by
  induction rows with
  | nil => exact List.forall_mem_nil _
  | cons row rest ih =>
      obtain ⟨given, replays⟩ := own row List.mem_cons_self
      have known : relay.seen.contains row.id = true := by
        by_contra unknown
        have sent := publishRow_of_replays given (Bool.eq_false_iff.mpr unknown) replays
        rw [publishRows] at silent
        dsimp only at silent
        rw [sent, if_pos rfl] at silent
        omega
      rw [publishRows, publishRow_of_noted known] at silent
      dsimp only at silent
      refine List.forall_mem_cons.mpr ⟨known, ih ?_ ?_⟩
      · omega
      · exact fun other member => own other (List.mem_cons_of_mem _ member)

end Relay

namespace Course

/-- The number of rows whose messages the event offers to the viewers. -/
def sends (course : Course) : DeliveryEvent → Nat
  | .poll =>
      match (course.tailer.poll (.ofDatabase course.relay.database) course.relay
          course.offsets).sent with
      | .ok count => count
      | .error _ => 0
  | _ => 0

def isSilent (course : Course) (event : DeliveryEvent) : Bool := course.sends event == 0

/-- The event is no message that makes the set of noted ids forget while a row is behind the
position of the tailer. -/
def keepsUnscanned (course : Course) (event : DeliveryEvent) : Bool :=
  !event.isOwn || course.remembers event || course.unscanned.isEmpty

variable {course next : Course} {event : DeliveryEvent} {rest : List DeliveryEvent} {row : LogRow}

theorem sends_poll_of_error {failure : Failure} (failed : course.scan = .error failure) :
    course.sends .poll = 0 := by
  have next : (TailSource.ofDatabase course.relay.database).next course.tailer.position
      (max course.tailer.settings.batch 1 : Nat) = .error failure := failed
  simp only [sends, Tailer.poll, next]

theorem sends_poll {batch : TailBatch} (found : course.scan = .ok batch) :
    course.sends .poll = (course.relay.publishRows batch.messages).1 := by
  have next : (TailSource.ofDatabase course.relay.database).next course.tailer.position
      (max course.tailer.settings.batch 1 : Nat) = .ok batch := found
  by_cases nothing : batch.messages = []
  · simp only [sends, Tailer.poll, next, nothing, if_true]
    rfl
  · simp only [sends, Tailer.poll, next, nothing, if_false]

/-- All rows behind the position are noted, and the hub was given the own messages and nothing
else. -/
structure Quiet (relay : Relay) (course : Course) : Prop where
  noted : ∀ row ∈ course.unscanned, row.isNoted course.relay.seen = true
  hub : course.relay.hub = relay.hub.publishAll (course.admitted.map Prod.snd)

namespace Quiet

variable {relay : Relay}

theorem contains (quiet : course.Quiet relay) {batch : TailBatch}
    (found : course.scan = .ok batch) :
    ∀ message ∈ batch.messages, course.relay.seen.contains message.id = true := by
  intro message listed
  obtain ⟨row, member, read⟩ := exists_row_of_mem (scan_eq_ok found).1 listed
  obtain ⟨id, given, known⟩ := LogRow.isNoted_iff.mp
    (quiet.noted row (mem_unscanned_iff.mpr (course.log.mem_of_mem_rowsAfter _ _ member)))
  rw [LogRow.id_of_toMessage read, given]
  exact known

theorem poll (quiet : course.Quiet relay) :
    course.sends .poll = 0 ∧ (course.step .poll).Quiet relay := by
  rcases course.step_poll with ⟨⟨failure, failed⟩, same⟩ | ⟨batch, offsets, found, next⟩
  · rw [same]
    exact ⟨sends_poll_of_error failed, quiet⟩
  · have passed := Relay.publishRows_of_noted (quiet.contains found)
    rw [sends_poll found, passed]
    refine ⟨rfl, ?_, ?_⟩
    · intro row member
      have behind := mem_unscanned_of_poll member
      rw [next, passed]
      exact quiet.noted row behind
    · rw [next, passed]
      exact quiet.hub

theorem accept (quiet : course.Quiet relay) {value : Json} {origin : Option Platform}
    {stamp : Stamp} (kept : course.keepsUnscanned (.accept value origin stamp) = true) :
    (course.step (.accept value origin stamp)).Quiet relay := by
  rcases course.step_accept value origin stamp with
    ⟨-, same⟩ | ⟨message, stored, given, -, admits⟩
  · rwa [same]
  · refine ⟨?_, ?_⟩
    · intro row member
      rw [admits.seen]
      rcases admits.eq_of_mem_unscanned member with old | rfl
      · obtain ⟨id, named, known⟩ := LogRow.isNoted_iff.mp (quiet.noted row old)
        have room : course.relay.seen.forgets stamp.id = false := by
          simpa [keepsUnscanned, DeliveryEvent.isOwn, remembers, given,
            List.ne_nil_of_mem old] using kept
        exact LogRow.isNoted_iff.mpr ⟨id, named, SeenIds.contains_insert_of_contains room known⟩
      · exact LogRow.isNoted_iff.mpr ⟨stamp.id, rfl, SeenIds.contains_insert_self _ _⟩
    · rw [admits.hub, admits.admitted, List.map_append, Hub.publishAll_append, ← quiet.hub]
      rfl

/-- As long as no message makes the set forget at a wrong time, own rows are passed over. -/
theorem step (quiet : course.Quiet relay) (own : event.inserted? = none)
    (kept : course.keepsUnscanned event = true) :
    course.isSilent event = true ∧ (course.step event).Quiet relay := by
  cases event with
  | accept value origin stamp => exact ⟨rfl, quiet.accept kept⟩
  | insert message => cases own
  | poll =>
      obtain ⟨silent, polled⟩ := quiet.poll
      exact ⟨beq_iff_eq.mpr silent, polled⟩
  | outage down => exact ⟨rfl, quiet.noted, quiet.hub⟩

theorem run (quiet : course.Quiet relay) {events : List DeliveryEvent}
    (own : ∀ event ∈ events, event.inserted? = none)
    (kept : course.throughout keepsUnscanned events = true) :
    course.throughout isSilent events = true ∧ (course.run events).Quiet relay := by
  induction events generalizing course with
  | nil => exact ⟨rfl, quiet⟩
  | cons event rest ih =>
      rw [throughout, Bool.and_eq_true] at kept
      obtain ⟨first, stepped⟩ := quiet.step (own event List.mem_cons_self) kept.1
      obtain ⟨later, ended⟩ := ih stepped (List.forall_mem_of_forall_mem_cons own) kept.2
      rw [throughout, first]
      exact ⟨later, ended⟩

end Quiet

/-- All rows behind the position were let through by the relay. -/
def Owned (course : Course) : Prop :=
  ∀ row ∈ course.unscanned, row.IsOwn course.relay.enricher.options

/-- The set of noted ids has forgotten a row that is still behind the position. -/
def Lost (course : Course) : Prop :=
  ∃ row ∈ course.unscanned, ∃ id, row.id = some id ∧ course.relay.seen.contains id = false

theorem Owned.step (owned : course.Owned) (own : event.inserted? = none)
    (named : event.id? ≠ some "") : (course.step event).Owned := by
  cases event with
  | accept value origin stamp =>
      rcases course.step_accept value origin stamp with
        ⟨-, same⟩ | ⟨message, stored, -, -, admits⟩
      · rwa [same]
      · intro row member
        rw [admits.options]
        rcases admits.eq_of_mem_unscanned member with old | rfl
        · exact owned row old
        · refine ⟨⟨stamp.id, rfl, fun empty => named (congrArg some empty)⟩, ?_⟩
          intro enricher stored options read
          exact MessageLog.replays_rowFor (options ▸ admits.settled) read
  | insert message => cases own
  | poll =>
      intro row member
      have kept : (course.step .poll).relay.enricher.options = course.relay.enricher.options := by
        rcases course.step_poll with ⟨-, same⟩ | ⟨batch, offsets, -, same⟩
        · rw [same]
        · rw [same]
          exact (course.relay.publishRows_keeps batch.messages).2
      rw [kept]
      exact owned row (mem_unscanned_of_poll member)
  | outage down => exact owned

/-- A scan that sends nothing returned noted rows only. -/
theorem Owned.contains_of_silent (owned : course.Owned) {batch : TailBatch}
    (found : course.scan = .ok batch) (silent : course.sends .poll = 0) :
    ∀ message ∈ batch.messages, course.relay.seen.contains message.id = true := by
  rw [sends_poll found] at silent
  refine Relay.noted_of_publishRows silent ?_
  intro message listed
  obtain ⟨row, member, read⟩ := exists_row_of_mem (scan_eq_ok found).1 listed
  obtain ⟨⟨id, given, nonempty⟩, replays⟩ :=
    owned row (mem_unscanned_iff.mpr (course.log.mem_of_mem_rowsAfter _ _ member))
  rw [LogRow.id_of_toMessage read, given]
  exact ⟨nonempty, replays _ message rfl read⟩

namespace Lost

/-- A forgotten row stays forgotten until a scan sends it. -/
theorem step (lost : course.Lost) (owned : course.Owned) (fresh : course.Fresh (event :: rest))
    (own : event.inserted? = none) (silent : course.isSilent event = true) :
    (course.step event).Lost := by
  obtain ⟨row, behind, id, given, unnoted⟩ := lost
  cases event with
  | accept value origin stamp =>
      rcases course.step_accept value origin stamp with
        ⟨-, same⟩ | ⟨message, stored, -, -, admits⟩
      · rw [same]
        exact ⟨row, behind, id, given, unnoted⟩
      · refine ⟨row, admits.unscanned_subset behind, id, given, ?_⟩
        rw [admits.seen]
        rw [Bool.eq_false_iff] at *
        intro recorded
        apply unnoted
        exact SeenIds.contains_of_contains_insert recorded (Admits.id_ne fresh behind given)
  | insert message => cases own
  | poll =>
      rcases course.step_poll with ⟨-, same⟩ | ⟨batch, offsets, found, next⟩
      · rw [same]
        exact ⟨row, behind, id, given, unnoted⟩
      · have noted := owned.contains_of_silent found (beq_iff_eq.mp silent)
        refine ⟨row, (mem_unscanned_poll found).mpr ⟨behind, ?_⟩, id, given, ?_⟩
        · intro scanned
          obtain ⟨message, listed, read⟩ := exists_message_of_mem (scan_eq_ok found).1 scanned
          have known := noted message listed
          rw [LogRow.id_of_toMessage read, given, Option.getD_some, unnoted] at known
          cases known
        · rw [next, Relay.publishRows_of_noted noted]
          exact unnoted
  | outage down => exact ⟨row, behind, id, given, unnoted⟩

/-- A message that makes the set forget at a wrong time leaves a forgotten row. -/
theorem of_not_keepsUnscanned (owned : course.Owned) (fresh : course.Fresh (event :: rest))
    (forgot : course.keepsUnscanned event = false) : (course.step event).Lost := by
  rw [keepsUnscanned, Bool.or_eq_false_iff, Bool.or_eq_false_iff] at forgot
  cases event with
  | accept value origin stamp =>
      obtain ⟨⟨-, forgot⟩, waiting⟩ := forgot
      rw [remembers] at forgot
      rcases course.step_accept value origin stamp with
        ⟨none, -⟩ | ⟨message, stored, admitted, -, admits⟩
      · rw [none] at forgot
        cases forgot
      · rw [admitted, Option.all_some, Bool.not_eq_false'] at forgot
        obtain ⟨row, behind⟩ := List.exists_mem_of_ne_nil _ (List.isEmpty_eq_false_iff.mp waiting)
        obtain ⟨id, given, -⟩ := (owned row behind).named
        refine ⟨row, admits.unscanned_subset behind, id, given, ?_⟩
        rw [admits.seen]
        exact SeenIds.not_contains_of_forgets forgot (Admits.id_ne fresh behind given)
  | insert message => cases forgot.1.1
  | poll => cases forgot.1.1
  | outage down => cases forgot.1.1

end Lost

/-- If no event sends a row, and none is forgotten at the end, then no message made the set forget at
a wrong time: what is forgotten stays so. -/
theorem Owned.keepsUnscanned_of_silent (owned : course.Owned) {events : List DeliveryEvent}
    (fresh : course.Fresh events) (own : ∀ event ∈ events, event.inserted? = none)
    (named : ∀ event ∈ events, event.id? ≠ some "")
    (silent : course.throughout isSilent events = true) (found : ¬ (course.run events).Lost) :
    ¬ course.Lost ∧ course.throughout keepsUnscanned events = true := by
  induction events generalizing course with
  | nil => exact ⟨found, rfl⟩
  | cons event rest ih =>
      rw [throughout, Bool.and_eq_true] at silent
      have first := own event List.mem_cons_self
      obtain ⟨later, kept⟩ := ih (owned.step first (named event List.mem_cons_self)) fresh.step
        (List.forall_mem_of_forall_mem_cons own) (List.forall_mem_of_forall_mem_cons named)
        silent.2 found
      refine ⟨fun lost => later (lost.step owned fresh first silent.1), ?_⟩
      rw [throughout, Bool.and_eq_true]
      refine ⟨?_, kept⟩
      by_contra forgot
      exact later (.of_not_keepsUnscanned owned fresh (Bool.eq_false_iff.mpr forgot))

namespace InOrder

theorem keepsUnscanned (inOrder : course.InOrder (event :: rest))
    (stored : course.stores event = true) (alone : (course.step event).unscanned.length < 2) :
    course.keepsUnscanned event = true := by
  cases event with
  | accept value origin stamp =>
      rw [Course.keepsUnscanned, remembers, Bool.or_eq_true, Bool.or_eq_true]
      rcases course.step_accept value origin stamp with
        ⟨none, -⟩ | ⟨message, kept, -, receipt, admits⟩
      · rw [none]
        exact .inl (.inr rfl)
      · right
        rw [List.isEmpty_iff]
        by_contra waiting
        cases kept with
        | false =>
            rw [stores, receipt] at stored
            cases of_decide_eq_true stored rfl
        | true =>
            rw [inOrder.unscanned_of_admits admits waiting, List.length_append] at alone
            have some := List.length_pos_iff.mpr waiting
            simp only [List.length_singleton] at alone
            omega
  | insert message => rfl
  | poll => rfl
  | outage down => rfl

theorem run {events : List DeliveryEvent} (inOrder : course.InOrder events)
    (own : ∀ event ∈ events, event.inserted? = none)
    (timed : DeliveryEvent.Chronological events)
    (stored : course.throughout stores events = true)
    (alone : course.throughout (fun course event => (course.step event).unscanned.length < 2)
      events = true) : course.throughout Course.keepsUnscanned events = true := by
  induction events generalizing course with
  | nil => rfl
  | cons event rest ih =>
      rw [throughout, Bool.and_eq_true] at *
      have first := own event List.mem_cons_self
      refine ⟨inOrder.keepsUnscanned stored.1 (of_decide_eq_true alone.1), ?_⟩
      refine ih (inOrder.step first timed) (List.forall_mem_of_forall_mem_cons own) ?_ stored.2
        alone.2
      exact timed.sublist ((List.sublist_cons_self event rest).filterMap _)

end InOrder

/-- **No echo of own messages.** A tailer starts at the end of the log, which nobody else writes to,
and the ids of what is to come are fresh. As long as no message makes the set of noted ids forget
while a row is behind the position of the tailer, no scan sends a row, and the hub is given one
payload for each message and nothing else. It is so if all messages are stored in the order of their
timestamps and never more than one row is behind the position. And nothing less will do: if no scan
sends a row, and at the end nothing is behind the position, then no message made the set forget at a
wrong time. -/
theorem sends_no_own_row (relay : Relay) (tailer : Tailer) (offsets : OffsetDisk)
    (events : List DeliveryEvent)
    (sought : relay.database.tailHead = .ok tailer.position)
    (fresh : (start relay tailer offsets).Fresh events)
    (own : ∀ event ∈ events, event.inserted? = none) :
    let initial := start relay tailer offsets
    let course := initial.run events
    (initial.throughout keepsUnscanned events = true →
      initial.throughout isSilent events = true ∧
        course.relay.hub = relay.hub.publishAll (course.admitted.map Prod.snd)) ∧
    (DeliveryEvent.Chronological events →
      initial.throughout stores events = true →
      initial.throughout (fun course event => (course.step event).unscanned.length < 2) events =
        true →
      initial.throughout keepsUnscanned events = true) ∧
    ((∀ event ∈ events, event.id? ≠ some "") → course.unscanned = [] →
      initial.throughout isSilent events = true →
      initial.throughout keepsUnscanned events = true) := by
  intro initial course
  have nothing : initial.unscanned = [] :=
    List.filter_eq_nil_iff.mpr fun row => Database.not_before_of_tailHead sought row
  have none_waits (row : LogRow) : row ∉ initial.unscanned := by
    rw [nothing]
    exact List.not_mem_nil
  refine ⟨?_, ?_, ?_⟩
  · intro kept
    have quiet : initial.Quiet relay := ⟨fun row member => absurd member (none_waits row), rfl⟩
    obtain ⟨silent, ended⟩ := quiet.run own kept
    exact ⟨silent, ended.hub⟩
  · intro timed stored alone
    have inOrder : initial.InOrder events := fun row member => absurd member (none_waits row)
    exact inOrder.run own timed stored alone
  · intro named ended silent
    have owned : initial.Owned := fun row member => absurd member (none_waits row)
    refine (owned.keepsUnscanned_of_silent fresh own named silent ?_).2
    rintro ⟨row, member, -⟩
    change row ∈ course.unscanned at member
    rw [ended] at member
    cases member

/-- A message of this process, at a second. -/
def ownEvent (id : String) (second : Int) : DeliveryEvent :=
  .accept (.object [("message", .string "hi")]) none ⟨id, ⟨second, 0⟩, 0⟩

/-- Three messages, each of which is scanned before the next. -/
def spacedEvents : List DeliveryEvent :=
  [ownEvent "a" 1, .poll, ownEvent "b" 2, .poll, ownEvent "c" 3, .poll]

/-- The third message makes the set forget the first two, which the tailer has passed. -/
theorem sends_no_own_row_spacedEvents :
    let initial := start { Relay.quiet with seen := .withCapacity 2 } slowTailer .empty
    initial.throughout remembers spacedEvents = false ∧
      initial.throughout isSilent spacedEvents = true ∧
      (initial.run spacedEvents).admitted.map Prod.fst = ["a", "b", "c"] ∧
      (initial.run spacedEvents).relay.hub =
        Relay.quiet.hub.publishAll ((initial.run spacedEvents).admitted.map Prod.snd) := by
  intro initial
  subst initial
  have fresh : (start { Relay.quiet with seen := .withCapacity 2 } slowTailer .empty).Fresh
      spacedEvents :=
    ⟨by decide, by decide +kernel, by decide +kernel, by decide +kernel⟩
  obtain ⟨silent_of_kept, kept_of_alone, -⟩ :=
    sends_no_own_row { Relay.quiet with seen := .withCapacity 2 } slowTailer .empty spacedEvents
      (by decide +kernel) fresh (by decide)
  obtain ⟨silent, hub⟩ :=
    silent_of_kept (kept_of_alone (by decide) (by decide +kernel) (by decide +kernel))
  exact ⟨by decide +kernel, silent, by decide +kernel, hub⟩

/-- A relay whose set of noted ids holds three, and a tailer at the end of its log. -/
def narrow : Course :=
  start { Relay.quiet with seen := .withCapacity 3 } (.new ⟨true, 250, 10, 0, false, none⟩) .empty

/-- Two messages, which are scanned together, and two more. -/
def pairedEvents : List DeliveryEvent :=
  [ownEvent "a" 1, ownEvent "b" 2, .poll, ownEvent "c" 3, ownEvent "d" 4]

def echoEvents : List DeliveryEvent := pairedEvents ++ [.poll]

/-- The fourth message makes the set forget the third, so that the second scan sends it again,
although no more than two rows are ever behind the position. -/
theorem own_row_is_sent_again :
    narrow.relay.database.tailHead = .ok narrow.position ∧
      narrow.relay.seen = .withCapacity 3 ∧
      narrow.Fresh echoEvents ∧
      DeliveryEvent.Chronological echoEvents ∧
      narrow.throughout stores echoEvents = true ∧
      narrow.throughout (fun course _ => course.scan.isOk) echoEvents = true ∧
      narrow.throughout (fun course event => (course.step event).unscanned.length < 3) echoEvents =
        true ∧
      narrow.throughout isSilent echoEvents = false := by
  refine ⟨?_, rfl, ⟨?_, ?_, ?_, ?_⟩, ?_, ?_, ?_, ?_, ?_⟩
  all_goals decide +kernel

end Course

end Delivery

end LiveChat
