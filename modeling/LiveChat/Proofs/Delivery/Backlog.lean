import LiveChat.Proofs.Delivery.Admission
import LiveChat.Proofs.Delivery.Publications

/-!
# What waits to be scanned

The rows behind the position of a tailer wait to be scanned. A message that the relay takes in can
only add its own row to them (`Course.step_accept`), and does so if messages are stored in the order
of their timestamps (`Course.InOrder.unscanned_of_admits`). A scan takes away what it returns
(`Course.mem_unscanned_poll`).
-/

namespace LiveChat

open LiveChat.Chat LiveChat.Store LiveChat.Time

theorem Time.Timestamp.toMillis_truncated (time : Timestamp) :
    time.truncated.toMillis = time.toMillis := by
  unfold truncated
  cases cut : ofMillis? time.toMillis with
  | none => rfl
  | some whole =>
      unfold ofMillis? at cut
      dsimp only at cut
      split at cut
      · cases cut
        change time.toMillis.fdiv 1000 * 1000 +
          ((time.toMillis.fmod 1000).toNat * 1000000 / 1000000 : Nat) = time.toMillis
        have parts := Int.mul_fdiv_add_fmod time.toMillis 1000
        have positive := Int.fmod_nonneg_of_pos time.toMillis (b := 1000) (by decide)
        omega
      · cases cut

namespace Delivery

namespace DeliveryEvent

def stamp? : DeliveryEvent → Option Stamp
  | .accept _ _ stamp => some stamp
  | _ => none

/-- No message is stamped with an earlier millisecond than the messages before it. -/
def Chronological (events : List DeliveryEvent) : Prop :=
  (events.filterMap stamp?).Pairwise fun earlier later =>
    earlier.time.toMillis ≤ later.time.toMillis

instance (events : List DeliveryEvent) : Decidable (Chronological events) :=
  inferInstanceAs (Decidable (List.Pairwise _ _))

end DeliveryEvent

namespace Course

/-- The rows behind the position of the tailer. -/
def unscanned (course : Course) : List LogRow :=
  course.log.rows.filter fun row => course.position.before row.position

/-- A message that the relay takes in is stored. -/
def stores (course : Course) : DeliveryEvent → Bool
  | .accept value origin stamp =>
      (course.relay.accept value origin stamp).1 ≠ .published stamp.id false
  | _ => true

variable {course next : Course} {event : DeliveryEvent} {rest : List DeliveryEvent} {row : LogRow}

theorem mem_unscanned_iff :
    row ∈ course.unscanned ↔
      row ∈ course.log.rows ∧ course.position.before row.position = true :=
  List.mem_filter

/-- The row that the relay gives to a message. -/
def rowOf (course : Course) (stamp : Stamp) (message : ChatMessage) : LogRow :=
  course.log.rowFor ((EnrichedMessage.ofMessage message).toStored stamp.id stamp.time)

theorem ts_rowOf (course : Course) (stamp : Stamp) (message : ChatMessage) :
    (course.rowOf stamp message).ts = stamp.time.toMillis :=
  stamp.time.toMillis_truncated

/-- What is new when the relay has taken a message in. -/
structure Admits (course : Course) (stamp : Stamp) (message : ChatMessage) (stored : Bool)
    (next : Course) : Prop where
  settled : message.IsSettled course.relay.enricher.options
  position : next.position = course.position
  options : next.relay.enricher.options = course.relay.enricher.options
  seen : next.relay.seen = (course.relay.seen.insert stamp.id).2
  hub : next.relay.hub = course.relay.hub.publishAll [message.payload]
  admitted : next.admitted = course.admitted ++ [(stamp.id, message.payload)]
  rows : next.log.rows = course.log.rows ++ if stored then [course.rowOf stamp message] else []

theorem step_accept (course : Course) (value : Json) (origin : Option Platform) (stamp : Stamp) :
    let next := course.step (.accept value origin stamp)
    (course.relay.admission? value origin stamp = none ∧ next = course) ∨
      ∃ message stored,
        course.relay.admission? value origin stamp = some (stamp.id, message.payload) ∧
        (course.relay.accept value origin stamp).1 = .published stamp.id stored ∧
        course.Admits stamp message stored next := by
  intro next
  rcases course.relay.accept_outcome value origin stamp with
    ⟨none, reason, -, same⟩ | ⟨message, stored, changed, takes⟩
  · refine .inl ⟨none, ?_⟩
    have nothing_due : course.dueIn course.relay.database.tables.log = [] :=
      Invariant.dueIn_self course
    simp only [next, step, none, same, nothing_due, Option.toList_none, List.append_nil]
  · obtain rfl : next.relay = changed := congrArg Prod.snd takes.accepted
    refine .inr ⟨message, stored, takes.admission?, congrArg Prod.fst takes.accepted, ?_⟩
    refine ⟨takes.settled, rfl, takes.options, takes.seen, takes.hub, ?_, ?_⟩
    · change course.admitted ++ (course.relay.admission? value origin stamp).toList = _
      rw [takes.admission?]
      rfl
    · have kept := takes.database
      rw [log]
      cases stored with
      | false =>
          rw [show next.relay.database = course.relay.database from kept]
          exact (List.append_nil _).symm
      | true =>
          obtain ⟨log, database, rows⟩ := kept
          rw [database]
          exact rows

namespace Admits

variable {stamp : Stamp} {message : ChatMessage} {stored : Bool}

theorem unscanned_subset (admits : course.Admits stamp message stored next)
    (member : row ∈ course.unscanned) : row ∈ next.unscanned := by
  rw [mem_unscanned_iff] at *
  rw [admits.rows, admits.position]
  exact ⟨List.mem_append_left _ member.1, member.2⟩

theorem eq_of_mem_unscanned (admits : course.Admits stamp message stored next)
    (member : row ∈ next.unscanned) :
    row ∈ course.unscanned ∨ row = course.rowOf stamp message := by
  rw [mem_unscanned_iff, admits.rows, admits.position, List.mem_append] at member
  rcases member with ⟨old | new, behind⟩
  · exact .inl (mem_unscanned_iff.mpr ⟨old, behind⟩)
  · cases stored with
    | false => cases new
    | true => exact .inr (List.mem_singleton.mp new)

/-- A fresh id is the one of no row that is there. -/
theorem id_ne {value : Json} {origin : Option Platform}
    (fresh : course.Fresh (.accept value origin stamp :: rest)) (member : row ∈ course.unscanned)
    {id : String} (given : row.id = some id) : id ≠ stamp.id := by
  intro same
  have stored := (course.log.hasId_eq_true_iff id).mpr ⟨row, (mem_unscanned_iff.mp member).1, given⟩
  rw [same, (fresh.head rfl).1] at stored
  cases stored

end Admits

/-- A scan leaves the rows behind the position that it did not return. -/
theorem mem_unscanned_poll {batch : TailBatch} (found : course.scan = .ok batch) :
    row ∈ (course.step .poll).unscanned ↔ row ∈ course.unscanned ∧ row ∉ course.scanned := by
  rcases course.step_poll with ⟨⟨failure, failed⟩, -⟩ | ⟨other, offsets, same, next⟩
  · rw [found] at failed
    cases failed
  · rw [found] at same
    cases same
    have log : (course.relay.publishRows batch.messages).2.database.tables.log = course.log :=
      congrArg (fun database => database.tables.log) (course.relay.publishRows_keeps _).1
    rw [mem_unscanned_iff, mem_unscanned_iff, scanned, MessageLog.mem_rowsAfter_iff, next]
    simp only [Course.log, Course.position, log, (scan_eq_ok found).2]
    constructor
    · rintro ⟨member, beyond⟩
      have behind := Position.before_of_not_before (course.log.not_reached_before _ _) beyond
      exact ⟨⟨member, behind⟩, fun parts => parts.2.2 beyond⟩
    · rintro ⟨⟨member, behind⟩, left⟩
      refine ⟨member, ?_⟩
      by_contra reached
      exact left ⟨member, behind, reached⟩

theorem mem_unscanned_of_poll (member : row ∈ (course.step .poll).unscanned) :
    row ∈ course.unscanned := by
  rcases course.step_poll with ⟨-, same⟩ | ⟨batch, offsets, found, -⟩
  · rwa [same] at member
  · exact ((mem_unscanned_poll found).mp member).1

/-- No row behind the position bears a later timestamp than the messages that are to come. -/
def InOrder (course : Course) (events : List DeliveryEvent) : Prop :=
  ∀ row ∈ course.unscanned, ∀ stamp ∈ events.filterMap DeliveryEvent.stamp?,
    row.ts ≤ stamp.time.toMillis

namespace InOrder

theorem step (inOrder : course.InOrder (event :: rest)) (own : event.inserted? = none)
    (timed : DeliveryEvent.Chronological (event :: rest)) :
    (course.step event).InOrder rest := by
  have old (row : LogRow) (behind : row ∈ course.unscanned) :
      ∀ stamp ∈ rest.filterMap DeliveryEvent.stamp?, row.ts ≤ stamp.time.toMillis := by
    intro stamp listed
    exact inOrder row behind stamp
      (((List.sublist_cons_self event rest).filterMap DeliveryEvent.stamp?).subset listed)
  cases event with
  | accept value origin stamp =>
      rcases course.step_accept value origin stamp with
        ⟨-, same⟩ | ⟨message, stored, -, -, admits⟩
      · rw [same]
        exact old
      · intro row member later listed
        rcases admits.eq_of_mem_unscanned member with behind | rfl
        · exact old row behind later listed
        · rw [ts_rowOf]
          exact (List.pairwise_cons.mp timed).1 later listed
  | insert message => cases own
  | poll => exact fun row member => old row (mem_unscanned_of_poll member)
  | outage down => exact old

/-- A message that is stored in order joins the rows behind the position. -/
theorem unscanned_of_admits {value : Json} {origin : Option Platform} {stamp : Stamp}
    (inOrder : course.InOrder (.accept value origin stamp :: rest)) {message : ChatMessage}
    (admits : course.Admits stamp message true next) (waiting : course.unscanned ≠ []) :
    next.unscanned = course.unscanned ++ [course.rowOf stamp message] := by
  obtain ⟨row, member⟩ := List.exists_mem_of_ne_nil _ waiting
  have time := inOrder row member stamp List.mem_cons_self
  rw [← ts_rowOf course stamp message] at time
  obtain ⟨present, behind⟩ := mem_unscanned_iff.mp member
  have number : row.rowId < (course.rowOf stamp message).rowId :=
    course.log.rowId_lt_nextRowId row present
  have joins : course.position.before (course.rowOf stamp message).position = true := by
    refine Position.before_of_not_before (Position.not_before_of_before behind) ?_
    rw [Position.before_iff]
    simp only [LogRow.position]
    omega
  rw [unscanned, admits.rows, admits.position, if_pos rfl, List.filter_append]
  exact congrArg (course.unscanned ++ ·) (List.filter_cons_of_pos joins)

end InOrder

end Course

end Delivery

end LiveChat
