import LiveChat.Proofs.Delivery.Publications

/-!
# Every message exactly once

A tailer that starts at the end of the log catches up with whatever comes in behind its position. If
everything does, and the set of noted ids forgets nothing, then the hub is given every own message
once and every foreign row once (`Course.publishes_exactly_once`).
-/

namespace LiveChat.Delivery

open LiveChat.Chat LiveChat.Store

theorem Tailer.poll_of_error {tailer : Tailer} {source : TailSource} {relay : Relay}
    {offsets : OffsetDisk} {failure : Failure}
    (failed : (tailer.poll source relay offsets).sent = .error failure) :
    tailer.poll source relay offsets = ⟨.error failure, tailer, relay, offsets⟩ := by
  cases found : source.next tailer.position (max tailer.settings.batch 1 : Nat) with
  | error cause =>
      simp only [poll, found] at failed ⊢
      cases failed
      rfl
  | ok batch =>
      by_cases nothing : batch.messages = []
      · simp only [poll, found, nothing, if_true] at failed
        cases failed
      · simp only [poll, found, nothing, if_false] at failed
        cases failed

namespace Course

variable {course : Course}

/-- When a scan returns nothing, the tailer has taken all that was due. -/
theorem Invariant.perm_of_scan {relay : Relay} {taken : List LogRow}
    {publications : List Publication} (invariant : course.Invariant relay taken publications)
    {batch : TailBatch} (found : course.scan = .ok batch) (nothing : batch.messages = []) :
    taken.Perm course.due := by
  have positive : 0 < course.limit := Nat.lt_of_lt_of_le Nat.one_pos (Nat.le_max_right _ _)
  exact invariant.coverage.perm_of_eq_nil positive
    ((eq_nil_iff_of_messagesOf (scan_eq_ok found).1).mp nothing)

theorem foreign_run (events : List DeliveryEvent) (fresh : course.Fresh events) :
    ∃ rows, (course.run events).foreign = course.foreign ++ rows ∧
      List.Forall₂ LogRow.Holds rows (events.filterMap DeliveryEvent.inserted?) := by
  induction events generalizing course with
  | nil => exact ⟨[], (List.append_nil _).symm, .nil⟩
  | cons event rest ih =>
      obtain ⟨rows, later, held⟩ := ih fresh.step
      cases event with
      | insert message =>
          have unused := (fresh.head rfl).1
          rcases course.log.insertMessage_cases message with
            ⟨taken, -⟩ | ⟨-, log, added, rows_eq⟩
          · rw [unused] at taken
            cases taken
          · refine ⟨course.log.rowFor message :: rows, ?_,
              .cons (course.log.holds_rowFor message) held⟩
            refine later.trans ?_
            simp only [step, added, MessageLog.arrivals_of_append rows_eq, List.append_assoc]
            rfl
      | accept value origin stamp => exact ⟨rows, later, held⟩
      | poll => exact ⟨rows, later, held⟩
      | outage down => exact ⟨rows, later, held⟩

theorem foreign_due_step {event : DeliveryEvent} (behind : course.arrivesBehind event = true)
    (due : ∀ row ∈ course.foreign, row ∈ course.due) :
    ∀ row ∈ (course.step event).foreign, row ∈ (course.step event).due := by
  cases event with
  | accept value origin stamp => exact fun row member => List.mem_append_left _ (due row member)
  | insert message =>
      rcases course.log.insertMessage_cases message with ⟨-, failure, refused⟩ | ⟨-, log, added, -⟩
      · simpa only [step, refused] using due
      · simp only [arrivesBehind, step, added] at behind ⊢
        intro row member
        rcases List.mem_append.mp member with old | new
        · exact List.mem_append_left _ (due row old)
        · exact List.mem_append_right _
            (List.mem_filter.mpr ⟨new, List.all_eq_true.mp behind row new⟩)
  | poll => exact due
  | outage down => exact due

theorem foreign_due_run (events : List DeliveryEvent)
    (behind : course.throughout arrivesBehind events = true)
    (due : ∀ row ∈ course.foreign, row ∈ course.due) :
    ∀ row ∈ (course.run events).foreign, row ∈ (course.run events).due := by
  induction events generalizing course with
  | nil => exact due
  | cons event rest ih =>
      rw [throughout, Bool.and_eq_true] at behind
      exact ih behind.2 (foreign_due_step behind.1 due)

/-- **Every message exactly once.** A tailer starts at the end of the log, the ids of what is to come
are fresh, all rows come in behind the position of the tailer, and the set of noted ids forgets
nothing. Then the hub is given one payload for each own message, stored or not, and payloads for
foreign rows in strict order; and if a scan returns nothing, these are just the foreign rows that a
message can be rebuilt from. A scan that fails changes nothing. -/
theorem publishes_exactly_once (relay : Relay) (tailer : Tailer) (offsets : OffsetDisk)
    (events : List DeliveryEvent)
    (sought : relay.database.tailHead = .ok tailer.position)
    (fresh : (start relay tailer offsets).Fresh events)
    (behind : (start relay tailer offsets).throughout arrivesBehind events = true)
    (remembered : (start relay tailer offsets).throughout remembers events = true) :
    let course := (start relay tailer offsets).run events
    List.Forall₂ LogRow.Holds course.foreign (events.filterMap DeliveryEvent.inserted?) ∧
    (∃ publications : List Publication,
      course.relay.hub = relay.hub.publishAll (publications.map Publication.payload) ∧
      publications.filterMap Publication.own? = course.admitted ∧
      ((publications.filterMap Publication.row?).Pairwise fun earlier later =>
        earlier.position.before later.position = true) ∧
      (∀ row payload, Publication.tailed row payload ∈ publications →
        row.Replays relay.enricher.options payload) ∧
      ∀ batch, course.scan = .ok batch → batch.messages = [] →
        (publications.filterMap Publication.row?).Perm
          (course.foreign.filter fun row => row.isReplayable relay.enricher)) ∧
    ∀ source failure,
      (course.tailer.poll source course.relay course.offsets).sent = .error failure →
        course.tailer.poll source course.relay course.offsets =
          ⟨.error failure, course.tailer, course.relay, course.offsets⟩ := by
  intro course
  have nothing := Database.not_before_of_tailHead sought
  obtain ⟨taken, publications, invariant⟩ :=
    (Invariant.start offsets nothing).run events fresh (Or.inl remembered)
  obtain ⟨rows, foreign, held⟩ := foreign_run events fresh
  have due := foreign_due_run events behind fun row member => by cases member
  refine ⟨?_, ⟨publications, invariant.hub, invariant.own, ?_, invariant.replays, ?_⟩, ?_⟩
  · rw [show course.foreign = rows from foreign]
    exact held
  · rw [invariant.tailed]
    exact invariant.coverage.taken_pairwise.filter _
  · intro batch found empty
    rw [invariant.tailed]
    have all := invariant.perm_of_scan found empty
    refine (List.perm_ext_iff_of_nodup (invariant.coverage.taken_nodup.filter _)
      ((course.log.rows_nodup.sublist invariant.separated.foreign_sublist).filter _)).mpr ?_
    intro row
    rw [List.mem_filter, List.mem_filter, Bool.and_eq_true, decide_eq_true_eq, all.mem_iff]
    constructor
    · exact fun parts => parts.2
    · exact fun parts => ⟨due row parts.1, parts⟩
  · exact fun source failure failed => Tailer.poll_of_error failed

/-- A tailer that takes one row at a time. -/
def slowTailer : Tailer := .new ⟨true, 250, 1, 0, false, none⟩

/-- Two own messages, of which the second cannot be stored, a foreign row and three scans, of which
the first fails. -/
def busyEvents : List DeliveryEvent :=
  let value := Json.object [("message", .string "hi")]
  [.accept value none ⟨"a", ⟨1, 0⟩, 0⟩, .insert (spoken "b" 2), .outage true, .poll,
    .accept value none ⟨"c", ⟨3, 0⟩, 0⟩, .outage false, .poll, .poll]

theorem publishes_exactly_once_busyEvents :
    let course := (start Relay.quiet slowTailer .empty).run busyEvents
    course.scan = .ok ⟨[], ⟨2000, 2⟩⟩ ∧ course.admitted.map Prod.fst = ["a", "c"] ∧
      ∃ publications : List Publication,
        course.relay.hub = Relay.quiet.hub.publishAll (publications.map Publication.payload) ∧
        publications.filterMap Publication.own? = course.admitted ∧
        (publications.filterMap Publication.row?).map LogRow.id = [some "b"] := by
  intro course
  have fresh : (start Relay.quiet slowTailer .empty).Fresh busyEvents :=
    ⟨by decide, by decide +kernel, by decide +kernel, by decide +kernel⟩
  have scan : course.scan = .ok ⟨[], ⟨2000, 2⟩⟩ := by decide +kernel
  obtain ⟨-, ⟨publications, hub, own, -, -, caught⟩, -⟩ :=
    publishes_exactly_once Relay.quiet slowTailer .empty busyEvents (by decide +kernel) fresh
      (by decide +kernel) (by decide +kernel)
  refine ⟨scan, by decide +kernel, publications, hub, own, ?_⟩
  have foreign : course.foreign = [.ofEntry (.ofMessage (spoken "b" 2)) 2 2000] := by decide +kernel
  have rows := (caught _ scan rfl).map LogRow.id
  rw [foreign] at rows
  exact List.perm_singleton.mp (rows.trans (.of_eq (by decide +kernel)))

end Course

end LiveChat.Delivery
