import LiveChat.Proofs.Delivery.ExactlyOnce

/-!
# Late rows

Writers stamp their rows before they add them, so a row may come in with an earlier timestamp than
rows that the tailer has passed. The tailer never finds such a row. Of the rows that others add, it
publishes just those that come in behind its position (`Course.publishes_due_rows`).
-/

namespace LiveChat.Delivery

open LiveChat.Store

/-- Publications without own messages are offers of rows. -/
theorem Publication.exists_offers {publications : List Publication}
    (none : publications.filterMap own? = []) :
    ∃ offers : List (LogRow × String), publications = offers.map ofOffer := by
  induction publications with
  | nil => exact ⟨[], rfl⟩
  | cons publication rest ih =>
      cases publication with
      | own id payload => cases none
      | tailed row payload =>
          obtain ⟨offers, same⟩ := ih none
          exact ⟨(row, payload) :: offers, congrArg _ same⟩

namespace Course

variable {course : Course}

theorem due_foreign_run (events : List DeliveryEvent)
    (outside : ∀ event ∈ events, event.isOwn = false)
    (foreign : ∀ row ∈ course.due, row ∈ course.foreign) :
    ∀ row ∈ (course.run events).due, row ∈ (course.run events).foreign := by
  induction events generalizing course with
  | nil => exact foreign
  | cons event rest ih =>
      refine ih (fun other member => outside other (List.mem_cons_of_mem _ member)) ?_
      cases event with
      | accept value origin stamp => cases outside _ List.mem_cons_self
      | insert message =>
          rcases course.log.insertMessage_cases message with
            ⟨-, failure, refused⟩ | ⟨-, log, added, -⟩
          · simpa only [step, refused] using foreign
          · simp only [step, added]
            intro row member
            rcases List.mem_append.mp member with old | new
            · exact List.mem_append_left _ (foreign row old)
            · exact List.mem_append_right _ (List.mem_filter.mp new).1
      | poll => exact foreign
      | outage down => exact foreign

theorem admitted_run (events : List DeliveryEvent)
    (outside : ∀ event ∈ events, event.isOwn = false) :
    (course.run events).admitted = course.admitted := by
  induction events generalizing course with
  | nil => rfl
  | cons event rest ih =>
      refine (ih fun other member => outside other (List.mem_cons_of_mem _ member)).trans ?_
      cases event with
      | accept value origin stamp => cases outside _ List.mem_cons_self
      | insert message =>
          simp only [step]
          split <;> rfl
      | poll => rfl
      | outage down => rfl

/-- **A tailer publishes what comes in behind its position.** A tailer starts at the end of the log,
and others add rows with fresh ids. If a scan returns nothing, the hub was given one payload for
each row that came in behind the position of the tailer and that a message can be rebuilt from. So a
foreign row was published just when it came in behind the position, and all of them were just when
all did. -/
theorem publishes_due_rows (relay : Relay) (tailer : Tailer) (offsets : OffsetDisk)
    (events : List DeliveryEvent)
    (sought : relay.database.tailHead = .ok tailer.position)
    (fresh : (start relay tailer offsets).Fresh events)
    (outside : ∀ event ∈ events, event.isOwn = false) :
    let course := (start relay tailer offsets).run events
    List.Forall₂ LogRow.Holds course.foreign (events.filterMap DeliveryEvent.inserted?) ∧
    ∀ batch, course.scan = .ok batch → batch.messages = [] →
      ∃ offers : List (LogRow × String),
        course.relay.hub = relay.hub.publishAll (offers.map Prod.snd) ∧
        (∀ offer ∈ offers, offer.1.Replays relay.enricher.options offer.2) ∧
        (offers.map Prod.fst).Perm
          (course.due.filter fun row => row.isReplayable relay.enricher) ∧
        ((∀ row ∈ course.foreign, row.isReplayable relay.enricher = true →
            row ∈ offers.map Prod.fst) ↔
          ∀ row ∈ course.foreign, row.isReplayable relay.enricher = true → row ∈ course.due) := by
  intro course
  have nothing := Database.not_before_of_tailHead sought
  have none_due : (start relay tailer offsets).due = [] := List.filter_eq_nil_iff.mpr nothing
  obtain ⟨taken, publications, invariant⟩ :=
    (Invariant.start offsets nothing).run events fresh (Or.inr ⟨outside, fun row member behind =>
      absurd behind (nothing row member)⟩)
  obtain ⟨rows, foreign, held⟩ := foreign_run events fresh
  have foreign_of_due := due_foreign_run events outside fun row member => by
    rw [none_due] at member
    cases member
  refine ⟨?_, ?_⟩
  · rw [show course.foreign = rows from foreign]
    exact held
  · intro batch found empty
    have own : publications.filterMap Publication.own? = [] :=
      invariant.own.trans (admitted_run events outside)
    obtain ⟨offers, rfl⟩ := Publication.exists_offers own
    have tailed := invariant.tailed
    rw [Publication.filterMap_row?_ofOffer] at tailed
    have published : (offers.map Prod.fst).Perm
        (course.due.filter fun row => row.isReplayable relay.enricher) := by
      rw [tailed]
      refine ((invariant.perm_of_scan found empty).filter _).trans (.of_eq ?_)
      refine List.filter_congr fun row member => ?_
      rw [decide_eq_true (foreign_of_due row member), Bool.true_and]
    have hub := invariant.hub
    rw [Publication.map_payload_ofOffer] at hub
    refine ⟨offers, hub, ?_, published, ?_⟩
    · intro offer member
      exact invariant.replays offer.1 offer.2 (List.mem_map_of_mem member)
    · refine forall₂_congr fun row _ => ?_
      refine imp_congr_right fun replayable => ?_
      rw [published.mem_iff, List.mem_filter]
      exact and_iff_left replayable

/-- Two foreign rows, of which the second bears an earlier timestamp, and a scan after each. -/
def lateEvents : List DeliveryEvent :=
  [.insert (spoken "a" 2), .poll, .insert (spoken "b" 1), .poll]

theorem publishes_due_rows_lateEvents :
    let course := (start Relay.quiet slowTailer .empty).run lateEvents
    ∃ offers : List (LogRow × String),
      course.relay.hub = Relay.quiet.hub.publishAll (offers.map Prod.snd) ∧
      (offers.map Prod.fst).map LogRow.id = [some "a"] := by
  intro course
  have fresh : (start Relay.quiet slowTailer .empty).Fresh lateEvents :=
    ⟨by decide, by decide +kernel, by decide +kernel, by decide +kernel⟩
  have scan : course.scan = .ok ⟨[], ⟨2000, 1⟩⟩ := by decide +kernel
  have due : course.due = [.ofEntry (.ofMessage (spoken "a" 2)) 1 2000] := by decide +kernel
  obtain ⟨-, caught⟩ :=
    publishes_due_rows Relay.quiet slowTailer .empty lateEvents (by decide +kernel) fresh (by decide)
  obtain ⟨offers, hub, -, published, -⟩ := caught _ scan rfl
  rw [due] at published
  exact ⟨offers, hub,
    List.perm_singleton.mp ((published.map LogRow.id).trans (.of_eq (by decide +kernel)))⟩

/-- **A late row is skipped.** The row that came in last can be sent, and the tailer finds nothing
more, but the viewer has the payload of the other row only. -/
theorem late_row_is_skipped :
    let course := (start Relay.quiet slowTailer .empty).run lateEvents
    course.scan = .ok ⟨[], ⟨2000, 1⟩⟩ ∧
      course.foreign.map LogRow.id = [some "a", some "b"] ∧
      (course.foreign.all fun row => row.isReplayable Relay.quiet.enricher) = true ∧
      (course.relay.hub.find? 1).map Subscriber.queue =
        some (Relay.quiet.enricher.replayed? (spoken "a" 2)).toList ∧
      Relay.quiet.enricher.replayed? (spoken "b" 1) ≠
        Relay.quiet.enricher.replayed? (spoken "a" 2) := by
  intro course
  refine ⟨?_, ?_, ?_, ?_, ?_⟩
  all_goals decide +kernel

end Course

end LiveChat.Delivery
