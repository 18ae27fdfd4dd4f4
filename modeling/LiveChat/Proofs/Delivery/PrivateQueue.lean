import LiveChat.Proofs.Delivery.Reaction

/-!
# Each viewer has its queue to itself

Along a run of the hub a viewer receives, in the order in which they were published, just the
payloads that came while it was registered and found room in its queue
(`Hub.exists_balanced_run`). A hub that this viewer has to itself would have given it the same
(`Hub.run_alone`). Both are put together in `Hub.queue_is_private`.
-/

namespace LiveChat.Delivery

namespace HubEvent

/-- The event concerns all viewers alike. -/
def isShared : HubEvent → Bool
  | .publish _ => true
  | .closeAll => true
  | _ => false

/-- What a viewer has to do with the event, if that viewer has another id: what only others do is
left out. -/
def forViewer (viewer label : Nat) : HubEvent → Option HubEvent
  | .subscribe => none
  | .publish payload => some (.publish payload)
  | .receive id => if id = viewer then some (.receive label) else none
  | .receiveAll id => if id = viewer then some (.receiveAll label) else none
  | .unsubscribe id => if id = viewer then some (.unsubscribe label) else none
  | .letGo id => if id = viewer then some (.letGo label) else none
  | .closeAll => some .closeAll

end HubEvent

namespace Subscriber

def renamed (label : Nat) (subscriber : Subscriber) : Subscriber := { subscriber with id := label }

variable {capacity label : Nat} {event own : HubEvent} {subscriber : Subscriber}

/-- What only others do leaves a viewer as it is. -/
theorem react_of_others (capacity : Nat)
    (others : event.forViewer subscriber.id label = none) :
    subscriber.react capacity event = some subscriber ∧ subscriber.finds event = [] := by
  cases event with
  | subscribe => exact ⟨rfl, rfl⟩
  | publish payload => cases others
  | closeAll => cases others
  | receive id | receiveAll id | unsubscribe id | letGo id =>
      have other : ¬ subscriber.id = id := by
        rintro rfl
        simp only [HubEvent.forViewer, if_true] at others
        cases others
      simp only [react, finds, other, false_and, if_false, and_self]

theorem offer_renamed (payload : String) :
    (subscriber.renamed label).offer capacity payload =
      (subscriber.offer capacity payload).map (renamed label) := by
  unfold offer
  rw [apply_ite (Option.map (renamed label)), apply_ite (Option.map (renamed label))]
  rfl

theorem deregister_renamed :
    (subscriber.renamed label).deregister = subscriber.deregister.map (renamed label) := by
  unfold deregister
  rw [apply_ite (Option.map (renamed label))]
  rfl

theorem letGo_renamed :
    (subscriber.renamed label).letGo = subscriber.letGo.map (renamed label) := by
  unfold letGo
  rw [apply_ite (Option.map (renamed label))]
  rfl

/-- A viewer does the same under another id. -/
theorem react_renamed (capacity : Nat)
    (concerns : event.forViewer subscriber.id label = some own) :
    (subscriber.renamed label).react capacity own =
        (subscriber.react capacity event).map (renamed label) ∧
      (subscriber.renamed label).finds own = subscriber.finds event := by
  have name : (subscriber.renamed label).id = label := rfl
  cases event with
  | subscribe => cases concerns
  | publish payload =>
      cases concerns
      exact ⟨offer_renamed payload, rfl⟩
  | closeAll =>
      cases concerns
      exact ⟨deregister_renamed, rfl⟩
  | receive id | receiveAll id =>
      obtain ⟨rfl, same⟩ := Option.ite_none_right_eq_some.mp concerns
      cases same
      simp only [react, finds, name, true_and, if_true, apply_ite (Option.map (renamed label))]
      exact ⟨rfl, rfl⟩
  | unsubscribe id =>
      obtain ⟨rfl, same⟩ := Option.ite_none_right_eq_some.mp concerns
      cases same
      refine ⟨?_, rfl⟩
      simp only [react, name, true_and, apply_ite (Option.map (renamed label)), deregister_renamed]
      rfl
  | letGo id =>
      obtain ⟨rfl, same⟩ := Option.ite_none_right_eq_some.mp concerns
      cases same
      refine ⟨?_, rfl⟩
      rw [react, if_pos name, react, if_pos rfl]
      exact letGo_renamed

end Subscriber

namespace Hub

/-- What the viewer with an id receives in a run, in the order in which it looks. -/
def receivedIn (viewer : Nat) : Hub → List HubEvent → List Received
  | _, [] => []
  | hub, event :: rest => hub.receipts viewer event ++ (hub.step event).receivedIn viewer rest

/-- The payloads of a run that are published while the viewer with an id is registered and has a
queue that is shorter than the bound. -/
def admittedIn (viewer bound : Nat) : Hub → List HubEvent → List String
  | _, [] => []
  | hub, event :: rest =>
      (hub.find? viewer).elim [] (Subscriber.admits bound event) ++
        (hub.step event).admittedIn viewer bound rest

variable {hub : Hub} {viewer : Nat} {subscriber : Subscriber}

/-- **A queue in balance, along a run.** What a viewer receives, followed by what waits in the end, is
what waited in the beginning, followed by what came in. -/
theorem exists_balanced_run (sound : hub.Sound) (found : hub.find? viewer = some subscriber)
    (holds : subscriber.Holds hub.capacity) (events : List HubEvent)
    (kept : .letGo viewer ∉ events) :
    ∃ changed, (hub.run events).find? viewer = some changed ∧ changed.Holds hub.capacity ∧
      (hub.receivedIn viewer events).filterMap Received.payload? ++ changed.queue =
        subscriber.queue ++ hub.admittedIn viewer hub.capacity events := by
  induction events generalizing hub subscriber with
  | nil => exact ⟨subscriber, found, holds, (List.append_nil _).symm⟩
  | cons event rest ih =>
      rw [List.mem_cons, not_or] at kept
      have name := id_of_find? found
      obtain ⟨next, reacts, nextHolds, balance⟩ := Subscriber.balance holds
        (name ▸ Ne.symm kept.1)
      have stepped := (find?_step sound event found).trans reacts
      rw [← hub.capacity_step event] at nextHolds
      obtain ⟨changed, last, lastHolds, later⟩ := ih (sound.step event) stepped nextHolds kept.2
      rw [hub.capacity_step event] at lastHolds later
      refine ⟨changed, last, lastHolds, ?_⟩
      rw [receivedIn, admittedIn, receipts_eq event found holds.listening, found, Option.elim_some,
        List.filterMap_append, List.append_assoc, later, ← List.append_assoc, balance,
        List.append_assoc]

/-- **A hub of one's own.** A viewer receives the same, and has the same in its queue, in a run where
nothing happens but what is published, what closes the hub, and what this viewer does itself. -/
theorem run_alone {alone : Hub} {label : Nat} (sound : hub.Sound) (soundAlone : alone.Sound)
    (capacity : alone.capacity = hub.capacity) (found : hub.find? viewer = some subscriber)
    (foundAlone : alone.find? label = some (subscriber.renamed label))
    (holds : subscriber.Holds hub.capacity) (events : List HubEvent)
    (kept : .letGo viewer ∉ events) :
    alone.receivedIn label (events.filterMap (HubEvent.forViewer viewer label)) =
        hub.receivedIn viewer events ∧
      (alone.run (events.filterMap (HubEvent.forViewer viewer label))).find? label =
        ((hub.run events).find? viewer).map (Subscriber.renamed label) := by
  induction events generalizing hub alone subscriber with
  | nil => exact ⟨rfl, by rw [show (hub.run []).find? _ = _ from found]; exact foundAlone⟩
  | cons event rest ih =>
      rw [List.mem_cons, not_or] at kept
      have name := id_of_find? found
      obtain ⟨next, reacts, nextHolds, -⟩ := Subscriber.balance holds (name ▸ Ne.symm kept.1)
      have stepped := (find?_step sound event found).trans reacts
      rw [← hub.capacity_step event] at nextHolds
      rw [receivedIn, receipts_eq event found holds.listening]
      cases concerns : event.forViewer viewer label with
      | none =>
          obtain ⟨same, nothing⟩ :=
            Subscriber.react_of_others hub.capacity (name.symm ▸ concerns)
          rw [reacts] at same
          cases same
          rw [List.filterMap_cons_none concerns, nothing]
          exact ih (sound.step event) soundAlone (capacity.trans (hub.capacity_step event).symm)
            stepped foundAlone nextHolds kept.2
      | some own =>
          obtain ⟨same, finds⟩ :=
            Subscriber.react_renamed hub.capacity (name.symm ▸ concerns)
          have steppedAlone := find?_step soundAlone own foundAlone
          rw [capacity, same, reacts, Option.map_some] at steppedAlone
          rw [List.filterMap_cons_some concerns, receivedIn,
            receipts_eq own foundAlone holds.listening, finds]
          obtain ⟨received, last⟩ := ih (sound.step event) (soundAlone.step own)
            (by rw [capacity_step, capacity_step, capacity]) stepped steppedAlone nextHolds kept.2
          exact ⟨congrArg _ received, last⟩

/-- **Each viewer's queue is its own.** A viewer joins a hub in the course of any events. As long as it
does not let go of its queue, the queue is within the bound, and what it received so far, followed by
what waits, are the payloads that were published while it was registered and found its queue shorter
than the bound, each once and in their order. It receives the same, and has the same in its queue,
without everything that other viewers do. -/
theorem queue_is_private (capacity : Nat) (before after : List HubEvent)
    (kept : .letGo ((withCapacity capacity).run before).subscribe.1 ∉ after) :
    let joined := ((withCapacity capacity).run before).subscribe
    let alone := ((withCapacity capacity).run (before.filter HubEvent.isShared)).subscribe
    let own := after.filterMap (HubEvent.forViewer joined.1 alone.1)
    ∃ subscriber, (joined.2.run after).listener? joined.1 = some subscriber ∧
      subscriber.queue.length ≤ max capacity 1 ∧
      (joined.2.receivedIn joined.1 after).filterMap Received.payload? ++ subscriber.queue =
        joined.2.admittedIn joined.1 (max capacity 1) after ∧
      alone.2.receivedIn alone.1 own = joined.2.receivedIn joined.1 after ∧
      ((alone.2.run own).listener? alone.1).map Subscriber.queue = some subscriber.queue := by
  intro joined alone own
  have sound (events : List HubEvent) : ((withCapacity capacity).run events).Sound :=
    Reachable.sound ⟨capacity, events, rfl⟩
  have bound (events : List HubEvent) :
      ((withCapacity capacity).run events).subscribe.2.capacity = max capacity 1 :=
    capacity_run _ events
  have found := find?_subscribe (sound before)
  have foundAlone := find?_subscribe (sound (before.filter HubEvent.isShared))
  have holds : Subscriber.Holds joined.2.capacity ⟨joined.1, true, true, []⟩ :=
    ⟨rfl, Nat.zero_le _⟩
  obtain ⟨changed, last, lastHolds, balance⟩ :=
    exists_balanced_run (sound before).subscribe found holds after kept
  obtain ⟨received, lastAlone⟩ := run_alone (sound before).subscribe (sound _).subscribe
    ((bound _).trans (bound _).symm) found foundAlone holds after kept
  rw [last, Option.map_some] at lastAlone
  rw [show joined.2.capacity = max capacity 1 from bound before] at lastHolds balance
  refine ⟨changed, listener?_eq_some.mpr ⟨last, lastHolds.listening⟩, lastHolds.bounded, balance,
    received, ?_⟩
  have reader : (alone.2.run own).listener? alone.1 = some (changed.renamed alone.1) :=
    listener?_eq_some.mpr ⟨lastAlone, lastHolds.listening⟩
  rw [reader]
  rfl

/-- What happens to a hub before a viewer joins it. -/
def earlyEvents : List HubEvent := [.subscribe, .publish "early"]

/-- The viewer misses a payload that comes before it has looked, and one that comes after the hub was
closed. Somebody else looks, leaves and comes meanwhile. -/
def crowdedEvents : List HubEvent :=
  [.publish "a", .receive 1, .publish "b", .letGo 1, .receive 2, .publish "c", .subscribe,
    .closeAll, .publish "late", .unsubscribe 3]

theorem queue_is_private_crowdedEvents :
    let joined := ((withCapacity 0).run earlyEvents).subscribe
    let alone := ((withCapacity 0).run [.publish "early"]).subscribe
    .letGo joined.1 ∉ crowdedEvents ∧
      ∃ subscriber, (joined.2.run crowdedEvents).listener? joined.1 = some subscriber ∧
        ["a"] ++ subscriber.queue = ["a", "c"] ∧
        ((alone.2.run [.publish "a", .publish "b", .receive 1, .publish "c", .closeAll,
          .publish "late"]).listener? alone.1).map Subscriber.queue = some subscriber.queue := by
  intro joined alone
  have kept : .letGo joined.1 ∉ crowdedEvents := by decide
  obtain ⟨subscriber, reader, -, balance, -, same⟩ :=
    queue_is_private 0 earlyEvents crowdedEvents kept
  have received : (joined.2.receivedIn joined.1 crowdedEvents).filterMap Received.payload? =
      ["a"] := by decide +kernel
  have admitted : joined.2.admittedIn joined.1 (max 0 1) crowdedEvents = ["a", "c"] := by
    decide +kernel
  rw [← received, ← admitted]
  exact ⟨kept, subscriber, reader, balance, same⟩

end Hub

end LiveChat.Delivery
