import LiveChat.Delivery.Hub

/-!
# Runs of the hub

Whatever happens to a hub, its viewers have different ids, and the next id is fresh
(`Hub.Reachable.sound`). So a viewer is found under its id after each operation, as the operation
left it (`Hub.find?_publish`).
-/

namespace LiveChat.Delivery

inductive HubEvent where
  | subscribe
  | publish (payload : String)
  | receive (id : Nat)
  | receiveAll (id : Nat)
  | unsubscribe (id : Nat)
  | letGo (id : Nat)
  | closeAll
deriving DecidableEq, Repr

namespace Subscriber

theorem id_of_offer {capacity : Nat} {payload : String} {subscriber changed : Subscriber}
    (offered : subscriber.offer capacity payload = some changed) : changed.id = subscriber.id := by
  unfold offer at offered
  split at offered
  · cases offered
    rfl
  · split at offered
    · cases offered
    · cases offered
      rfl

theorem id_of_deregister {subscriber changed : Subscriber}
    (left : subscriber.deregister = some changed) : changed.id = subscriber.id := by
  unfold deregister at left
  split at left
  · cases left
    rfl
  · cases left

theorem id_of_letGo {subscriber changed : Subscriber}
    (left : subscriber.letGo = some changed) : changed.id = subscriber.id := by
  unfold letGo at left
  split at left
  · cases left
    rfl
  · cases left

theorem offer_of_accepts {capacity : Nat} {payload : String} {subscriber : Subscriber}
    (room : subscriber.accepts capacity = true) :
    subscriber.offer capacity payload =
      some { subscriber with queue := subscriber.queue ++ [payload] } := by
  unfold offer
  rw [if_pos room]

end Subscriber

namespace Hub

def step (hub : Hub) : HubEvent → Hub
  | .subscribe => hub.subscribe.2
  | .publish payload => (hub.publish payload).2
  | .receive id => (hub.receive id).2
  | .receiveAll id => (hub.receiveAll id).2
  | .unsubscribe id => (hub.unsubscribe id).2
  | .letGo id => hub.letGo id
  | .closeAll => hub.closeAll.2

def run (hub : Hub) (events : List HubEvent) : Hub := events.foldl step hub

/-- The hub comes from one without viewers. -/
def Reachable (hub : Hub) : Prop :=
  ∃ capacity events, hub = (withCapacity capacity).run events

/-- Viewers have different ids, all of them used up. -/
structure Sound (hub : Hub) : Prop where
  increasing : hub.subscribers.Pairwise fun earlier later => earlier.id < later.id
  below : ∀ subscriber ∈ hub.subscribers, subscriber.id < hub.nextId

namespace Sound

variable {hub : Hub}

/-- Viewers change or leave, but keep their ids. -/
theorem filterMap (sound : hub.Sound) {change : Subscriber → Option Subscriber}
    (same : ∀ subscriber changed, change subscriber = some changed → changed.id = subscriber.id)
    {changed : Hub} (next : changed.nextId = hub.nextId)
    (subscribers : changed.subscribers = hub.subscribers.filterMap change) : changed.Sound where
  increasing := by
    rw [subscribers, List.pairwise_filterMap]
    refine sound.increasing.imp ?_
    intro earlier later less left first right second
    rw [same earlier left first, same later right second]
    exact less
  below subscriber member := by
    rw [subscribers] at member
    obtain ⟨before, present, changed⟩ := List.mem_filterMap.mp member
    rw [next, same before subscriber changed]
    exact sound.below before present

theorem change (sound : hub.Sound) (id : Nat) {step : Subscriber → Option Subscriber}
    (same : ∀ subscriber changed, step subscriber = some changed → changed.id = subscriber.id) :
    (hub.change id step).Sound := by
  refine sound.filterMap ?_ rfl rfl
  intro subscriber changed given
  split at given
  · exact same subscriber changed given
  · cases given
    rfl

theorem subscribe (sound : hub.Sound) : hub.subscribe.2.Sound where
  increasing := by
    refine List.pairwise_append.mpr ⟨sound.increasing, List.pairwise_singleton _ _, ?_⟩
    intro earlier member later new
    cases List.mem_singleton.mp new
    exact sound.below earlier member
  below subscriber member := by
    rcases List.mem_append.mp member with old | new
    · exact Nat.lt_succ_of_lt (sound.below subscriber old)
    · cases List.mem_singleton.mp new
      exact Nat.lt_succ_self _

theorem publish (sound : hub.Sound) (payload : String) : (hub.publish payload).2.Sound :=
  sound.filterMap (fun _ _ => Subscriber.id_of_offer) rfl rfl

theorem step (sound : hub.Sound) (event : HubEvent) : (hub.step event).Sound := by
  cases event with
  | subscribe => exact sound.subscribe
  | publish payload => exact sound.publish payload
  | receive id =>
      simp only [Hub.step, receive]
      split
      · exact sound
      · split
        · exact sound.change id fun _ _ given => by cases given; rfl
        · exact sound
  | receiveAll id =>
      simp only [Hub.step, receiveAll]
      split
      · exact sound
      · exact sound.change id fun _ _ given => by cases given; rfl
  | unsubscribe id =>
      simp only [Hub.step, unsubscribe]
      split
      · split
        · exact sound.change id fun _ _ => Subscriber.id_of_deregister
        · exact sound
      · exact sound
  | letGo id => exact sound.change id fun _ _ => Subscriber.id_of_letGo
  | closeAll => exact sound.filterMap (fun _ _ => Subscriber.id_of_deregister) rfl rfl

theorem run (sound : hub.Sound) (events : List HubEvent) : (hub.run events).Sound := by
  induction events generalizing hub with
  | nil => exact sound
  | cons event rest ih => exact ih (sound.step event)

end Sound

theorem Reachable.sound {hub : Hub} (reachable : hub.Reachable) : hub.Sound := by
  obtain ⟨capacity, events, rfl⟩ := reachable
  have start : (withCapacity capacity).Sound := ⟨.nil, fun subscriber member => by cases member⟩
  exact start.run events

/-- Among viewers with increasing ids, the one with an id is found as a change left it. -/
theorem find?_filterMap {subscribers : List Subscriber} {change : Subscriber → Option Subscriber}
    (increasing : subscribers.Pairwise fun earlier later => earlier.id < later.id)
    (same : ∀ subscriber changed, change subscriber = some changed → changed.id = subscriber.id)
    (id : Nat) :
    (subscribers.filterMap change).find? (fun subscriber => subscriber.id == id) =
      (subscribers.find? fun subscriber => subscriber.id == id).bind change := by
  induction subscribers with
  | nil => rfl
  | cons first rest ih =>
      obtain ⟨less, increasing⟩ := List.pairwise_cons.mp increasing
      have later := ih increasing
      by_cases this : first.id = id
      · rw [List.find?_cons_of_pos (by simpa using this)]
        cases changed : change first with
        | none =>
            rw [List.filterMap_cons_none changed, Option.bind_some, changed, later]
            have absent : rest.find? (fun subscriber => subscriber.id == id) = none := by
              rw [List.find?_eq_none]
              intro other member found
              have less := less other member
              rw [this, beq_iff_eq.mp found] at less
              exact Nat.lt_irrefl _ less
            rw [absent]
            rfl
        | some left =>
            have kept := same first left changed
            rw [List.filterMap_cons_some changed, Option.bind_some, changed,
              List.find?_cons_of_pos (by simpa using kept.trans this)]
      · rw [List.find?_cons_of_neg (by simpa using this)]
        cases changed : change first with
        | none => rw [List.filterMap_cons_none changed, later]
        | some left =>
            have kept := same first left changed
            rw [List.filterMap_cons_some changed,
              List.find?_cons_of_neg (by simpa using kept ▸ this), later]

theorem find?_publish {hub : Hub} (sound : hub.Sound) (payload : String) (id : Nat) :
    (hub.publish payload).2.find? id = (hub.find? id).bind (Subscriber.offer hub.capacity payload) :=
  find?_filterMap sound.increasing (fun _ _ => Subscriber.id_of_offer) id

/-- A new viewer is found under its id, with an empty queue. -/
theorem find?_subscribe {hub : Hub} (sound : hub.Sound) :
    hub.subscribe.2.find? hub.subscribe.1 = some ⟨hub.subscribe.1, true, true, []⟩ := by
  have absent : hub.subscribers.find? (fun subscriber => subscriber.id == hub.nextId) = none := by
    rw [List.find?_eq_none]
    intro subscriber member found
    have less := sound.below subscriber member
    rw [beq_iff_eq.mp found] at less
    exact Nat.lt_irrefl _ less
  unfold find? subscribe
  rw [List.find?_append, absent]
  simp only [Option.none_or, List.find?_cons, beq_self_eq_true]

end Hub

end LiveChat.Delivery
