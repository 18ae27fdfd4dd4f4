import LiveChat.Proofs.Delivery.Registry
import Mathlib.Algebra.BigOperators.Group.List.Basic
import Mathlib.Algebra.GroupWithZero.Nat

/-!
# Where the payloads are

A payload is delivered to a queue or lost, for each registered viewer that has its queue
(`Hub.delivered_add_dropped`). What was delivered in a run is received, waits, or went away with a
queue that its viewer let go of (`Hub.delivered_run`).
-/

namespace LiveChat.Delivery

namespace Subscriber

variable {capacity : Nat} {event : HubEvent} {subscriber : Subscriber}

/-- The number of payloads that wait, if there is a viewer. -/
def waiting (subscriber : Option Subscriber) : Nat :=
  subscriber.elim 0 fun subscriber => subscriber.queue.length

/-- A viewer that let go of its queue has nothing in it. -/
def Tidy (subscriber : Subscriber) : Prop := subscriber.listening = false → subscriber.queue = []

/-- The number of payloads that an event puts into the queue of a viewer. -/
def gains (capacity : Nat) (event : HubEvent) (subscriber : Subscriber) : Nat :=
  match event with
  | .publish _ => if subscriber.accepts capacity then 1 else 0
  | _ => 0

/-- The number of payloads that leave the queue of a viewer by an event. -/
def loses (event : HubEvent) (subscriber : Subscriber) : Nat :=
  match event with
  | .receive id => if subscriber.id = id then min subscriber.queue.length 1 else 0
  | .receiveAll id | .letGo id => if subscriber.id = id then subscriber.queue.length else 0
  | _ => 0

theorem listening_of_accepts (accepts : subscriber.accepts capacity = true) :
    subscriber.listening = true := by
  simp only [Subscriber.accepts, isReachable, Bool.and_eq_true] at accepts
  exact accepts.1.2

theorem tidy_of_listening (held : subscriber.listening = true) : subscriber.Tidy := by
  intro mute
  rw [held] at mute
  cases mute

theorem Tidy.offer (tidy : subscriber.Tidy) {payload : String} {changed : Subscriber}
    (offered : subscriber.offer capacity payload = some changed) : changed.Tidy := by
  unfold Subscriber.offer at offered
  split at offered
  next accepts =>
      cases offered
      have held := listening_of_accepts accepts
      exact tidy_of_listening held
  next =>
      split at offered
      · cases offered
      · cases offered
        exact tidy

theorem Tidy.deregister (tidy : subscriber.Tidy) {changed : Subscriber}
    (left : subscriber.deregister = some changed) : changed.Tidy := by
  obtain ⟨-, same⟩ := Option.ite_none_right_eq_some.mp left
  cases same
  exact tidy

theorem Tidy.react (tidy : subscriber.Tidy) {changed : Subscriber}
    (reacts : subscriber.react capacity event = some changed) : changed.Tidy := by
  cases event with
  | subscribe =>
      cases reacts
      exact tidy
  | publish payload => exact tidy.offer reacts
  | receive id | receiveAll id =>
      rw [Subscriber.react] at reacts
      split at reacts
      next own =>
          cases reacts
          exact tidy_of_listening own.2
      next =>
          cases reacts
          exact tidy
  | unsubscribe id =>
      rw [Subscriber.react] at reacts
      split at reacts
      · exact tidy.deregister reacts
      · cases reacts
        exact tidy
  | letGo id =>
      rw [Subscriber.react] at reacts
      split at reacts
      · obtain ⟨-, same⟩ := Option.ite_none_right_eq_some.mp reacts
        cases same
        exact fun _ => rfl
      · cases reacts
        exact tidy
  | closeAll => exact tidy.deregister reacts

theorem waiting_offer (tidy : subscriber.Tidy) (payload : String) :
    waiting (subscriber.offer capacity payload) =
      subscriber.gains capacity (.publish payload) + subscriber.queue.length := by
  unfold Subscriber.offer gains
  split
  · exact (List.length_append.trans (Nat.add_comm _ _))
  · split
    next gone =>
        rw [Bool.and_eq_true, Bool.not_eq_true'] at gone
        rw [tidy gone.2]
        rfl
    next => exact (Nat.zero_add _).symm

theorem waiting_deregister (tidy : subscriber.Tidy) :
    waiting subscriber.deregister = subscriber.queue.length := by
  unfold Subscriber.deregister
  split
  next => rfl
  next mute =>
      rw [tidy (Bool.eq_false_iff.mpr mute)]
      rfl

theorem waiting_letGo (subscriber : Subscriber) : waiting subscriber.letGo = 0 := by
  unfold Subscriber.letGo
  split <;> rfl

/-- **A queue in balance.** What comes in, with what waits, leaves or waits after an event. -/
theorem waiting_react (tidy : subscriber.Tidy) :
    subscriber.gains capacity event + subscriber.queue.length =
      subscriber.loses event + waiting (subscriber.react capacity event) := by
  cases event with
  | subscribe => rfl
  | publish payload =>
      rw [Subscriber.react, waiting_offer tidy]
      exact (Nat.zero_add _).symm
  | receive id =>
      simp only [Subscriber.react, gains, loses, Nat.zero_add]
      by_cases own : subscriber.id = id
      · by_cases held : subscriber.listening = true
        · rw [if_pos own, if_pos ⟨own, held⟩]
          have rest : subscriber.queue.tail.length = subscriber.queue.length - 1 :=
            List.length_tail
          simp only [waiting, Option.elim_some, rest]
          omega
        · rw [if_pos own, if_neg fun both => held both.2]
          have nothing := tidy (Bool.eq_false_iff.mpr held)
          simp only [waiting, Option.elim_some, nothing, List.length_nil, Nat.zero_min]
      · rw [if_neg own, if_neg fun both => own both.1, Nat.zero_add]
        rfl
  | receiveAll id =>
      simp only [Subscriber.react, gains, loses, Nat.zero_add]
      by_cases own : subscriber.id = id
      · by_cases held : subscriber.listening = true
        · rw [if_pos own, if_pos ⟨own, held⟩]
          rfl
        · rw [if_pos own, if_neg fun both => held both.2]
          have nothing := tidy (Bool.eq_false_iff.mpr held)
          simp only [waiting, Option.elim_some, nothing, List.length_nil]
      · rw [if_neg own, if_neg fun both => own both.1, Nat.zero_add]
        rfl
  | unsubscribe id =>
      simp only [Subscriber.react, gains, loses, Nat.zero_add]
      split
      · exact (waiting_deregister tidy).symm
      · rfl
  | letGo id =>
      simp only [Subscriber.react, gains, loses, Nat.zero_add]
      split
      · rw [waiting_letGo, Nat.add_zero]
      · exact (Nat.zero_add _).symm
  | closeAll =>
      rw [Subscriber.react, waiting_deregister tidy]
      rfl

end Subscriber

namespace Hub

variable {hub : Hub} {id : Nat} {event : HubEvent} {subscriber : Subscriber}

/-- The number of payloads that wait in queues. -/
def queued (hub : Hub) : Nat := (hub.subscribers.map fun subscriber => subscriber.queue.length).sum

/-- The number of queues that a payload is reported to be delivered to. -/
def delivered (hub : Hub) : HubEvent → Nat
  | .publish payload => (hub.publish payload).1.delivered
  | _ => 0

/-- The number of full queues that are reported to have lost a payload. -/
def lost (hub : Hub) : HubEvent → Nat
  | .publish payload => (hub.publish payload).1.dropped
  | _ => 0

/-- The number of payloads received. -/
def taken (hub : Hub) : HubEvent → Nat
  | .receive id => (hub.receive id).1.payload?.toList.length
  | .receiveAll id => (hub.receiveAll id).1.length
  | _ => 0

/-- The number of payloads in a queue that its viewer lets go of. -/
def discarded (hub : Hub) : HubEvent → Nat
  | .letGo id => Subscriber.waiting (hub.listener? id)
  | _ => 0

def Tidy (hub : Hub) : Prop := ∀ subscriber ∈ hub.subscribers, subscriber.Tidy

theorem Tidy.step (tidy : hub.Tidy) (sound : hub.Sound) (event : HubEvent) :
    (hub.step event).Tidy := by
  intro subscriber member
  rw [subscribers_step sound, List.mem_append, List.mem_filterMap] at member
  rcases member with ⟨before, present, reacts⟩ | new
  · exact (tidy before present).react reacts
  · cases event with
    | subscribe =>
        cases List.mem_singleton.mp new
        exact fun _ => rfl
    | _ => cases new

theorem sum_map_filterMap (change : Subscriber → Option Subscriber)
    (subscribers : List Subscriber) :
    ((subscribers.filterMap change).map fun subscriber => subscriber.queue.length).sum =
      (subscribers.map fun subscriber => Subscriber.waiting (change subscriber)).sum := by
  induction subscribers with
  | nil => rfl
  | cons subscriber rest ih =>
      cases left : change subscriber with
      | none =>
          rw [List.filterMap_cons_none left, List.map_cons, List.sum_cons, left, ih]
          exact (Nat.zero_add _).symm
      | some changed =>
          rw [List.filterMap_cons_some left, List.map_cons, List.sum_cons, List.map_cons,
            List.sum_cons, left, ih]
          rfl

theorem queued_step (sound : hub.Sound) (event : HubEvent) :
    (hub.step event).queued = (hub.subscribers.map fun subscriber =>
      Subscriber.waiting (subscriber.react hub.capacity event)).sum := by
  rw [queued, subscribers_step sound, List.map_append, List.sum_append, sum_map_filterMap]
  cases event <;> rfl

theorem sum_gains (hub : Hub) (event : HubEvent) :
    (hub.subscribers.map (Subscriber.gains hub.capacity event)).sum = hub.delivered event := by
  cases event with
  | publish payload =>
      change _ = hub.subscribers.countP (Subscriber.accepts hub.capacity)
      induction hub.subscribers with
      | nil => rfl
      | cons subscriber rest ih =>
          rw [List.map_cons, List.sum_cons, List.countP_cons, ih, Nat.add_comm]
          rfl
  | _ => exact List.sum_map_zero

/-- A figure of the viewer with an id. -/
theorem sum_own (sound : hub.Sound) (id : Nat) (figure : Subscriber → Nat) :
    (hub.subscribers.map fun subscriber => if subscriber.id = id then figure subscriber else 0).sum =
      (hub.find? id).elim 0 figure := by
  have increasing := sound.increasing
  unfold find?
  generalize hub.subscribers = subscribers at increasing ⊢
  induction subscribers with
  | nil => rfl
  | cons first rest ih =>
      obtain ⟨less, increasing⟩ := List.pairwise_cons.mp increasing
      rw [List.map_cons, List.sum_cons]
      by_cases own : first.id = id
      · rw [if_pos own, List.find?_cons_of_pos (by simpa using own), Option.elim_some]
        refine Nat.add_eq_left.mpr (List.sum_eq_zero fun part member => ?_)
        obtain ⟨other, present, rfl⟩ := List.mem_map.mp member
        exact if_neg fun same => Nat.ne_of_lt (less other present) (own.trans same.symm)
      · rw [if_neg own, List.find?_cons_of_neg (by simpa using own), Nat.zero_add]
        exact ih increasing

/-- Only a viewer that has its queue has something in it. -/
theorem elim_find? (tidy : hub.Tidy) (id : Nat) (figure : List String → Nat)
    (nothing : figure [] = 0) :
    (hub.find? id).elim 0 (fun subscriber => figure subscriber.queue) =
      (hub.listener? id).elim 0 fun subscriber => figure subscriber.queue := by
  cases found : hub.find? id with
  | none => rw [listener?, found, Option.filter_none]
  | some subscriber =>
      rw [listener?_of_find? found]
      by_cases held : subscriber.listening = true
      · rw [if_pos held]
      · have empty := tidy _ (mem_of_find? found) (Bool.eq_false_iff.mpr held)
        rw [if_neg held, Option.elim_some, Option.elim_none, empty, nothing]

theorem taken_receive (hub : Hub) (id : Nat) :
    hub.taken (.receive id) =
      (hub.listener? id).elim 0 fun subscriber => min subscriber.queue.length 1 := by
  rw [taken, receive]
  cases hub.listener? id with
  | none => rfl
  | some subscriber =>
      cases waiting : subscriber.queue with
      | nil =>
          simp only [waiting, Option.elim_some]
          cases subscriber.registered <;> rfl
      | cons payload rest =>
          simp only [waiting, Option.elim_some, List.length_cons]
          exact (Nat.min_eq_right (Nat.succ_pos _)).symm

theorem taken_receiveAll (hub : Hub) (id : Nat) :
    hub.taken (.receiveAll id) = Subscriber.waiting (hub.listener? id) := by
  rw [taken, receiveAll]
  cases hub.listener? id <;> rfl

theorem sum_loses (sound : hub.Sound) (tidy : hub.Tidy) (event : HubEvent) :
    (hub.subscribers.map (Subscriber.loses event)).sum =
      hub.taken event + hub.discarded event := by
  cases event with
  | receive id =>
      rw [taken_receive]
      exact (sum_own sound id _).trans (elim_find? tidy id (min ·.length 1) rfl)
  | receiveAll id =>
      rw [taken_receiveAll]
      exact (sum_own sound id _).trans (elim_find? tidy id List.length rfl)
  | letGo id =>
      refine Eq.trans ?_ (Nat.zero_add _).symm
      exact (sum_own sound id _).trans (elim_find? tidy id List.length rfl)
  | _ => exact List.sum_map_zero

/-- **Payloads in balance.** What is delivered, with what waited before, is received, is discarded, or
waits after an event. -/
theorem delivered_step (sound : hub.Sound) (tidy : hub.Tidy) (event : HubEvent) :
    hub.delivered event + hub.queued =
      hub.taken event + hub.discarded event + (hub.step event).queued := by
  rw [queued_step sound, ← sum_gains, ← sum_loses sound tidy, queued, ← List.sum_map_add,
    ← List.sum_map_add]
  congr 1
  exact List.map_congr_left fun subscriber member => Subscriber.waiting_react (tidy _ member)

/-- **Payloads in balance, along a run.** -/
theorem delivered_run (sound : hub.Sound) (tidy : hub.Tidy) (events : List HubEvent) :
    (hub.along delivered events).sum + hub.queued =
      (hub.along taken events).sum + (hub.along discarded events).sum + (hub.run events).queued := by
  induction events generalizing hub with
  | nil => rfl
  | cons event rest ih =>
      have now := delivered_step sound tidy event
      have later := ih (sound.step event) (tidy.step sound event)
      rw [show hub.run (event :: rest) = (hub.step event).run rest from rfl]
      simp only [along, List.sum_cons]
      omega

theorem dropped_step (hub : Hub) (event : HubEvent) :
    (hub.step event).dropped = hub.dropped + hub.lost event := by
  cases event with
  | receive id =>
      rw [step, receive_eq]
      rfl
  | receiveAll id =>
      rw [step, receiveAll_eq]
      rfl
  | unsubscribe id =>
      rw [step, unsubscribe_eq]
      rfl
  | _ => rfl

/-- The hub counts the losses. -/
theorem dropped_run (hub : Hub) (events : List HubEvent) :
    (hub.run events).dropped = hub.dropped + (hub.along lost events).sum := by
  induction events generalizing hub with
  | nil => rfl
  | cons event rest ih =>
      refine (ih (hub.step event)).trans ?_
      rw [dropped_step, along, List.sum_cons, Nat.add_assoc]

theorem countP_registry (sound : hub.Sound) :
    (hub.registry.countP fun id => (hub.listener? id).isSome) =
      hub.subscribers.countP Subscriber.isReachable := by
  rw [registry, List.countP_filterMap]
  refine List.countP_congr fun subscriber member => ?_
  rw [Subscriber.entry?, Subscriber.isReachable]
  cases subscriber.registered with
  | false => exact Iff.rfl
  | true =>
      have reader := listener?_of_find? (find?_of_mem sound member)
      simp [reader]

/-- A payload is delivered or lost for each registered viewer that has its queue. -/
theorem delivered_add_dropped (sound : hub.Sound) (payload : String) :
    (hub.publish payload).1.delivered + (hub.publish payload).1.dropped =
      hub.registry.countP fun id => (hub.listener? id).isSome := by
  have split := List.countP_eq_countP_filter_add hub.subscribers Subscriber.isReachable
    fun subscriber => decide (subscriber.queue.length < hub.capacity)
  rw [List.countP_filter, List.countP_filter] at split
  rw [countP_registry sound, split]
  rfl

end Hub

end LiveChat.Delivery
