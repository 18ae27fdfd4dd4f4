import LiveChat.Proofs.Delivery.HubRun
import Mathlib.Data.List.Basic

/-!
# What an event means to one viewer

What becomes of a viewer, and what it finds in its queue, depends on the event and on this viewer
alone (`Hub.find?_step`, `Hub.receipts_eq`). Nobody else's queue, and nobody else's leaving, has a part
in it. A viewer that keeps its queue loses nothing from it and gets nothing twice
(`Subscriber.balance`).
-/

namespace LiveChat.Delivery

def Received.payload? : Received → Option String
  | .payload text => some text
  | _ => none

theorem filterMap_payload? (payloads : List String) :
    (payloads.map Received.payload).filterMap Received.payload? = payloads := by
  rw [List.filterMap_map]
  exact List.filterMap_some (l := payloads)

namespace Subscriber

/-- What an event makes of a viewer. -/
def react (capacity : Nat) (event : HubEvent) (subscriber : Subscriber) : Option Subscriber :=
  match event with
  | .subscribe => some subscriber
  | .publish payload => subscriber.offer capacity payload
  | .receive id =>
      if subscriber.id = id ∧ subscriber.listening then
        some { subscriber with queue := subscriber.queue.tail }
      else some subscriber
  | .receiveAll id =>
      if subscriber.id = id ∧ subscriber.listening then some { subscriber with queue := [] }
      else some subscriber
  | .unsubscribe id =>
      if subscriber.id = id ∧ subscriber.registered then subscriber.deregister else some subscriber
  | .letGo id => if subscriber.id = id then subscriber.letGo else some subscriber
  | .closeAll => subscriber.deregister

/-- What a viewer that keeps its queue finds there by an event. -/
def finds (event : HubEvent) (subscriber : Subscriber) : List Received :=
  match event with
  | .receive id =>
      if subscriber.id = id then
        match subscriber.queue with
        | payload :: _ => [.payload payload]
        | [] => [if subscriber.registered then .pending else .closed]
      else []
  | .receiveAll id => if subscriber.id = id then subscriber.queue.map .payload else []
  | _ => []

/-- The viewer is registered, and its queue is shorter than the bound. -/
def hasRoom (bound : Nat) (subscriber : Subscriber) : Bool :=
  subscriber.registered && subscriber.queue.length < bound

/-- The payload that an event puts into the queue of a viewer. -/
def admits (bound : Nat) (event : HubEvent) (subscriber : Subscriber) : List String :=
  match event with
  | .publish payload => if subscriber.hasRoom bound then [payload] else []
  | _ => []

variable {capacity : Nat} {event : HubEvent} {subscriber changed : Subscriber}

theorem id_of_react (reacts : subscriber.react capacity event = some changed) :
    changed.id = subscriber.id := by
  cases event with
  | subscribe =>
      cases reacts
      rfl
  | publish payload => exact id_of_offer reacts
  | receive id | receiveAll id =>
      rw [react] at reacts
      split at reacts
      all_goals
        cases reacts
        rfl
  | unsubscribe id =>
      rw [react] at reacts
      split at reacts
      · exact id_of_deregister reacts
      · cases reacts
        rfl
  | letGo id =>
      rw [react] at reacts
      split at reacts
      · exact id_of_letGo reacts
      · cases reacts
        rfl
  | closeAll => exact id_of_deregister reacts

theorem accepts_eq_hasRoom (held : subscriber.listening = true) :
    subscriber.accepts capacity = subscriber.hasRoom capacity := by
  unfold accepts isReachable hasRoom
  rw [held, Bool.and_true]

/-- The viewer can receive, and its queue is within the bound. -/
structure Holds (bound : Nat) (subscriber : Subscriber) : Prop where
  listening : subscriber.listening = true
  bounded : subscriber.queue.length ≤ bound

/-- **A queue in balance.** A viewer keeps its queue unless it lets go of it itself, and then what it
finds, followed by what waits, is what waited before, followed by what came in. -/
theorem balance (holds : subscriber.Holds capacity) (kept : event ≠ .letGo subscriber.id) :
    ∃ changed, subscriber.react capacity event = some changed ∧ changed.Holds capacity ∧
      (subscriber.finds event).filterMap Received.payload? ++ changed.queue =
        subscriber.queue ++ subscriber.admits capacity event := by
  obtain ⟨held, bounded⟩ := holds
  cases event with
  | subscribe => exact ⟨subscriber, rfl, ⟨held, bounded⟩, (List.append_nil _).symm⟩
  | publish payload =>
      by_cases room : subscriber.hasRoom capacity = true
      · have accepts : subscriber.accepts capacity = true := by
          rwa [accepts_eq_hasRoom held]
        refine ⟨_, offer_of_accepts accepts, ⟨held, ?_⟩, ?_⟩
        · simp only [hasRoom, Bool.and_eq_true, decide_eq_true_eq] at room
          simp only [List.length_append, List.length_cons, List.length_nil]
          omega
        · simp only [finds, admits, room, if_true, List.filterMap_nil, List.nil_append]
      · have refuses : ¬ subscriber.accepts capacity = true := by
          rwa [accepts_eq_hasRoom held]
        refine ⟨subscriber, ?_, ⟨held, bounded⟩, ?_⟩
        · simp only [react, offer, if_neg refuses, held, Bool.not_true, Bool.and_false,
            Bool.false_eq_true, if_false]
        · simp only [finds, admits, room, if_false, List.filterMap_nil, List.nil_append,
            List.append_nil, Bool.false_eq_true]
  | receive id =>
      by_cases own : subscriber.id = id
      · refine ⟨{ subscriber with queue := subscriber.queue.tail }, if_pos ⟨own, held⟩, ⟨held, ?_⟩, ?_⟩
        · rw [List.length_tail]
          omega
        · cases waiting : subscriber.queue with
          | nil =>
              simp only [finds, admits, own, if_true, waiting, List.tail_nil, List.append_nil]
              split <;> rfl
          | cons payload rest =>
              simp only [finds, admits, own, if_true, waiting, List.tail_cons, List.append_nil,
                List.filterMap_cons, Received.payload?, List.filterMap_nil, List.singleton_append]
      · refine ⟨subscriber, if_neg fun both => own both.1, ⟨held, bounded⟩, ?_⟩
        simp only [finds, admits, own, if_false, List.filterMap_nil, List.nil_append,
          List.append_nil]
  | receiveAll id =>
      by_cases own : subscriber.id = id
      · refine ⟨{ subscriber with queue := [] }, if_pos ⟨own, held⟩, ⟨held, Nat.zero_le _⟩, ?_⟩
        simp only [finds, admits, own, if_true, filterMap_payload?]
      · refine ⟨subscriber, if_neg fun both => own both.1, ⟨held, bounded⟩, ?_⟩
        simp only [finds, admits, own, if_false, List.filterMap_nil, List.nil_append,
          List.append_nil]
  | unsubscribe id =>
      by_cases own : subscriber.id = id ∧ subscriber.registered
      · exact ⟨{ subscriber with registered := false }, (if_pos own).trans (if_pos held),
          ⟨held, bounded⟩, (List.append_nil _).symm⟩
      · exact ⟨subscriber, if_neg own, ⟨held, bounded⟩, (List.append_nil _).symm⟩
  | letGo id =>
      have other : subscriber.id ≠ id := fun same => kept (same ▸ rfl)
      exact ⟨subscriber, if_neg other, ⟨held, bounded⟩, (List.append_nil _).symm⟩
  | closeAll =>
      exact ⟨{ subscriber with registered := false }, if_pos held, ⟨held, bounded⟩,
        (List.append_nil _).symm⟩

end Subscriber

namespace Hub

variable {hub : Hub} {event : HubEvent} {subscriber : Subscriber} {viewer : Nat}

/-- What viewers do for themselves changes nothing but the viewers. -/
theorem receive_eq (hub : Hub) (id : Nat) :
    (hub.receive id).2 = { hub with subscribers := (hub.receive id).2.subscribers } := by
  unfold receive
  split
  · rfl
  · split <;> rfl

theorem receiveAll_eq (hub : Hub) (id : Nat) :
    (hub.receiveAll id).2 = { hub with subscribers := (hub.receiveAll id).2.subscribers } := by
  unfold receiveAll
  split <;> rfl

theorem unsubscribe_eq (hub : Hub) (id : Nat) :
    (hub.unsubscribe id).2 = { hub with subscribers := (hub.unsubscribe id).2.subscribers } := by
  unfold unsubscribe
  split
  · split <;> rfl
  · rfl

theorem capacity_step (hub : Hub) (event : HubEvent) : (hub.step event).capacity = hub.capacity := by
  cases event with
  | receive id => rw [step, receive_eq]
  | receiveAll id => rw [step, receiveAll_eq]
  | unsubscribe id => rw [step, unsubscribe_eq]
  | _ => rfl

theorem capacity_run (hub : Hub) (events : List HubEvent) :
    (hub.run events).capacity = hub.capacity := by
  induction events generalizing hub with
  | nil => rfl
  | cons event rest ih => exact (ih (hub.step event)).trans (hub.capacity_step event)

theorem id_of_find? (found : hub.find? viewer = some subscriber) : subscriber.id = viewer := by
  have this := List.find?_some found
  exact beq_iff_eq.mp this

theorem listener?_eq_some :
    hub.listener? viewer = some subscriber ↔
      hub.find? viewer = some subscriber ∧ subscriber.listening = true :=
  Option.filter_eq_some_iff

theorem listener?_of_find? (found : hub.find? viewer = some subscriber) :
    hub.listener? viewer = if subscriber.listening then some subscriber else none := by
  unfold listener?
  rw [found]
  rfl

/-- Ids stand for one viewer each. -/
theorem find?_of_mem (sound : hub.Sound) (member : subscriber ∈ hub.subscribers) :
    hub.find? subscriber.id = some subscriber := by
  obtain ⟨earlier, later, split⟩ := List.append_of_mem member
  have increasing := sound.increasing
  rw [split, List.pairwise_append] at increasing
  have absent : earlier.find? (fun other => other.id == subscriber.id) = none := by
    rw [List.find?_eq_none]
    intro other found same
    have less := increasing.2.2 other found subscriber List.mem_cons_self
    rw [beq_iff_eq.mp same] at less
    exact Nat.lt_irrefl _ less
  rw [find?, split, List.find?_append, absent, Option.none_or, List.find?_cons_of_pos (by simp)]

theorem mem_of_find? (found : hub.find? viewer = some subscriber) :
    subscriber ∈ hub.subscribers :=
  List.mem_of_find?_eq_some found

theorem eq_of_find? (sound : hub.Sound) (found : hub.find? viewer = some subscriber) :
    ∀ other ∈ hub.subscribers, other.id = viewer → other = subscriber := by
  rintro other member rfl
  rw [find?_of_mem sound member] at found
  exact Option.some.inj found

theorem subscribers_unchanged (unmoved : ∀ subscriber ∈ hub.subscribers,
      subscriber.react hub.capacity event = some subscriber) :
    hub.subscribers = hub.subscribers.filterMap (Subscriber.react hub.capacity event) := by
  rw [List.filterMap_congr unmoved]
  exact List.filterMap_some.symm

theorem subscribers_receive (sound : hub.Sound) (id : Nat) :
    (hub.receive id).2.subscribers =
      hub.subscribers.filterMap (Subscriber.react hub.capacity (.receive id)) := by
  unfold receive
  cases reader : hub.listener? id with
  | none =>
      refine subscribers_unchanged fun other member => if_neg ?_
      rintro ⟨rfl, held⟩
      rw [listener?_eq_some.mpr ⟨find?_of_mem sound member, held⟩] at reader
      cases reader
  | some subscriber =>
      obtain ⟨found, held⟩ := listener?_eq_some.mp reader
      have only := eq_of_find? sound found
      cases waiting : subscriber.queue with
      | nil =>
          simp only [waiting]
          refine subscribers_unchanged fun other member => ?_
          rw [Subscriber.react]
          split
          next own =>
              obtain rfl := only other member own.1
              rw [waiting, List.tail_nil, ← waiting]
          next => rfl
      | cons payload rest =>
          simp only [waiting]
          refine List.filterMap_congr fun other member => ?_
          by_cases own : other.id = id
          · obtain rfl := only other member own
            rw [if_pos own, Subscriber.react, if_pos ⟨own, held⟩, waiting, List.tail_cons]
          · rw [if_neg own, Subscriber.react, if_neg fun both => own both.1]

theorem subscribers_receiveAll (sound : hub.Sound) (id : Nat) :
    (hub.receiveAll id).2.subscribers =
      hub.subscribers.filterMap (Subscriber.react hub.capacity (.receiveAll id)) := by
  unfold receiveAll
  cases reader : hub.listener? id with
  | none =>
      refine subscribers_unchanged fun other member => if_neg ?_
      rintro ⟨rfl, held⟩
      rw [listener?_eq_some.mpr ⟨find?_of_mem sound member, held⟩] at reader
      cases reader
  | some subscriber =>
      obtain ⟨found, held⟩ := listener?_eq_some.mp reader
      refine List.filterMap_congr fun other member => ?_
      by_cases own : other.id = id
      · obtain rfl := eq_of_find? sound found other member own
        rw [if_pos own, Subscriber.react, if_pos ⟨own, held⟩]
      · rw [if_neg own, Subscriber.react, if_neg fun both => own both.1]

theorem subscribers_unsubscribe (sound : hub.Sound) (id : Nat) :
    (hub.unsubscribe id).2.subscribers =
      hub.subscribers.filterMap (Subscriber.react hub.capacity (.unsubscribe id)) := by
  unfold unsubscribe
  cases found : hub.find? id with
  | none =>
      refine subscribers_unchanged fun other member => if_neg ?_
      rintro ⟨rfl, -⟩
      rw [find?_of_mem sound member] at found
      cases found
  | some subscriber =>
      have only := eq_of_find? sound found
      by_cases registered : subscriber.registered = true
      · simp only [registered, if_true]
        refine List.filterMap_congr fun other member => ?_
        by_cases own : other.id = id
        · obtain rfl := only other member own
          rw [if_pos own, Subscriber.react, if_pos ⟨own, registered⟩]
        · rw [if_neg own, Subscriber.react, if_neg fun both => own both.1]
      · simp only [registered, Bool.false_eq_true, if_false]
        refine subscribers_unchanged fun other member => if_neg ?_
        rintro ⟨own, entered⟩
        obtain rfl := only other member own
        exact registered entered

/-- The viewers that an event brings. -/
def newcomers (hub : Hub) : HubEvent → List Subscriber
  | .subscribe => [⟨hub.nextId, true, true, []⟩]
  | _ => []

/-- **The viewers after an event.** Each of them is what the event makes of it by itself, and a new
one comes last. -/
theorem subscribers_step (sound : hub.Sound) (event : HubEvent) :
    (hub.step event).subscribers =
      hub.subscribers.filterMap (Subscriber.react hub.capacity event) ++ hub.newcomers event := by
  cases event with
  | subscribe => exact congrArg (· ++ _) List.filterMap_some.symm
  | receive id => exact (subscribers_receive sound id).trans (List.append_nil _).symm
  | receiveAll id => exact (subscribers_receiveAll sound id).trans (List.append_nil _).symm
  | unsubscribe id => exact (subscribers_unsubscribe sound id).trans (List.append_nil _).symm
  | _ => exact (List.append_nil _).symm

/-- **The viewer's part.** An event makes of a viewer what it makes of it by itself. -/
theorem find?_step (sound : hub.Sound) (event : HubEvent)
    (found : hub.find? viewer = some subscriber) :
    (hub.step event).find? viewer = subscriber.react hub.capacity event := by
  have same : (hub.subscribers.filterMap (Subscriber.react hub.capacity event)).find?
      (fun subscriber => subscriber.id == viewer) = _ :=
    find?_filterMap sound.increasing (fun _ _ => Subscriber.id_of_react) viewer
  rw [show hub.subscribers.find? _ = _ from found, Option.bind_some] at same
  rw [find?, subscribers_step sound, List.find?_append, same]
  cases event with
  | subscribe => rfl
  | _ => exact Option.or_none

/-- What the viewer with an id receives by an event. -/
def receipts (viewer : Nat) (hub : Hub) : HubEvent → List Received
  | .receive id => if id = viewer then [(hub.receive id).1] else []
  | .receiveAll id => if id = viewer then (hub.receiveAll id).1.map .payload else []
  | _ => []

theorem receipts_eq (event : HubEvent) (found : hub.find? viewer = some subscriber)
    (held : subscriber.listening = true) : hub.receipts viewer event = subscriber.finds event := by
  obtain rfl := id_of_find? found
  have reader : hub.listener? subscriber.id = some subscriber := listener?_eq_some.mpr ⟨found, held⟩
  cases event with
  | receive id =>
      by_cases own : id = subscriber.id
      · obtain rfl := own
        simp only [receipts, receive, reader, Subscriber.finds, if_true]
        cases subscriber.queue <;> rfl
      · rw [receipts, Subscriber.finds, if_neg own, if_neg (Ne.symm own)]
  | receiveAll id =>
      by_cases own : id = subscriber.id
      · obtain rfl := own
        simp only [receipts, receiveAll, reader, Subscriber.finds, if_true]
      · rw [receipts, Subscriber.finds, if_neg own, if_neg (Ne.symm own)]
  | _ => rfl

end Hub

end LiveChat.Delivery
