import LiveChat.Proofs.Delivery.Reaction
import Mathlib.Data.List.Nodup

/-!
# Who is in the registry

Along a run of the hub every viewer gets an id of its own (`Hub.idsIn_increasing`). The ids given away
are those in the registry and those reported as removed, each once (`Hub.registry_run`). What has to
happen to a viewer for it to be removed is said by `Departs` (`Hub.mem_registry_run_iff`).
-/

namespace LiveChat.Delivery

/-- The viewer with an id is removed in the course of events: it is taken out, all are, or it lets go
of its queue and a payload finds that out. -/
def Departs (id : Nat) (events : List HubEvent) : Prop :=
  .unsubscribe id ∈ events ∨ .closeAll ∈ events ∨
    ∃ payload, [.letGo id, .publish payload].Sublist events

/-- A viewer that let go of its queue is removed by whatever may remove it next. -/
theorem departs_letGo {id : Nat} {rest : List HubEvent} :
    Departs id (.letGo id :: rest) ↔
      .unsubscribe id ∈ rest ∨ .closeAll ∈ rest ∨ ∃ payload, .publish payload ∈ rest := by
  simp [Departs, List.cons_sublist_cons, List.singleton_sublist]

theorem departs_cons {id : Nat} {event : HubEvent} {rest : List HubEvent}
    (stays : event ≠ .unsubscribe id) (goesOn : event ≠ .closeAll) (kept : event ≠ .letGo id) :
    Departs id (event :: rest) ↔ Departs id rest := by
  have later (payload : String) : [.letGo id, .publish payload].Sublist (event :: rest) ↔
      [.letGo id, .publish payload].Sublist rest := by
    simp [List.sublist_cons_iff, kept.symm]
  simp [Departs, later, stays.symm, goesOn.symm]

namespace Subscriber

variable {subscriber : Subscriber}

/-- The id under which a viewer is in the registry. -/
def entry? (subscriber : Subscriber) : Option Nat :=
  if subscriber.registered then some subscriber.id else none

theorem entry?_eq_some {id : Nat} :
    subscriber.entry? = some id ↔ subscriber.registered = true ∧ subscriber.id = id := by
  unfold entry?
  rw [Option.ite_none_right_eq_some, Option.some.injEq]

theorem filter_entry? (stays : Nat → Bool) (subscriber : Subscriber) :
    subscriber.entry?.filter stays = if stays subscriber.id then subscriber.entry? else none := by
  unfold entry?
  split
  next => rfl
  next => exact (ite_self _).symm

/-- An event leaves the viewer in the registry, if it was there. -/
def stays (event : HubEvent) (subscriber : Subscriber) : Bool :=
  match event with
  | .unsubscribe id => subscriber.id != id
  | .closeAll => false
  | .publish _ => subscriber.listening
  | _ => true

theorem entry?_offer (capacity : Nat) (payload : String) (subscriber : Subscriber) :
    (subscriber.offer capacity payload).bind entry? =
      if subscriber.listening then subscriber.entry? else none := by
  unfold offer accepts isReachable entry?
  rcases subscriber with ⟨id, registered, listening, queue⟩
  cases registered <;> cases listening <;> simp
  split <;> rfl

theorem entry?_deregister (subscriber : Subscriber) :
    subscriber.deregister.bind entry? = none := by
  unfold deregister
  split <;> rfl

theorem entry?_letGo (subscriber : Subscriber) :
    subscriber.letGo.bind entry? = subscriber.entry? := by
  unfold letGo entry?
  split
  next registered => exact if_pos registered
  next => rfl

theorem entry?_react (capacity : Nat) (event : HubEvent) (subscriber : Subscriber) :
    (subscriber.react capacity event).bind entry? =
      if subscriber.stays event then subscriber.entry? else none := by
  cases event with
  | subscribe => rfl
  | publish payload => exact subscriber.entry?_offer capacity payload
  | receive id | receiveAll id =>
      rw [react]
      split <;> rfl
  | unsubscribe id =>
      rw [react, stays]
      by_cases own : subscriber.id = id
      · by_cases registered : subscriber.registered = true
        · rw [if_pos ⟨own, registered⟩, entry?_deregister, own, bne_self_eq_false]
          rfl
        · rw [if_neg fun both => registered both.2, entry?, if_neg registered, ite_self,
            Option.bind_some, entry?, if_neg registered]
      · rw [if_neg fun both => own both.1, bne_iff_ne.mpr own]
        rfl
  | letGo id =>
      rw [react]
      split
      · exact subscriber.entry?_letGo
      · rfl
  | closeAll => exact subscriber.entry?_deregister

theorem exists_offer (held : subscriber.listening = true) (capacity : Nat) (payload : String) :
    ∃ changed, subscriber.offer capacity payload = some changed ∧ changed.listening = true := by
  unfold offer
  split
  · exact ⟨_, rfl, held⟩
  · rw [held, Bool.not_true, Bool.and_false, if_neg Bool.false_ne_true]
    exact ⟨subscriber, rfl, held⟩

/-- A viewer that stays in the registry keeps its queue unless it lets go of it itself. -/
theorem exists_react_of_stays {event : HubEvent} (capacity : Nat)
    (registered : subscriber.registered = true) (stays : subscriber.stays event = true) :
    ∃ changed, subscriber.react capacity event = some changed ∧
      (changed.listening = true ↔ subscriber.listening = true ∧ event ≠ .letGo subscriber.id) := by
  cases event with
  | subscribe => exact ⟨subscriber, rfl, by simp⟩
  | publish payload =>
      have held : subscriber.listening = true := stays
      obtain ⟨changed, offered, heard⟩ := exists_offer held capacity payload
      exact ⟨changed, offered, by simp [held, heard]⟩
  | receive id | receiveAll id =>
      rw [react]
      split
      all_goals exact ⟨_, rfl, by simp⟩
  | unsubscribe id =>
      have other : subscriber.id ≠ id := bne_iff_ne.mp stays
      exact ⟨subscriber, if_neg fun both => other both.1, by simp⟩
  | letGo id =>
      by_cases own : subscriber.id = id
      · exact ⟨_, (if_pos own).trans (if_pos registered), by simp [own]⟩
      · exact ⟨subscriber, if_neg own, by simp [Ne.symm own]⟩
  | closeAll => cases stays

end Subscriber

namespace Hub

variable {hub : Hub} {id : Nat} {event : HubEvent} {subscriber : Subscriber}

/-- The ids of the viewers to whom payloads are offered. -/
def registry (hub : Hub) : List Nat := hub.subscribers.filterMap Subscriber.entry?

/-- What a figure is at each event of a run. -/
def along {α : Type} (figure : Hub → HubEvent → α) : Hub → List HubEvent → List α
  | _, [] => []
  | hub, event :: rest => figure hub event :: (hub.step event).along figure rest

/-- The ids that an event gives away. -/
def given (hub : Hub) : HubEvent → List Nat
  | .subscribe => [hub.subscribe.1]
  | _ => []

/-- The ids that an event reports as removed: one that was taken out, all of them, or those whose
queues are found to be gone. -/
def removed (hub : Hub) : HubEvent → List Nat
  | .unsubscribe id => if (hub.unsubscribe id).1 then [id] else []
  | .closeAll => hub.registry
  | .publish _ => hub.registry.filter fun id => (hub.listener? id).isNone
  | _ => []

def idsIn (hub : Hub) (events : List HubEvent) : List Nat := (hub.along given events).flatten

def removedIn (hub : Hub) (events : List HubEvent) : List Nat := (hub.along removed events).flatten

/-- An event leaves the viewer with an id in the registry, if it was there. -/
def keeps (hub : Hub) : HubEvent → Nat → Bool
  | .unsubscribe other, id => id != other
  | .closeAll, _ => false
  | .publish _, id => (hub.listener? id).isSome
  | _, _ => true

theorem length_registry (hub : Hub) : hub.registry.length = hub.registeredCount := by
  rw [registry, List.length_filterMap_eq_countP, registeredCount]
  congr 1
  funext subscriber
  unfold Subscriber.entry?
  cases subscriber.registered <;> rfl

theorem mem_registry_iff (sound : hub.Sound) :
    id ∈ hub.registry ↔ ∃ subscriber, hub.find? id = some subscriber ∧
      subscriber.registered = true := by
  rw [registry, List.mem_filterMap]
  constructor
  · rintro ⟨subscriber, member, entered⟩
    obtain ⟨registered, rfl⟩ := Subscriber.entry?_eq_some.mp entered
    exact ⟨subscriber, find?_of_mem sound member, registered⟩
  · rintro ⟨subscriber, found, registered⟩
    obtain rfl := id_of_find? found
    exact ⟨subscriber, mem_of_find? found, Subscriber.entry?_eq_some.mpr ⟨registered, rfl⟩⟩

theorem lt_nextId_of_mem_registry (sound : hub.Sound) (member : id ∈ hub.registry) :
    id < hub.nextId := by
  obtain ⟨subscriber, found, -⟩ := (mem_registry_iff sound).mp member
  have below := sound.below subscriber (mem_of_find? found)
  rwa [id_of_find? found] at below

theorem registry_nodup (sound : hub.Sound) : hub.registry.Nodup := by
  rw [List.Nodup, registry, List.pairwise_filterMap]
  refine sound.increasing.imp ?_
  intro earlier later less first left second right
  obtain ⟨-, rfl⟩ := Subscriber.entry?_eq_some.mp left
  obtain ⟨-, rfl⟩ := Subscriber.entry?_eq_some.mp right
  exact Nat.ne_of_lt less

/-- A viewer is reported as taken out just if it was in the registry. -/
theorem unsubscribe_fst (sound : hub.Sound) : (hub.unsubscribe id).1 = true ↔ id ∈ hub.registry := by
  rw [mem_registry_iff sound, unsubscribe]
  cases found : hub.find? id with
  | none => simp
  | some subscriber => cases registered : subscriber.registered <;> simp [registered]

theorem keeps_of_mem (sound : hub.Sound) (event : HubEvent)
    (member : subscriber ∈ hub.subscribers) :
    hub.keeps event subscriber.id = subscriber.stays event := by
  cases event with
  | publish payload =>
      rw [keeps, listener?_of_find? (find?_of_mem sound member), Subscriber.stays]
      cases subscriber.listening <;> rfl
  | _ => rfl

/-- **The registry after an event.** Who stays is told by the event, and a new viewer comes last. -/
theorem registry_step (sound : hub.Sound) (event : HubEvent) :
    (hub.step event).registry = hub.registry.filter (hub.keeps event) ++ hub.given event := by
  rw [registry, subscribers_step sound, List.filterMap_append, List.filterMap_filterMap, registry,
    List.filter_filterMap]
  congr 1
  · refine List.filterMap_congr fun subscriber member => ?_
    rw [Subscriber.entry?_react, Subscriber.filter_entry?, keeps_of_mem sound event member]
  · cases event <;> rfl

theorem removed_eq (sound : hub.Sound) (event : HubEvent) :
    hub.removed event = hub.registry.filter fun id => !hub.keeps event id := by
  cases event with
  | unsubscribe id =>
      have once : (hub.registry.filter fun other => !(other != id)) =
          List.replicate (hub.registry.count id) id := by
        simp only [bne, Bool.not_not]
        exact List.filter_beq id
      rw [removed, show hub.keeps (.unsubscribe id) = (· != id) from rfl, once]
      by_cases member : id ∈ hub.registry
      · rw [if_pos ((unsubscribe_fst sound).mpr member),
          List.count_eq_one_of_mem (registry_nodup sound) member]
        rfl
      · rw [if_neg (mt (unsubscribe_fst sound).mp member), List.count_eq_zero_of_not_mem member]
        rfl
  | closeAll => exact (List.filter_true _).symm
  | publish payload =>
      refine List.filter_congr fun id _ => ?_
      exact Option.not_isSome _ |>.symm
  | _ => exact (List.filter_false _).symm

/-- Ids given away stand in the registry until they are reported as removed. -/
theorem registry_balance (sound : hub.Sound) (event : HubEvent) :
    ((hub.step event).registry ++ hub.removed event).Perm (hub.registry ++ hub.given event) := by
  rw [registry_step sound, removed_eq sound, List.append_assoc]
  refine (List.perm_append_comm.append_left _).trans ?_
  rw [← List.append_assoc]
  exact (List.filter_append_perm _ _).append_right _

/-- **Every id is accounted for.** The ids in the registry and those given away in a run are those in
the registry after it and those reported as removed. -/
theorem registry_run (sound : hub.Sound) (events : List HubEvent) :
    ((hub.run events).registry ++ hub.removedIn events).Perm
      (hub.registry ++ hub.idsIn events) := by
  induction events generalizing hub with
  | nil => exact .refl _
  | cons event rest ih =>
      have later := ih (sound.step event)
      have now := registry_balance sound event
      rw [List.perm_iff_count] at later now ⊢
      intro id
      have later := later id
      have now := now id
      change List.count id (((hub.step event).run rest).registry ++
        (hub.removed event ++ (hub.step event).removedIn rest)) =
          List.count id (hub.registry ++ (hub.given event ++ (hub.step event).idsIn rest))
      simp only [List.count_append] at later now ⊢
      omega

theorem nextId_step (hub : Hub) (event : HubEvent) :
    (hub.step event).nextId = hub.nextId + (hub.given event).length := by
  cases event with
  | receive id =>
      rw [step, receive_eq]
      rfl
  | receiveAll id =>
      rw [step, receiveAll_eq]
      rfl
  | unsubscribe id =>
      rw [step, unsubscribe_eq]
      rfl
  | _ => rfl

theorem nextId_le_run (hub : Hub) (events : List HubEvent) :
    hub.nextId ≤ (hub.run events).nextId := by
  induction events generalizing hub with
  | nil => exact Nat.le_refl _
  | cons event rest ih =>
      refine Nat.le_trans ?_ (ih (hub.step event))
      rw [nextId_step]
      exact Nat.le_add_right _ _

theorem mem_given : id ∈ hub.given event ↔ event = .subscribe ∧ id = hub.nextId := by
  cases event <;> simp [given, subscribe]

theorem nextId_le_of_mem_idsIn {events : List HubEvent} (member : id ∈ hub.idsIn events) :
    hub.nextId ≤ id := by
  induction events generalizing hub with
  | nil => cases member
  | cons event rest ih =>
      rcases List.mem_append.mp member with now | later
      · exact Nat.le_of_eq (mem_given.mp now).2.symm
      · have below := ih later
        rw [nextId_step] at below
        exact Nat.le_trans (Nat.le_add_right _ _) below

/-- Each id is greater than those given away before. -/
theorem idsIn_increasing (hub : Hub) (events : List HubEvent) :
    (hub.idsIn events).Pairwise (· < ·) := by
  induction events generalizing hub with
  | nil => exact .nil
  | cons event rest ih =>
      refine List.pairwise_append.mpr ⟨?_, ih _, ?_⟩
      · cases event with
        | subscribe => exact List.pairwise_singleton _ _
        | _ => exact .nil
      · intro earlier now later after
        obtain ⟨rfl, rfl⟩ := mem_given.mp now
        exact nextId_le_of_mem_idsIn after

theorem mem_registry_step (sound : hub.Sound) :
    id ∈ (hub.step event).registry ↔
      (id ∈ hub.registry ∧ hub.keeps event id = true) ∨ id ∈ hub.given event := by
  rw [registry_step sound, List.mem_append, List.mem_filter]

/-- A registered viewer that stays can receive after an event if it could before and did not let go
of its queue by it. -/
theorem listener?_step (sound : hub.Sound) (member : id ∈ hub.registry)
    (stays : hub.keeps event id = true) :
    ((hub.step event).listener? id).isSome = true ↔
      (hub.listener? id).isSome = true ∧ event ≠ .letGo id := by
  obtain ⟨subscriber, found, registered⟩ := (mem_registry_iff sound).mp member
  obtain rfl := id_of_find? found
  rw [keeps_of_mem sound event (mem_of_find? found)] at stays
  obtain ⟨changed, reacts, heard⟩ :=
    Subscriber.exists_react_of_stays hub.capacity registered stays
  rw [listener?_of_find? ((find?_step sound event found).trans reacts), listener?_of_find? found,
    Option.isSome_ite, Option.isSome_ite]
  exact heard

/-- An id that is out of the registry does not come back. -/
theorem not_mem_registry_run (sound : hub.Sound) (used : id < hub.nextId)
    (gone : id ∉ hub.registry) (events : List HubEvent) : id ∉ (hub.run events).registry := by
  induction events generalizing hub with
  | nil => exact gone
  | cons event rest ih =>
      refine ih (sound.step event) ?_ ?_
      · rw [nextId_step]
        exact Nat.lt_add_right _ used
      · rw [mem_registry_step sound]
        rintro (⟨member, -⟩ | new)
        · exact gone member
        · exact Nat.ne_of_lt used (mem_given.mp new).2

/-- What takes a registered viewer out of the registry. -/
theorem keeps_eq_false : ¬ hub.keeps event id = true ↔
    event = .unsubscribe id ∨ event = .closeAll ∨
      (∃ payload, event = .publish payload) ∧ ¬ (hub.listener? id).isSome = true := by
  cases event with
  | publish payload => simp [keeps]
  | unsubscribe other =>
      rw [keeps, bne_iff_ne, ne_eq, not_not, HubEvent.unsubscribe.injEq, eq_comm]
      simp
  | closeAll => simp [keeps]
  | _ => simp [keeps]

/-- What was taken out of the registry stays out. -/
theorem not_mem_registry_of_not_keeps (sound : hub.Sound) (member : id ∈ hub.registry)
    (out : ¬ hub.keeps event id = true) (rest : List HubEvent) :
    id ∉ ((hub.step event).run rest).registry := by
  have used := lt_nextId_of_mem_registry sound member
  refine not_mem_registry_run (sound.step event) ?_ ?_ rest
  · rw [nextId_step]
    exact Nat.lt_add_right _ used
  · rw [mem_registry_step sound]
    rintro (⟨-, stays⟩ | new)
    · exact out stays
    · exact Nat.ne_of_lt used (mem_given.mp new).2

/-- A registered viewer that let go of its queue is removed by the next event that may remove it. -/
theorem mem_registry_run_of_mute (sound : hub.Sound) (member : id ∈ hub.registry)
    (mute : ¬ (hub.listener? id).isSome = true) (events : List HubEvent) :
    id ∈ (hub.run events).registry ↔
      ¬ (.unsubscribe id ∈ events ∨ .closeAll ∈ events ∨ ∃ payload, .publish payload ∈ events) := by
  induction events generalizing hub with
  | nil => simpa [run] using member
  | cons event rest ih =>
      change id ∈ ((hub.step event).run rest).registry ↔ _
      by_cases stays : hub.keeps event id = true
      · have next := ih (sound.step event) ((mem_registry_step sound).mpr (.inl ⟨member, stays⟩))
          fun heard => mute ((listener?_step sound member stays).mp heard).1
        have calm := mt keeps_eq_false.mpr (not_not_intro stays)
        rw [next]
        simp only [List.mem_cons]
        grind
      · refine iff_of_false (not_mem_registry_of_not_keeps sound member stays rest) ?_
        rw [not_not]
        rcases keeps_eq_false.mp stays with rfl | rfl | ⟨⟨payload, rfl⟩, -⟩
        · exact .inl List.mem_cons_self
        · exact .inr (.inl List.mem_cons_self)
        · exact .inr (.inr ⟨payload, List.mem_cons_self⟩)

/-- A registered viewer that has its queue stays in the registry unless it departs. -/
theorem mem_registry_run (sound : hub.Sound) (member : id ∈ hub.registry)
    (held : (hub.listener? id).isSome = true) (events : List HubEvent) :
    id ∈ (hub.run events).registry ↔ ¬ Departs id events := by
  induction events generalizing hub with
  | nil => simpa [run, Departs] using member
  | cons event rest ih =>
      change id ∈ ((hub.step event).run rest).registry ↔ _
      by_cases stays : hub.keeps event id = true
      · have stayed := (mem_registry_step sound).mpr (.inl ⟨member, stays⟩)
        have heard := listener?_step sound member stays
        by_cases left : event = .letGo id
        · have mute := mem_registry_run_of_mute (sound.step event) stayed
            (fun still => (heard.mp still).2 left) rest
          rw [mute, left, departs_letGo]
        · have calm := mt keeps_eq_false.mpr (not_not_intro stays)
          rw [not_or, not_or] at calm
          rw [ih (sound.step event) stayed (heard.mpr ⟨held, left⟩),
            departs_cons calm.1 calm.2.1 left]
      · refine iff_of_false (not_mem_registry_of_not_keeps sound member stays rest) ?_
        rw [not_not]
        rcases keeps_eq_false.mp stays with rfl | rfl | ⟨-, mute⟩
        · exact .inl List.mem_cons_self
        · exact .inr (.inl List.mem_cons_self)
        · exact absurd held mute

/-- **Who is in the registry.** Just the viewers that came and did not depart since. -/
theorem mem_registry_run_iff (sound : hub.Sound) (absent : id ∉ hub.registry)
    (events : List HubEvent) :
    id ∈ (hub.run events).registry ↔
      ∃ before after, events = before ++ .subscribe :: after ∧
        (hub.run before).subscribe.1 = id ∧ ¬ Departs id after := by
  induction events generalizing hub with
  | nil =>
      refine iff_of_false absent ?_
      rintro ⟨before, after, split, -⟩
      exact List.append_ne_nil_of_right_ne_nil before (List.cons_ne_nil _ after) split.symm
  | cons event rest ih =>
      change id ∈ ((hub.step event).run rest).registry ↔ _
      by_cases new : id ∈ hub.given event
      · have member := (mem_registry_step sound).mpr (.inr new)
        obtain ⟨rfl, rfl⟩ := mem_given.mp new
        have held : ((hub.step .subscribe).listener? hub.nextId).isSome = true := by
          have reader := listener?_of_find? (find?_subscribe sound)
          exact congrArg Option.isSome reader
        rw [mem_registry_run (sound.step _) member held rest]
        constructor
        · exact fun stays => ⟨[], rest, rfl, rfl, stays⟩
        · rintro ⟨before, after, split, name, stays⟩
          cases before with
          | nil =>
              cases split
              exact stays
          | cons first before =>
              -- The ids of later viewers are greater.
              cases split
              have below := nextId_le_run (hub.step .subscribe) before
              rw [show ((hub.step .subscribe).run before).nextId = hub.nextId from name] at below
              exact absurd below (Nat.not_succ_le_self _)
      · have out : id ∉ (hub.step event).registry := by
          rw [mem_registry_step sound]
          rintro (⟨member, -⟩ | given)
          · exact absent member
          · exact new given
        rw [ih (sound.step event) out]
        constructor
        · rintro ⟨before, after, rfl, name, stays⟩
          exact ⟨event :: before, after, rfl, name, stays⟩
        · rintro ⟨before, after, split, name, stays⟩
          cases before with
          | nil =>
              cases split
              exact absurd (mem_given.mpr ⟨rfl, name.symm⟩) new
          | cons first before =>
              cases split
              exact ⟨before, after, rfl, name, stays⟩

end Hub

end LiveChat.Delivery
