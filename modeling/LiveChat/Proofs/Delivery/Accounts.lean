import LiveChat.Proofs.Delivery.Balance
import LiveChat.Proofs.Delivery.PrivateQueue

/-!
# The hub's accounts

A viewer that is out of the registry gets nothing more. It still receives what was queued before, in
order, and is told the end only behind it (`Hub.exists_drained_run`). With what the registry and the
queues say about ids and payloads, these are the accounts of the hub, and they hold after every run
(`Hub.accounts_of_run`).
-/

namespace LiveChat.Delivery

namespace Subscriber

variable {subscriber middle left : Subscriber} {first second : List Received}

/-- What a viewer finds are payloads from the front of its queue, as they stand there, and behind the
last one the end, any number of times. The rest is left in the queue. -/
def Drains (subscriber : Subscriber) (found : List Received) (left : Subscriber) : Prop :=
  ∃ taken rest ends, subscriber.queue = taken ++ rest ∧ left = { subscriber with queue := rest } ∧
    found = taken.map .payload ++ List.replicate ends .closed ∧ (0 < ends → rest = [])

theorem Drains.refl (subscriber : Subscriber) : subscriber.Drains [] subscriber :=
  ⟨[], subscriber.queue, 0, rfl, rfl, rfl, fun ends => absurd ends (Nat.lt_irrefl 0)⟩

theorem Drains.trans (now : subscriber.Drains first middle) (later : middle.Drains second left) :
    subscriber.Drains (first ++ second) left := by
  obtain ⟨taken, rest, ends, queue, rfl, rfl, drained⟩ := now
  obtain ⟨more, last, endsLater, queueLater, rfl, rfl, drainedLater⟩ := later
  have cut : rest = more ++ last := queueLater
  rcases Nat.eq_zero_or_pos ends with rfl | told
  · refine ⟨taken ++ more, last, endsLater, ?_, rfl, ?_, drainedLater⟩
    · rw [queue, cut, List.append_assoc]
    · rw [List.replicate_zero, List.append_nil, List.map_append, List.append_assoc]
  · -- Where the end was told before, nothing is left to be taken.
    obtain ⟨rfl, rfl⟩ := List.append_eq_nil_iff.mp (cut.symm.trans (drained told))
    refine ⟨taken, [], ends + endsLater, ?_, rfl, ?_, fun _ => rfl⟩
    · rw [queue, cut, List.append_nil]
    · rw [List.map_nil, List.nil_append, List.append_assoc, List.replicate_append_replicate]

/-- **A viewer out of the registry.** It gets nothing, whatever happens. -/
theorem exists_drained (capacity : Nat) {event : HubEvent} (held : subscriber.listening = true)
    (out : subscriber.registered = false) (kept : event ≠ .letGo subscriber.id) :
    ∃ left, subscriber.react capacity event = some left ∧
      subscriber.Drains (subscriber.finds event) left := by
  cases event with
  | subscribe => exact ⟨subscriber, rfl, .refl _⟩
  | publish payload =>
      refine ⟨subscriber, ?_, .refl _⟩
      simp [react, offer, accepts, isReachable, out]
  | receive id =>
      by_cases own : subscriber.id = id
      · refine ⟨_, if_pos ⟨own, held⟩, ?_⟩
        rw [finds, if_pos own]
        cases waiting : subscriber.queue with
        | nil =>
            refine ⟨[], [], 1, waiting, rfl, ?_, fun _ => rfl⟩
            rw [out]
            rfl
        | cons payload rest =>
            exact ⟨[payload], rest, 0, waiting, rfl, rfl, fun ends => absurd ends (Nat.lt_irrefl 0)⟩
      · refine ⟨subscriber, if_neg fun both => own both.1, ?_⟩
        rw [finds, if_neg own]
        exact .refl _
  | receiveAll id =>
      by_cases own : subscriber.id = id
      · refine ⟨_, if_pos ⟨own, held⟩, ?_⟩
        rw [finds, if_pos own]
        exact ⟨subscriber.queue, [], 0, (List.append_nil _).symm, rfl, (List.append_nil _).symm,
          fun _ => rfl⟩
      · refine ⟨subscriber, if_neg fun both => own both.1, ?_⟩
        rw [finds, if_neg own]
        exact .refl _
  | unsubscribe id =>
      refine ⟨subscriber, if_neg fun both => ?_, .refl _⟩
      rw [out] at both
      cases both.2
  | letGo id =>
      have other : subscriber.id ≠ id := fun same => kept (same ▸ rfl)
      exact ⟨subscriber, if_neg other, .refl _⟩
  | closeAll =>
      refine ⟨{ subscriber with registered := false }, if_pos held, ?_⟩
      rw [← out]
      exact .refl _

end Subscriber

namespace Hub

variable {hub : Hub} {id : Nat} {subscriber : Subscriber}

theorem not_mem_registry_iff (sound : hub.Sound) (found : hub.find? id = some subscriber) :
    id ∉ hub.registry ↔ subscriber.registered = false := by
  rw [mem_registry_iff sound, found]
  simp

theorem exists_drained_run (sound : hub.Sound) (found : hub.find? id = some subscriber)
    (held : subscriber.listening = true) (out : subscriber.registered = false)
    (events : List HubEvent) (kept : .letGo id ∉ events) :
    ∃ left, (hub.run events).listener? id = some left ∧
      subscriber.Drains (hub.receivedIn id events) left := by
  induction events generalizing hub subscriber with
  | nil => exact ⟨subscriber, listener?_eq_some.mpr ⟨found, held⟩, .refl _⟩
  | cons event rest ih =>
      rw [List.mem_cons, not_or] at kept
      have name := id_of_find? found
      obtain ⟨next, reacts, now⟩ :=
        Subscriber.exists_drained hub.capacity held out (name ▸ Ne.symm kept.1)
      have stepped := (find?_step sound event found).trans reacts
      have same : next.listening = true ∧ next.registered = false := by
        obtain ⟨_, _, _, -, rfl, -⟩ := now
        exact ⟨held, out⟩
      obtain ⟨left, reader, later⟩ := ih (sound.step event) stepped same.1 same.2 kept.2
      refine ⟨left, reader, ?_⟩
      rw [receivedIn, receipts_eq event found held]
      exact now.trans later

/-- The end is told to a viewer just when it is out of the registry and its queue is empty. -/
theorem receive_eq_closed (sound : hub.Sound) (reader : hub.listener? id = some subscriber) :
    (hub.receive id).1 = .closed ↔ id ∉ hub.registry ∧ subscriber.queue = [] := by
  rw [not_mem_registry_iff sound (listener?_eq_some.mp reader).1, receive, reader]
  cases waiting : subscriber.queue with
  | nil => cases registered : subscriber.registered <;> simp [waiting, registered]
  | cons payload rest => simp [waiting]

theorem tidy_withCapacity (capacity : Nat) : (withCapacity capacity).Tidy :=
  fun _ member => nomatch member

/-- The accounts of a hub after events that began with a hub without viewers. -/
structure Accounts (start : Hub) (events : List HubEvent) : Prop where
  /-- Each id is greater than those given away before. -/
  fresh : (start.idsIn events).Pairwise (· < ·)
  /-- The registry has just the viewers that came and did not depart since. -/
  present (id : Nat) : id ∈ (start.run events).registry ↔
    ∃ before after, events = before ++ .subscribe :: after ∧
      (start.run before).subscribe.1 = id ∧ ¬ Departs id after
  /-- The other viewers were reported as removed. -/
  complete : ((start.run events).registry ++ start.removedIn events).Perm (start.idsIn events)
  /-- No viewer was reported as removed twice. -/
  once : (start.removedIn events).Nodup
  /-- Who closes the hub is told how many viewers are registered. -/
  counted : (start.run events).closeAll.1 = (start.run events).registry.length
  /-- A payload is delivered or lost for each registered viewer that has its queue. -/
  offered (payload : String) :
    let report := ((start.run events).publish payload).1
    report.delivered + report.dropped =
      (start.run events).registry.countP fun id => ((start.run events).listener? id).isSome
  /-- The hub has counted the losses. -/
  dropped : (start.run events).dropped = (start.along lost events).sum
  /-- What was delivered was received, waits, or was discarded with a queue. -/
  delivered : (start.along delivered events).sum =
    (start.along taken events).sum + (start.run events).queued + (start.along discarded events).sum
  /-- A viewer out of the registry finds what is in its queue, and nothing comes into it. -/
  drained (id : Nat) (subscriber : Subscriber)
    (reader : (start.run events).listener? id = some subscriber)
    (out : id ∉ (start.run events).registry) (after : List HubEvent) (kept : .letGo id ∉ after) :
    ∃ left, ((start.run events).run after).listener? id = some left ∧
      subscriber.Drains ((start.run events).receivedIn id after) left
  /-- The end is told to a viewer just when it is out of the registry and its queue is empty. -/
  ended (id : Nat) (subscriber : Subscriber)
    (reader : (start.run events).listener? id = some subscriber) :
    ((start.run events).receive id).1 = .closed ↔
      id ∉ (start.run events).registry ∧ subscriber.queue = []

/-- **The hub's accounts hold after every run.** -/
theorem accounts_of_run (capacity : Nat) (events : List HubEvent) :
    (withCapacity capacity).Accounts events := by
  have start : (withCapacity capacity).Sound := Reachable.sound ⟨capacity, [], rfl⟩
  have sound : ((withCapacity capacity).run events).Sound := start.run events
  have complete := registry_run start events
  rw [show (withCapacity capacity).registry = [] from rfl, List.nil_append] at complete
  have fresh := idsIn_increasing (withCapacity capacity) events
  have distinct := complete.nodup_iff.mpr (fresh.imp Nat.ne_of_lt)
  refine ⟨fresh, fun id => ?_, complete, (List.nodup_append.mp distinct).2.1, ?_, ?_, ?_, ?_, ?_, ?_⟩
  · exact mem_registry_run_iff start List.not_mem_nil events
  · exact (length_registry _).symm
  · exact delivered_add_dropped sound
  · exact (dropped_run _ events).trans (Nat.zero_add _)
  · have balance := delivered_run start (tidy_withCapacity capacity) events
    rw [show (withCapacity capacity).queued = 0 from rfl] at balance
    omega
  · intro id subscriber reader out after kept
    obtain ⟨found, held⟩ := listener?_eq_some.mp reader
    have unregistered := (not_mem_registry_iff sound found).mp out
    exact exists_drained_run sound found held unregistered after kept
  · exact fun id subscriber => receive_eq_closed sound

end Hub

end LiveChat.Delivery
