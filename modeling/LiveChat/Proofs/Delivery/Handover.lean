import LiveChat.Proofs.Delivery.History
import LiveChat.Proofs.Delivery.Sending

/-!
# From the stored messages to the live ones

A viewer is registered first and reads the newest stored messages then, while senders go on at any
of these points. No message falls in between: one that was published is in the history, waits in the
viewer's queue, or is not among the newest (`Sending.history_then_live`).
-/

namespace LiveChat.Delivery.Sending

open LiveChat.Chat LiveChat.Store

def joined (sending : Sending) : Sending :=
  { sending with relay := { sending.relay with hub := sending.relay.hub.subscribe.2 } }

theorem Sound.joined {sending : Sending} (sound : sending.Sound) : sending.joined.Sound where
  hub := sound.hub.subscribe
  distinct := sound.distinct
  below := sound.below
  stored := sound.stored

/-- The stored messages were read, which changed the relay. -/
def resumed (sending : Sending) (relay : Relay) : Sending := { sending with relay := relay }

/-- The store answers, and its rows can be read. -/
structure Healthy (sending : Sending) : Prop where
  answers : sending.relay.database.Answers
  readable : ∀ row ∈ sending.log.rows, row.isReadable = true

theorem Healthy.step {sending : Sending} (healthy : sending.Healthy) {event : SendingEvent}
    (covered : event.isCovered = true) : (sending.step event).Healthy := by
  rcases sending.step_cases event with
    ⟨enricher, -, same⟩ | ⟨relay, row, payload, stored, -, -, same⟩ | ⟨admission, -, same⟩
  · rw [same]
    exact ⟨healthy.answers, healthy.readable⟩
  · rw [same]
    refine ⟨stored.answers healthy.answers, ?_⟩
    change ∀ row ∈ relay.database.tables.log.rows, row.isReadable = true
    rw [stored.rows]
    intro other member
    rcases List.mem_append.mp member with old | new
    · exact healthy.readable other old
    · cases Option.mem_toList.mp new
      exact stored.isReadable covered
  · rw [same]
    exact ⟨healthy.answers, healthy.readable⟩

theorem Healthy.run {sending : Sending} (healthy : sending.Healthy) (events : List SendingEvent)
    (covered : ∀ event ∈ events, event.isCovered = true) : (sending.run events).Healthy := by
  induction events generalizing sending with
  | nil => exact healthy
  | cons event rest ih =>
      exact ih (healthy.step (covered event List.mem_cons_self))
        fun other member => covered other (List.mem_cons_of_mem _ member)

theorem Healthy.joined_run {sending : Sending} (healthy : sending.Healthy)
    {before between : List SendingEvent}
    (covered : ∀ event ∈ before ++ between, event.isCovered = true) :
    ((sending.run before).joined.run between).Healthy := by
  have joining : (sending.run before).Healthy :=
    healthy.run before fun event member => covered event (List.mem_append_left _ member)
  have joined : (sending.run before).joined.Healthy := ⟨joining.answers, joining.readable⟩
  exact joined.run between fun event member => covered event (List.mem_append_right _ member)

/-- The queue of a viewer holds the payloads of messages, and it can take more. -/
def Queues (sending : Sending) (viewer : Nat) (live : List Admission) : Prop :=
  sending.relay.hub.find? viewer = some ⟨viewer, true, true, live.map Admission.payload⟩

/-- What is published after a viewer was registered waits in its queue, as long as there is room. -/
theorem queues_run {sending : Sending} {viewer : Nat} {earlier live : List Admission}
    (sound : sending.Sound) (published : sending.published = earlier ++ live)
    (queues : sending.Queues viewer live) (events : List SendingEvent)
    (room : (sending.run events).published.length ≤
      earlier.length + sending.relay.hub.capacity) :
    ∃ live, (sending.run events).published = earlier ++ live ∧
      (sending.run events).Queues viewer live := by
  induction events generalizing sending live with
  | nil => exact ⟨live, published, queues⟩
  | cons event rest ih =>
      have capacity := ((Since.refl sound).step event).capacity
      have longer := ((Since.refl (sound.step event)).run rest).published.length_le
      change (Sending.run _ rest).published.length ≤ _ at room
      rw [← capacity] at room
      rcases sending.step_cases event with
        ⟨enricher, -, same⟩ | ⟨relay, row, payload, -, hub, -, same⟩ | ⟨admission, waiting, same⟩
      · refine @ih _ live (sound.step event) ?_ ?_ room
        · rw [same]
          exact published
        · rw [same]
          exact queues
      · refine @ih _ live (sound.step event) ?_ ?_ room
        · rw [same]
          exact published
        · rw [same]
          unfold Queues
          rw [hub]
          exact queues
      -- `room` is about the end of the run, so that it covers what is published on the way.
      · refine @ih _ (live ++ [admission]) (sound.step event) ?_ ?_ room
        · rw [same, ← List.append_assoc, ← published]
        · have free : live.length < sending.relay.hub.capacity := by
            rw [capacity] at room
            have count := congrArg (fun sending => sending.published.length) same
            simp only [published, List.length_append, List.length_singleton] at count
            omega
          have accepts : (⟨viewer, true, true, live.map Admission.payload⟩ : Subscriber).accepts
              sending.relay.hub.capacity = true := by
            simpa [Subscriber.accepts, Subscriber.isReachable] using free
          rw [same]
          unfold Queues Relay.publish
          rw [Hub.find?_publish sound.hub, queues, Option.bind_some,
            Subscriber.offer_of_accepts accepts, List.map_append]
          rfl

theorem Sound.resumed {sending : Sending} (sound : sending.Sound) (enricher : Enricher) :
    (sending.resumed { sending.relay with enricher := enricher }).Sound where
  hub := sound.hub
  distinct := sound.distinct
  below := sound.below
  stored := sound.stored

/-- What is published after a viewer was registered waits in its queue, each message once, while the
stored messages are read at some point. -/
theorem exists_live {joining : Sending} (sound : joining.Sound) (between after : List SendingEvent)
    (enricher : Enricher) :
    let reading := joining.joined.run between
    let last := (reading.resumed { reading.relay with enricher := enricher }).run after
    last.published.length ≤ joining.published.length + joining.relay.hub.capacity →
      ∃ live, last.published = joining.published ++ live ∧
        last.Queues joining.relay.hub.subscribe.1 live ∧ (live.map Admission.number).Nodup ∧
        ∀ admission ∈ live, admission ∉ joining.published := by
  intro reading last room
  have since_reading := (Since.refl sound.joined).run between
  have sound_resumed := (sound.joined.run between).resumed enricher
  have longer := ((Since.refl sound_resumed).run after).published.length_le
  obtain ⟨live, published, queues⟩ :=
    queues_run sound.joined (List.append_nil joining.published).symm
      (Hub.find?_subscribe sound.hub) between (Nat.le_trans longer room)
  obtain ⟨live, published, queues⟩ :=
    queues_run sound_resumed published queues after (since_reading.capacity ▸ room)
  have distinct := (sound_resumed.run after).distinct
  unfold admitted at distinct
  rw [List.map_append, published, List.map_append, List.nodup_append, List.nodup_append] at distinct
  obtain ⟨⟨-, alone, apart⟩, -⟩ := distinct
  refine ⟨live, published, queues, alone, ?_⟩
  intro admission later earlier
  exact apart _ (List.mem_map_of_mem earlier) _ (List.mem_map_of_mem later) rfl

/-- **History, then live.** A viewer is registered, and the newest stored messages are read for it
later, while senders store and publish messages before, in between and after. Then the history is
one payload for each of the newest rows that a message can be rebuilt from, in strict order; the
queue holds what was published since the viewer was registered, each message once, as long as there
is room; and a published message is in the history, or waits in the queue, or its row has too many
rows behind it. It is in both only if it was published after the one point and stored before the
other. On a store that answers, with readable rows, the history can be read. -/
theorem history_then_live (relay : Relay) (reachable : relay.hub.Reachable)
    (before between after : List SendingEvent) (limit : Nat) (positive : 0 < limit) :
    let joining := (start relay).run before
    let viewer := joining.relay.hub.subscribe.1
    let reading := joining.joined.run between
    (relay.database.Answers → (∀ row ∈ relay.database.tables.log.rows, row.isReadable = true) →
      (∀ event ∈ before ++ between, event.isCovered = true) →
        ∃ payloads read, reading.relay.history limit = .ok (payloads, read)) ∧
    ∀ payloads read, reading.relay.history limit = .ok (payloads, read) →
      let last := (reading.resumed read).run after
      (∀ admission ∈ last.published, ∃ row, admission.row = some row ∧
        row.isReplayable relay.enricher = true) →
      last.published.length ≤ joining.published.length + relay.hub.capacity →
        ∃ rows live,
          List.Forall₂ (fun row payload => row.Replays relay.enricher.options payload)
            rows payloads ∧
          (rows.Pairwise fun earlier later => earlier.position.before later.position = true) ∧
          (∀ row, row ∈ rows ↔
            reading.log.IsNewest limit row ∧ row.isReplayable relay.enricher = true) ∧
          last.published = joining.published ++ live ∧
          (last.relay.hub.find? viewer).map Subscriber.queue =
            some (live.map Admission.payload) ∧
          (live.map Admission.number).Nodup ∧
          (∀ admission ∈ last.published,
            (∃ row ∈ rows, admission.row = some row) ∨ admission ∈ live ∨
              ∃ row ∈ reading.log.rows, admission.row = some row ∧
                limit ≤ reading.log.rows.countP fun other =>
                  row.position.before other.position) ∧
          ∀ admission ∈ live, (∃ row ∈ rows, admission.row = some row) →
            admission ∉ joining.published ∧ admission.number < reading.count := by
  intro joining viewer reading
  have sound_joining : joining.Sound := (Sound.start reachable.sound).run before
  have since_joining : Since (start relay) joining := (Since.refl (.start reachable.sound)).run before
  have sound_reading : reading.Sound := sound_joining.joined.run between
  have since_reading : Since joining.joined reading := (Since.refl sound_joining.joined).run between
  have options : reading.relay.enricher.options = relay.enricher.options :=
    since_reading.options.trans since_joining.options
  refine ⟨?_, ?_⟩
  · intro answers readable covered
    have fresh : (start relay).Healthy := ⟨answers, readable⟩
    have ready := fresh.joined_run covered
    exact Relay.exists_history ready.answers ready.readable positive
  · intro payloads read found last replayable room
    obtain ⟨⟨enricher, -, rfl⟩, replays⟩ := Relay.history_eq_ok positive found
    have sound_resumed := sound_reading.resumed enricher
    have since_last := (Since.refl sound_resumed).run after
    obtain ⟨live, published, queues, alone, apart⟩ :=
      exists_live sound_joining between after enricher (since_joining.capacity ▸ room)
    have agree : (fun row : LogRow => row.isReplayable reading.relay.enricher) =
        fun row => row.isReplayable relay.enricher :=
      funext fun row => LogRow.isReplayable_congr options row
    rw [agree, options] at replays
    have member_iff (row : LogRow) :
        row ∈ (reading.log.latest limit).filter (fun row => row.isReplayable relay.enricher) ↔
          reading.log.IsNewest limit row ∧ row.isReplayable relay.enricher = true := by
      rw [List.mem_filter, MessageLog.mem_latest_iff]
    refine ⟨_, live, replays, (reading.log.latest_pairwise limit).filter _, member_iff, published,
      ?_, alone, ?_, ?_⟩
    · rw [show last.relay.hub.find? viewer = _ from queues]
      rfl
    · intro admission member
      obtain ⟨row, given, accepted⟩ := replayable admission member
      rw [show last.published = _ from published] at member
      rcases List.mem_append.mp member with earlier | later
      · have present : row ∈ reading.log.rows :=
          since_reading.rows.subset
            (sound_joining.stored admission (List.mem_append_left _ earlier) row given)
        rcases reading.log.isNewest_or_behind limit present with newest | behind
        · exact Or.inl ⟨row, (member_iff row).mpr ⟨newest, accepted⟩, given⟩
        · exact Or.inr (Or.inr ⟨row, present, given, behind⟩)
      · exact Or.inr (Or.inl later)
    · rintro admission member ⟨row, listed, given⟩
      refine ⟨apart admission member, ?_⟩
      by_contra beyond
      have admitted : admission ∈ last.admitted := by
        refine List.mem_append_left _ ?_
        rw [show last.published = _ from published]
        exact List.mem_append_right _ member
      exact since_last.later admission admitted (Nat.le_of_not_lt beyond) row given
        ((member_iff row).mp listed).1.1

/-- What is published does not depend on what the history changed. -/
theorem published_resumed (sending : Sending) (relay : Relay) (number : Nat) :
    ((sending.resumed relay).step (.publish number)).published =
      (sending.step (.publish number)).published := by
  simp only [step, resumed]
  split <;> rfl

/-- A sender's message at a second. -/
def greet (id : String) (second : Int) : SendingEvent :=
  .store (.object [("message", .string "hi")]) none ⟨id, ⟨second, 0⟩, 0⟩

/-- One message was published before the viewer came, and one is stored but not published when the
newest row is read. -/
theorem history_then_live_of_two :
    let joining := (start Relay.quiet).run [greet "a" 1, .publish 0]
    let reading := joining.joined.run [greet "b" 2]
    ∃ payloads read, reading.relay.history 1 = .ok (payloads, read) ∧
      ∃ live, ((reading.resumed read).run [.publish 1]).published = joining.published ++ live ∧
        live.map Admission.number = [1] ∧
        (((reading.resumed read).run [.publish 1]).relay.hub.find? 2).map Subscriber.queue =
          some (live.map Admission.payload) := by
  intro joining reading
  have reachable : Relay.quiet.hub.Reachable := ⟨64, [.subscribe], rfl⟩
  obtain ⟨exists_history, represented⟩ := history_then_live Relay.quiet reachable
    [greet "a" 1, .publish 0] [greet "b" 2] [.publish 1] 1 Nat.one_pos
  have covered : ∀ event ∈ [greet "a" 1, .publish 0] ++ [greet "b" 2],
      event.isCovered = true := by decide +kernel
  obtain ⟨payloads, read, found⟩ :=
    exists_history ⟨rfl, rfl⟩ (fun row member => by cases member) covered
  have published := reading.published_resumed read 1
  have replayable : (reading.step (.publish 1)).published.all (fun admission =>
      admission.row.any fun row => row.isReplayable Relay.quiet.enricher) = true := by
    decide +kernel
  have numbers : (reading.step (.publish 1)).published.map Admission.number = [0, 1] := by
    decide +kernel
  have first : joining.published.map Admission.number = [0] := by decide +kernel
  obtain ⟨rows, live, -, -, -, split, queue, -⟩ := represented payloads read found
    (by
      change ∀ admission ∈ ((reading.resumed read).step (.publish 1)).published, _
      rw [published]
      intro admission member
      exact (Option.any_eq_true _ _).mp (List.all_eq_true.mp replayable admission member))
    (by
      change ((reading.resumed read).step (.publish 1)).published.length ≤ _
      rw [published]
      decide +kernel)
  refine ⟨payloads, read, found, live, split, ?_, queue⟩
  have all := congrArg (List.map Admission.number) (published.symm.trans split)
  rw [numbers, List.map_append, first] at all
  exact (List.cons.inj all).2.symm

end LiveChat.Delivery.Sending
