import LiveChat.Proofs.Delivery.Broadcast
import LiveChat.Proofs.Delivery.HubRun
import LiveChat.Proofs.Store.Newest

/-!
# Taking messages in, in two steps

A message that is taken in is stored first and published later (`Relay.accept_eq_store`), and in
between other messages may be stored and published. `Sending.step_cases` says what one step can
change, and `Sending.Sound` and `Sending.Since` what a run of them keeps.
-/

namespace LiveChat.Delivery

open LiveChat.Chat LiveChat.Store LiveChat.Time

structure Admission where
  /-- Messages are numbered in the order in which they are stored. -/
  number : Nat
  /-- The row of the message, if it could be stored. -/
  row : Option LogRow
  payload : String
deriving DecidableEq, Repr

structure Sending where
  relay : Relay
  count : Nat
  waiting : List Admission
  /-- The messages that were published, in the order in which they were. -/
  published : List Admission

inductive SendingEvent where
  | store (value : Json) (origin : Option Platform) (stamp : Stamp)
  | publish (number : Nat)

/-- The clock covers the time of a message. -/
def SendingEvent.isCovered : SendingEvent → Bool
  | .store _ _ stamp => (Timestamp.ofMillis? stamp.time.truncated.toMillis).isSome
  | .publish _ => true

namespace Sending

def start (relay : Relay) : Sending := ⟨relay, 0, [], []⟩

def log (sending : Sending) : MessageLog := sending.relay.database.tables.log

def admitted (sending : Sending) : List Admission := sending.published ++ sending.waiting

/-- A message that is not waiting is not published. -/
def step (sending : Sending) : SendingEvent → Sending
  | .store value origin stamp =>
      match sending.relay.store value origin stamp with
      | (none, relay) => { sending with relay := relay }
      | (some payload, relay) =>
          let row := (sending.log.arrivals relay.database.tables.log).head?
          { sending with
            relay := relay
            count := sending.count + 1
            waiting := sending.waiting ++ [⟨sending.count, row, payload⟩] }
  | .publish number =>
      match sending.waiting.find? fun admission => admission.number == number with
      | some admission =>
          { sending with
            relay := sending.relay.publish admission.payload
            waiting := sending.waiting.erase admission
            published := sending.published ++ [admission] }
      | none => sending

def run (sending : Sending) (events : List SendingEvent) : Sending := events.foldl step sending

/-- What storing a message does to the database. -/
inductive Stored (sending : Sending) (event : SendingEvent) (database : Database) :
    Option LogRow → Prop
  | failed (same : database = sending.relay.database) : Stored sending event database none
  | added (row : LogRow) (log : MessageLog) (changed : database = sending.relay.database.withLog log)
      (rows : log.rows = sending.log.rows ++ [row])
      (readable : event.isCovered = true → row.isReadable = true) :
      Stored sending event database (some row)

theorem Stored.rows {sending : Sending} {event : SendingEvent} {database : Database}
    {row : Option LogRow} (stored : Stored sending event database row) :
    database.tables.log.rows = sending.log.rows ++ row.toList := by
  cases stored with
  | failed same =>
      rw [same]
      exact (List.append_nil _).symm
  | added new log changed rows readable =>
      rw [changed]
      exact rows

theorem Stored.answers {sending : Sending} {event : SendingEvent} {database : Database}
    {row : Option LogRow} (stored : Stored sending event database row)
    (answers : sending.relay.database.Answers) : database.Answers := by
  cases stored with
  | failed same =>
      rw [same]
      exact answers
  | added new log changed rows readable =>
      rw [changed]
      exact answers

theorem Stored.isReadable {sending : Sending} {event : SendingEvent} {database : Database}
    {row : LogRow} (stored : Stored sending event database (some row))
    (covered : event.isCovered = true) : row.isReadable = true := by
  cases stored with
  | added row log changed rows readable => exact readable covered

/-- A step drops a message, stores one or publishes one. -/
theorem step_cases (sending : Sending) (event : SendingEvent) :
    (∃ enricher : Enricher, enricher.options = sending.relay.enricher.options ∧
      sending.step event = { sending with relay := { sending.relay with enricher := enricher } }) ∨
    (∃ relay row payload, Stored sending event relay.database row ∧
      relay.hub = sending.relay.hub ∧
      relay.enricher.options = sending.relay.enricher.options ∧
      sending.step event =
        ⟨relay, sending.count + 1, sending.waiting ++ [⟨sending.count, row, payload⟩],
          sending.published⟩) ∨
    ∃ admission ∈ sending.waiting,
      sending.step event =
        ⟨sending.relay.publish admission.payload, sending.count, sending.waiting.erase admission,
          sending.published ++ [admission]⟩ := by
  cases event with
  | store value origin stamp =>
      rcases sending.relay.store_cases value origin stamp with
        ⟨enricher, kept, same⟩ | ⟨payload, enricher, database, kept, stored, same⟩
      · refine Or.inl ⟨enricher, kept, ?_⟩
        simp only [step, same]
      · refine Or.inr (Or.inl
          ⟨⟨database, enricher, sending.relay.hub, (sending.relay.seen.insert stamp.id).2⟩,
            (sending.log.arrivals database.tables.log).head?, payload, ?_, rfl, kept, ?_⟩)
        · rcases stored with rfl | ⟨message, -, time, stored⟩
          · rw [show sending.log.arrivals sending.relay.database.tables.log = [] from
              MessageLog.arrivals_self _]
            exact .failed rfl
          · obtain ⟨log, added, rfl⟩ := Database.insertMessage_eq_ok stored
            obtain ⟨-, rows⟩ := MessageLog.rows_of_insertMessage added
            rw [show sending.log.arrivals (sending.relay.database.withLog log).tables.log = _ from
              MessageLog.arrivals_of_append rows]
            refine .added _ log rfl rows ?_
            intro covered
            change (Timestamp.ofMillis? stamp.time.truncated.toMillis).isSome = true at covered
            rw [← time] at covered
            exact covered
        · simp only [step, same]
  | publish number =>
      cases found : sending.waiting.find? fun admission => admission.number == number with
      | none =>
          refine Or.inl ⟨sending.relay.enricher, rfl, ?_⟩
          simp only [step, found]
      | some admission =>
          refine Or.inr (Or.inr ⟨admission, List.mem_of_find?_eq_some found, ?_⟩)
          simp only [step, found]

/-- Publishing a message leaves it among those that were taken in. -/
theorem admitted_publish (sending : Sending) {admission : Admission}
    (waiting : admission ∈ sending.waiting) :
    ((sending.published ++ [admission]) ++ sending.waiting.erase admission).Perm
      sending.admitted := by
  unfold admitted
  rw [List.append_assoc, List.singleton_append]
  exact (List.perm_cons_erase waiting).symm.append_left _

/-- The messages that were taken in have different numbers, and their rows are in the log. -/
structure Sound (sending : Sending) : Prop where
  hub : sending.relay.hub.Sound
  distinct : (sending.admitted.map Admission.number).Nodup
  below : ∀ admission ∈ sending.admitted, admission.number < sending.count
  stored : ∀ admission ∈ sending.admitted, ∀ row, admission.row = some row →
    row ∈ sending.log.rows

namespace Sound

variable {sending : Sending}

theorem start {relay : Relay} (hub : relay.hub.Sound) : (Sending.start relay).Sound where
  hub := hub
  distinct := .nil
  below admission member := by cases member
  stored admission member := by cases member

/-- A message that is stored gets a number of its own. -/
theorem store (sound : sending.Sound) {relay : Relay} {event : SendingEvent} {row : Option LogRow}
    (payload : String) (stored : Stored sending event relay.database row)
    (hub : relay.hub = sending.relay.hub) :
    Sound ⟨relay, sending.count + 1, sending.waiting ++ [⟨sending.count, row, payload⟩],
      sending.published⟩ := by
  have admitted : sending.published ++ (sending.waiting ++ [⟨sending.count, row, payload⟩]) =
      sending.admitted ++ [⟨sending.count, row, payload⟩] := (List.append_assoc _ _ _).symm
  refine ⟨?_, ?_, ?_, ?_⟩
  · rw [hub]
    exact sound.hub
  · unfold Sending.admitted
    rw [admitted, List.map_append, List.nodup_append]
    refine ⟨sound.distinct, List.pairwise_singleton _ _, ?_⟩
    intro number old other new same
    obtain ⟨admission, member, rfl⟩ := List.mem_map.mp old
    rw [List.mem_singleton.mp new] at same
    exact Nat.ne_of_lt (sound.below admission member) same
  · unfold Sending.admitted
    rw [admitted]
    intro admission member
    rcases List.mem_append.mp member with old | new
    · exact Nat.lt_succ_of_lt (sound.below admission old)
    · cases List.mem_singleton.mp new
      exact Nat.lt_succ_self _
  · unfold Sending.admitted
    rw [admitted]
    intro admission member found given
    rcases List.mem_append.mp member with old | new
    · change found ∈ relay.database.tables.log.rows
      rw [stored.rows]
      exact List.mem_append_left _ (sound.stored admission old found given)
    · cases List.mem_singleton.mp new
      cases given
      change found ∈ relay.database.tables.log.rows
      rw [stored.rows]
      exact List.mem_append_right _ (List.mem_singleton_self _)

theorem step (sound : sending.Sound) (event : SendingEvent) : (sending.step event).Sound := by
  rcases sending.step_cases event with
    ⟨enricher, -, same⟩ | ⟨relay, row, payload, stored, hub, -, same⟩ | ⟨admission, waiting, same⟩
  · rw [same]
    exact ⟨sound.hub, sound.distinct, sound.below, sound.stored⟩
  · rw [same]
    exact sound.store payload stored hub
  · have admitted := sending.admitted_publish waiting
    rw [same]
    refine ⟨sound.hub.publish _, ?_, ?_, ?_⟩
    · exact (admitted.map _).nodup_iff.mpr sound.distinct
    · exact fun other member => sound.below other (admitted.mem_iff.mp member)
    · exact fun other member => sound.stored other (admitted.mem_iff.mp member)

theorem run (sound : sending.Sound) (events : List SendingEvent) : (sending.run events).Sound := by
  induction events generalizing sending with
  | nil => exact sound
  | cons event rest ih => exact ih (sound.step event)

end Sound

/-- What is so after an earlier point: nothing that was there is gone, and messages that were taken
in later have later rows. -/
structure Since (earlier sending : Sending) : Prop where
  options : sending.relay.enricher.options = earlier.relay.enricher.options
  capacity : sending.relay.hub.capacity = earlier.relay.hub.capacity
  count : earlier.count ≤ sending.count
  rows : earlier.log.rows <+: sending.log.rows
  published : earlier.published <+: sending.published
  later : ∀ admission ∈ sending.admitted, earlier.count ≤ admission.number →
    ∀ row, admission.row = some row → row ∉ earlier.log.rows

namespace Since

variable {earlier sending : Sending}

theorem refl (sound : earlier.Sound) : Since earlier earlier where
  options := rfl
  capacity := rfl
  count := Nat.le_refl _
  rows := List.prefix_refl _
  published := List.prefix_refl _
  later admission member beyond :=
    absurd (sound.below admission member) (Nat.not_lt_of_le beyond)

theorem store (since : Since earlier sending) {relay : Relay} {event : SendingEvent}
    {row : Option LogRow} (payload : String) (stored : Stored sending event relay.database row)
    (hub : relay.hub = sending.relay.hub)
    (options : relay.enricher.options = sending.relay.enricher.options) :
    Since earlier ⟨relay, sending.count + 1,
      sending.waiting ++ [⟨sending.count, row, payload⟩], sending.published⟩ where
  options := options.trans since.options
  capacity := (congrArg Hub.capacity hub).trans since.capacity
  count := Nat.le_succ_of_le since.count
  rows := by
    change earlier.log.rows <+: relay.database.tables.log.rows
    rw [stored.rows]
    exact since.rows.trans (List.prefix_append _ _)
  published := since.published
  later admission member beyond found given := by
    change admission ∈ sending.published ++ (sending.waiting ++ _) at member
    rw [← List.append_assoc] at member
    rcases List.mem_append.mp member with old | new
    · exact since.later admission old beyond found given
    · cases List.mem_singleton.mp new
      cases given
      have nodup := relay.database.tables.log.rows_nodup
      rw [stored.rows, List.nodup_append] at nodup
      exact fun present => nodup.2.2 _ (since.rows.subset present) _
        (List.mem_singleton_self _) rfl

theorem step (since : Since earlier sending) (event : SendingEvent) :
    Since earlier (sending.step event) := by
  rcases sending.step_cases event with
    ⟨enricher, options, same⟩ | ⟨relay, row, payload, stored, hub, options, same⟩ |
      ⟨admission, waiting, same⟩
  · rw [same]
    exact { since with options := options.trans since.options }
  · rw [same]
    exact since.store payload stored hub options
  · have admitted := sending.admitted_publish waiting
    rw [same]
    exact
      { options := since.options
        capacity := since.capacity
        count := since.count
        rows := since.rows
        published := since.published.trans (List.prefix_append _ _)
        later := fun other member => since.later other (admitted.mem_iff.mp member) }

theorem run (since : Since earlier sending) (events : List SendingEvent) :
    Since earlier (sending.run events) := by
  induction events generalizing sending with
  | nil => exact since
  | cons event rest ih => exact ih (since.step event)

end Since

end Sending

end LiveChat.Delivery
