import LiveChat.Proofs.Chat.Payload
import LiveChat.Proofs.Chat.Replay
import LiveChat.Proofs.Delivery.Broadcast

/-!
# Taking a message in

A message that is dropped leaves no trace. Any other is offered under the payload that its row
keeps, and is stored at once or not at all: `Relay.accept_outcome` lists what a relay may become,
and `Relay.accept_all_or_nothing` says what viewers, the set of noted ids and the store have of it.
A row that was stored for a message can be replayed whenever it can be read
(`MessageLog.replays_rowFor`).
-/

namespace LiveChat

namespace Chat.Enricher

variable {enricher changed : Enricher} {value : Json} {origin : Option Platform}
  {now : Time.Duration}

/-- A message that is dropped leaves the enricher as it is. -/
theorem enrichValue_of_error {reason : DropReason}
    (dropped : enricher.enrichValue value origin now = (.error reason, changed)) :
    changed = enricher := by
  unfold enrichValue at dropped
  split at dropped
  · unfold enrich at dropped
    dsimp only at dropped
    split at dropped <;> cases dropped
    rfl
  · cases dropped
    rfl

theorem enrichValue_of_ok {message : EnrichedMessage}
    (taken : enricher.enrichValue value origin now = (.ok message, changed)) :
    ∃ shown : ChatMessage, shown.IsSettled enricher.options ∧ message = .ofMessage shown := by
  obtain ⟨incoming, taken⟩ := exists_incoming taken
  exact ⟨message.message, isSettled_enrich taken, (ofMessage_of_enrich taken).symm⟩

/-- A replay looks at the columns of a row and not at its timestamp. -/
theorem rehydrate_restamped (enricher : Enricher) (row : Store.StoredMessage)
    (time : Time.Timestamp) :
    enricher.rehydrate { row with timestamp := time } = enricher.rehydrate row := rfl

end Chat.Enricher

open LiveChat.Chat LiveChat.Json

namespace Store

/-- The row says a message in each of its columns, and keeps the payload of it. -/
structure LogRow.Tells (row : LogRow) (id payload : String) (message : ChatMessage) : Prop where
  id : row.id = some id
  rawJson : row.rawJson = payload
  username : row.username = message.author
  platform : row.platform = message.source.label
  text : row.text = message.message
  emotes : decodeText (Outline.asList Emote.decode) row.emotesJson = .ok message.emotes
  badges : decodeText (Outline.asList Outline.asString) row.badgesJson =
    .ok (message.badges.map Badge.shorthand)

/-- Reading the row of a message gives it back, but for its timestamp. -/
theorem MessageLog.eq_of_toMessage_rowFor {log : MessageLog} {message stored : StoredMessage}
    (read : (log.rowFor message).toMessage = .ok stored) :
    ∃ time, stored = { message with timestamp := time } := by
  unfold LogRow.toMessage at read
  split at read
  · cases read
  · cases read
    exact ⟨_, rfl⟩

/-- Once its row is read, a message that was let through can be replayed. -/
theorem MessageLog.replays_rowFor {log : MessageLog} {enricher : Enricher} {message : ChatMessage}
    (settled : message.IsSettled enricher.options) {id : String} {time : Time.Timestamp}
    {stored : StoredMessage}
    (read : (log.rowFor ((EnrichedMessage.ofMessage message).toStored id time)).toMessage =
      .ok stored) : enricher.replays stored = true := by
  obtain ⟨stamp, rfl⟩ := eq_of_toMessage_rowFor read
  rw [Enricher.replays, Enricher.replayed?, Enricher.rehydrate_restamped,
    Enricher.rehydrate_of_settled settled id time]
  rfl

/-- The row of a message tells it. -/
theorem MessageLog.tells_rowFor (log : MessageLog) (message : ChatMessage) (id : String)
    (time : Time.Timestamp) :
    (log.rowFor ((EnrichedMessage.ofMessage message).toStored id time)).Tells id message.payload
      message where
  id := rfl
  rawJson := rfl
  username := rfl
  platform := rfl
  text := rfl
  emotes := decodeText_list Emote.isExact_toJson Emote.decode_toJson message.emotes
  badges := by
    have shorthands : decodeText (Outline.asList Outline.asString)
        (Json.array ((message.badges.map Badge.shorthand).map Json.string)).text =
          .ok (message.badges.map Badge.shorthand) :=
      decodeText_list IsExact.string (fun _ => rfl) _
    rw [List.map_map] at shorthands
    exact shorthands

end Store

namespace Delivery

open LiveChat.Store

namespace Subscriber

/-- The viewer with a payload put into its queue, unless that is full. -/
def given (capacity : Nat) (payload : String) (subscriber : Subscriber) : Subscriber :=
  if subscriber.queue.length < capacity then
    { subscriber with queue := subscriber.queue ++ [payload] }
  else subscriber

theorem offer_of_isReachable {subscriber : Subscriber} (reachable : subscriber.isReachable = true)
    (capacity : Nat) (payload : String) :
    subscriber.offer capacity payload = some (subscriber.given capacity payload) := by
  have both := reachable
  rw [isReachable, Bool.and_eq_true] at both
  unfold offer given
  by_cases room : subscriber.queue.length < capacity
  · simp [accepts, reachable, room]
  · simp [accepts, reachable, room, both]

theorem isReachable_given (capacity : Nat) (payload : String) (subscriber : Subscriber) :
    (subscriber.given capacity payload).isReachable = subscriber.isReachable := by
  unfold given
  split <;> rfl

/-- An offer brings nobody back. -/
theorem isReachable_of_offer {subscriber changed : Subscriber} {capacity : Nat} {payload : String}
    (offered : subscriber.offer capacity payload = some changed) :
    changed.isReachable = subscriber.isReachable := by
  unfold offer at offered
  split at offered
  · cases offered
    rfl
  · split at offered
    · cases offered
    · cases offered
      rfl

end Subscriber

namespace Hub

/-- The viewers that are in the registry and can receive. -/
def reachable (hub : Hub) : List Subscriber := hub.subscribers.filter Subscriber.isReachable

/-- Publishing offers the payload to each viewer once, and takes nobody's place. -/
theorem reachable_publish (hub : Hub) (payload : String) :
    (hub.publish payload).2.reachable =
      hub.reachable.map (Subscriber.given hub.capacity payload) := by
  unfold reachable publish
  dsimp only
  induction hub.subscribers with
  | nil => rfl
  | cons first rest ih =>
      by_cases here : first.isReachable = true
      · rw [List.filterMap_cons_some (Subscriber.offer_of_isReachable here _ _),
          List.filter_cons_of_pos (by rwa [Subscriber.isReachable_given]),
          List.filter_cons_of_pos here, List.map_cons, ih]
      · rw [List.filter_cons_of_neg here]
        cases offered : first.offer hub.capacity payload with
        | none => rw [List.filterMap_cons_none offered, ih]
        | some changed =>
            rw [← Subscriber.isReachable_of_offer offered] at here
            rw [List.filterMap_cons_some offered, List.filter_cons_of_neg here, ih]

end Hub

namespace Relay

/-- How a relay takes a message in that is not dropped: its id is noted, its payload is offered, and
its row is stored if the store takes it. -/
structure TakesIn (relay : Relay) (value : Json) (origin : Option Platform) (stamp : Stamp)
    (message : ChatMessage) (stored : Bool) (changed : Relay) : Prop where
  enriched : relay.enricher.enrichValue value origin stamp.now =
    (.ok (.ofMessage message), changed.enricher)
  accepted : relay.accept value origin stamp = (.published stamp.id stored, changed)
  settled : message.IsSettled relay.enricher.options
  seen : changed.seen = (relay.seen.insert stamp.id).2
  hub : changed.hub = (relay.hub.publish message.payload).2
  inserted : (relay.database.insertMessage
    ((EnrichedMessage.ofMessage message).toStored stamp.id stamp.time)).isOk = stored
  database :
    if stored then
      ∃ log : MessageLog, changed.database = relay.database.withLog log ∧
        log.rows = relay.database.tables.log.rows ++
          [relay.database.tables.log.rowFor
            ((EnrichedMessage.ofMessage message).toStored stamp.id stamp.time)]
    else changed.database = relay.database

variable {relay changed : Relay} {value : Json} {origin : Option Platform} {stamp : Stamp}
  {message : ChatMessage} {stored : Bool}

theorem TakesIn.admission? (takes : relay.TakesIn value origin stamp message stored changed) :
    relay.admission? value origin stamp = some (stamp.id, message.payload) := by
  simp only [Relay.admission?, takes.accepted, takes.enriched]
  rfl

theorem TakesIn.options (takes : relay.TakesIn value origin stamp message stored changed) :
    changed.enricher.options = relay.enricher.options := by
  have options := relay.enricher.options_enrichValue value origin stamp.now
  rwa [takes.enriched] at options

/-- A message is dropped and changes nothing, or it is taken in. -/
theorem accept_outcome (relay : Relay) (value : Json) (origin : Option Platform) (stamp : Stamp) :
    (relay.admission? value origin stamp = none ∧
      ∃ reason, (relay.enricher.enrichValue value origin stamp.now).1 = .error reason ∧
        relay.accept value origin stamp = (.dropped reason, relay)) ∨
      ∃ message stored changed, relay.TakesIn value origin stamp message stored changed := by
  rcases enriched : relay.enricher.enrichValue value origin stamp.now with
    ⟨reason | taken, enricher⟩
  · have same := Enricher.enrichValue_of_error enriched
    refine .inl ⟨?_, reason, rfl, ?_⟩
    · simp only [Relay.admission?, accept, enriched]
    · rw [accept, enriched, same]
  · obtain ⟨message, settled, rfl⟩ := Enricher.enrichValue_of_ok enriched
    let after (database : Database) : Relay :=
      ⟨database, enricher, (relay.hub.publish message.payload).2, (relay.seen.insert stamp.id).2⟩
    refine .inr ⟨message, ?_⟩
    cases inserted : relay.database.insertMessage
        ((EnrichedMessage.ofMessage message).toStored stamp.id stamp.time) with
    | error failure =>
        refine ⟨false, after relay.database, enriched, ?_, settled, rfl, rfl, ?_, rfl⟩
        · simp only [accept, record, enriched, inserted]
          rfl
        · rw [inserted]
          rfl
    | ok database =>
        obtain ⟨log, added, changed⟩ := Database.insertMessage_eq_ok inserted
        obtain ⟨-, rows⟩ := MessageLog.rows_of_insertMessage added
        refine ⟨true, after database, enriched, ?_, settled, rfl, rfl, ?_, log, changed, rows⟩
        · simp only [accept, record, enriched, inserted]
          rfl
        · rw [inserted]
          rfl

/-- **All or nothing.** A message that cannot be let through is dropped and leaves the relay as it
is. Any other has one payload, which is offered once to each viewer that is in the registry and can
receive. Its id is noted. It is stored unless the store refuses: then the log has gained one row,
which keeps the payload and tells what the payload says; and otherwise the store is as before. -/
theorem accept_all_or_nothing (relay : Relay) (value : Json) (origin : Option Platform)
    (stamp : Stamp) :
    match relay.accept value origin stamp with
    | (.dropped reason, changed) =>
        (relay.enricher.enrichValue value origin stamp.now).1 = .error reason ∧ changed = relay
    | (.published id stored, changed) =>
        ∃ message : ChatMessage,
          (relay.enricher.enrichValue value origin stamp.now).1 = .ok (.ofMessage message) ∧
          ChatMessage.ofPayload message.payload = .ok message ∧
          changed.hub = (relay.hub.publish message.payload).2 ∧
          changed.hub.reachable =
            relay.hub.reachable.map (Subscriber.given relay.hub.capacity message.payload) ∧
          changed.seen.contains id = true ∧
          (relay.database.insertMessage
            ((EnrichedMessage.ofMessage message).toStored id stamp.time)).isOk = stored ∧
          if stored then
            ∃ (log : MessageLog) (row : LogRow), changed.database = relay.database.withLog log ∧
              log.rows = relay.database.tables.log.rows ++ [row] ∧
              row.Tells id message.payload message
          else changed.database = relay.database := by
  rcases relay.accept_outcome value origin stamp with
    ⟨-, reason, unheard, dropped⟩ | ⟨message, stored, changed, takes⟩
  · rw [dropped]
    exact ⟨unheard, rfl⟩
  · rw [takes.accepted]
    refine ⟨message, ?_, message.decodeText_payload, takes.hub, ?_, ?_, takes.inserted, ?_⟩
    · rw [takes.enriched]
    · rw [takes.hub]
      exact relay.hub.reachable_publish _
    · rw [takes.seen]
      exact SeenIds.contains_insert_self _ _
    · have kept := takes.database
      cases stored with
      | false => exact kept
      | true =>
          obtain ⟨log, database, rows⟩ := kept
          exact ⟨log, _, database, rows, MessageLog.tells_rowFor _ message stamp.id stamp.time⟩

end Relay

end Delivery

end LiveChat
