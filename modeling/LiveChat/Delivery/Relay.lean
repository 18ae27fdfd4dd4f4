import LiveChat.Chat.Enrichment
import LiveChat.Delivery.Hub
import LiveChat.Delivery.SeenIds
import LiveChat.Store.Database

/-!
# From senders to viewers

An incoming message is enriched, stored and offered to the viewers. A store that fails does not keep
the message from them. The id of its row is noted before the row is stored, so that the message is
not sent a second time when the row is found in the log.
-/

namespace LiveChat.Delivery

open LiveChat.Chat LiveChat.Store LiveChat.Time

/-- What the surroundings give to an incoming message. -/
structure Stamp where
  id : String
  time : Timestamp
  now : Duration
deriving DecidableEq, Repr

inductive Receipt where
  | published (id : String) (stored : Bool)
  | dropped (reason : DropReason)
deriving DecidableEq, Repr

structure Relay where
  database : Database
  enricher : Enricher
  hub : Hub
  seen : SeenIds

namespace Relay

/-- A relay that nothing has come through yet. -/
def new (database : Database) (enricher : Enricher) (hub : Hub) (seen : SeenIds) : Relay :=
  ⟨database, enricher, hub, seen⟩

/-- Notes the id of a message and stores its row, and says whether that succeeded. -/
def record (relay : Relay) (row : StoredMessage) : Bool × Relay :=
  let relay := { relay with seen := (relay.seen.insert row.id).2 }
  match relay.database.insertMessage row with
  | .ok database => (true, { relay with database := database })
  | .error _ => (false, relay)

def publish (relay : Relay) (payload : String) : Relay :=
  { relay with hub := (relay.hub.publish payload).2 }

/-- Takes an incoming message in. `origin` is the platform from which it came, as far as that is
known otherwise than by its own label. -/
def accept (relay : Relay) (value : Json) (origin : Option Platform) (stamp : Stamp) :
    Receipt × Relay :=
  match relay.enricher.enrichValue value origin stamp.now with
  | (.error reason, enricher) => (.dropped reason, { relay with enricher := enricher })
  | (.ok message, enricher) =>
      let row := message.toStored stamp.id stamp.time
      let (stored, relay) := { relay with enricher := enricher }.record row
      (.published row.id stored, relay.publish message.payloadJson)

def deliver (relay : Relay) (url : String) (value : Json) (stamp : Stamp) : Receipt × Relay :=
  relay.accept value (Platform.ofUrl? url) stamp

/-- The payloads of stored rows, without those that no message can be made of. -/
def replay (enricher : Enricher) : List StoredMessage → List String × Enricher
  | [] => ([], enricher)
  | row :: rest =>
      match enricher.rehydrate row with
      | (.ok message, enricher) =>
          let (payloads, enricher) := replay enricher rest
          (message.payloadJson :: payloads, enricher)
      | (.error _, enricher) => replay enricher rest

/-- The payloads of the newest rows, the oldest first. -/
def history (relay : Relay) (limit : Nat) : Result (List String × Relay) :=
  if limit = 0 then .ok ([], relay)
  else do
    let rows ← relay.database.recent (.latest limit)
    let (payloads, enricher) := replay relay.enricher rows.reverse
    return (payloads, { relay with enricher := enricher })

end Relay

end LiveChat.Delivery
