import LiveChat.Serve.Router

/-!
# A viewer's connection

A viewer is registered before the stored messages are read, so that none is lost in between. It
receives the stored messages first and then what its queue brings, both through its filter, and a
keepalive with a ping whenever the interval is over. The connection ends with a closing frame when
the service shuts down or the viewer is removed, and without one when the viewer has been silent too
long.
-/

namespace LiveChat.Serve

open LiveChat.Config LiveChat.Delivery

inductive Frame where
  | text (text : String)
  | ping (bytes : List UInt8)
  | close
deriving DecidableEq, Repr

structure Viewer where
  id : Nat
  filter : Option String
  envelope : Bool
deriving DecidableEq, Repr

/-- What the writing side of a connection takes notice of. -/
inductive ViewerSignal where
  /-- The queue may hold payloads, or its end. -/
  | queue
  | interval
  | shutdown
deriving DecidableEq, Repr

namespace Viewer

def frames (viewer : Viewer) (payloads : List String) : List Frame :=
  (framesFor viewer.filter viewer.envelope payloads).map .text

/-- Registers a viewer, and gives the frames of the stored messages. A store that fails gives
none. -/
def connect (settings : WebsocketSettings) (filter : Option String) (relay : Relay) :
    Viewer × List Frame × Relay :=
  let (id, hub) := relay.hub.subscribe
  let relay := { relay with hub := hub }
  let viewer : Viewer := ⟨id, filter, settings.envelope⟩
  match relay.history settings.historyLimit with
  | .ok (payloads, relay) => (viewer, viewer.frames payloads, relay)
  | .error _ => (viewer, [], relay)

/-- Reacts to a signal with frames, and says whether the connection goes on. -/
def step (viewer : Viewer) (relay : Relay) : ViewerSignal → List Frame × Bool × Relay
  | .shutdown => ([.close], false, relay)
  | .interval => ([.text keepalive, .ping []], true, relay)
  | .queue =>
      let (payloads, hub) := relay.hub.receiveAll viewer.id
      let relay := { relay with hub := hub }
      match relay.hub.find? viewer.id with
      | some subscriber =>
          if subscriber.registered then (viewer.frames payloads, true, relay)
          else (viewer.frames payloads ++ [.close], false, relay)
      | none => (viewer.frames payloads ++ [.close], false, relay)

/-- Ends a connection, whatever the reason. -/
def disconnect (viewer : Viewer) (relay : Relay) : Relay :=
  { relay with hub := (relay.hub.unsubscribe viewer.id).2.letGo viewer.id }

end Viewer

end LiveChat.Serve
