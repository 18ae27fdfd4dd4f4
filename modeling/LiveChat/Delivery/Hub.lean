import LiveChat.Json.Basic

/-!
# The hub

Every viewer has a bounded queue of its own. A payload is offered to all of them at once: a full
queue loses it, and no queue waits for another. A viewer leaves when it is removed from the
registry, and still receives what was queued before; or it lets go of its queue, which the next
payload finds out.
-/

namespace LiveChat.Delivery

/-- A viewer that is in the registry or still has its queue. -/
structure Subscriber where
  id : Nat
  /-- Payloads are offered to the viewer. -/
  registered : Bool
  /-- The viewer can still receive. -/
  listening : Bool
  /-- The payloads that wait to be received, the oldest first. -/
  queue : List String
deriving DecidableEq, Repr

structure Hub where
  /-- The greatest length of a queue, at least one. -/
  capacity : Nat
  nextId : Nat
  /-- In the order in which they came. -/
  subscribers : List Subscriber
  /-- The number of payloads lost by full queues. -/
  dropped : Nat
deriving DecidableEq, Repr

structure PublishReport where
  delivered : Nat
  dropped : Nat
deriving DecidableEq, Repr

def PublishReport.toJson (report : PublishReport) : Json :=
  .object [("delivered", .ofNat report.delivered), ("dropped", .ofNat report.dropped)]

/-- What a viewer finds when it looks for a payload. -/
inductive Received where
  | payload (payload : String)
  | pending
  /-- Nothing, and nothing will come. -/
  | closed
deriving DecidableEq, Repr

def Received.toJson : Received → Json
  | .payload text => .object [("state", .string "payload"), ("payload", .string text)]
  | .pending => .object [("state", .string "pending")]
  | .closed => .object [("state", .string "closed")]

namespace Subscriber

/-- The name under which a viewer is reported. -/
def label (id : Nat) : String := "sub-" ++ String.ofList (Text.decimal id)

/-- A viewer to whom payloads are offered and who can receive them. -/
def isReachable (subscriber : Subscriber) : Bool := subscriber.registered && subscriber.listening

/-- A reachable viewer whose queue has room. -/
def accepts (capacity : Nat) (subscriber : Subscriber) : Bool :=
  subscriber.isReachable && subscriber.queue.length < capacity

def isFull (capacity : Nat) (subscriber : Subscriber) : Bool :=
  subscriber.isReachable && !(subscriber.queue.length < capacity)

/-- The viewer after a payload was offered. One that let go of its queue leaves the registry, and
nothing of it remains. -/
def offer (capacity : Nat) (payload : String) (subscriber : Subscriber) : Option Subscriber :=
  if subscriber.accepts capacity then
    some { subscriber with queue := subscriber.queue ++ [payload] }
  else if subscriber.registered && !subscriber.listening then none
  else some subscriber

/-- The viewer outside of the registry, as long as it still has its queue. -/
def deregister (subscriber : Subscriber) : Option Subscriber :=
  if subscriber.listening then some { subscriber with registered := false } else none

def letGo (subscriber : Subscriber) : Option Subscriber :=
  if subscriber.registered then some { subscriber with listening := false, queue := [] } else none

end Subscriber

namespace Hub

def defaultCapacity : Nat := 64

def withCapacity (capacity : Nat) : Hub := ⟨max capacity 1, 1, [], 0⟩

def empty : Hub := withCapacity defaultCapacity

/-- Registers a viewer under a fresh id. -/
def subscribe (hub : Hub) : Nat × Hub :=
  (hub.nextId,
    { hub with
      nextId := hub.nextId + 1
      subscribers := hub.subscribers ++ [⟨hub.nextId, true, true, []⟩] })

def find? (hub : Hub) (id : Nat) : Option Subscriber :=
  hub.subscribers.find? fun subscriber => subscriber.id == id

def listener? (hub : Hub) (id : Nat) : Option Subscriber :=
  (hub.find? id).filter Subscriber.listening

/-- Changes the viewer with an id, or takes it out. -/
def change (hub : Hub) (id : Nat) (step : Subscriber → Option Subscriber) : Hub :=
  { hub with
    subscribers := hub.subscribers.filterMap fun subscriber =>
      if subscriber.id = id then step subscriber else some subscriber }

/-- Removes a viewer from the registry, and says whether it was there. -/
def unsubscribe (hub : Hub) (id : Nat) : Bool × Hub :=
  match hub.find? id with
  | some subscriber =>
      if subscriber.registered then (true, hub.change id Subscriber.deregister) else (false, hub)
  | none => (false, hub)

def letGo (hub : Hub) (id : Nat) : Hub := hub.change id Subscriber.letGo

def publish (hub : Hub) (payload : String) : PublishReport × Hub :=
  let delivered := hub.subscribers.countP (Subscriber.accepts hub.capacity)
  let dropped := hub.subscribers.countP (Subscriber.isFull hub.capacity)
  (⟨delivered, dropped⟩,
    { hub with
      subscribers := hub.subscribers.filterMap (Subscriber.offer hub.capacity payload)
      dropped := hub.dropped + dropped })

def receive (hub : Hub) (id : Nat) : Received × Hub :=
  match hub.listener? id with
  | none => (.closed, hub)
  | some subscriber =>
      match subscriber.queue with
      | payload :: rest =>
          (.payload payload, hub.change id fun subscriber => some { subscriber with queue := rest })
      | [] => (if subscriber.registered then .pending else .closed, hub)

def receiveAll (hub : Hub) (id : Nat) : List String × Hub :=
  match hub.listener? id with
  | none => ([], hub)
  | some subscriber =>
      (subscriber.queue, hub.change id fun subscriber => some { subscriber with queue := [] })

def registeredCount (hub : Hub) : Nat := hub.subscribers.countP Subscriber.registered

def toJson (hub : Hub) : Json :=
  .object [("subscribers", .ofNat hub.registeredCount), ("dropped_total", .ofNat hub.dropped)]

/-- Removes everyone from the registry, and says how many there were. -/
def closeAll (hub : Hub) : Nat × Hub :=
  (hub.registeredCount, { hub with subscribers := hub.subscribers.filterMap Subscriber.deregister })

end Hub

end LiveChat.Delivery
