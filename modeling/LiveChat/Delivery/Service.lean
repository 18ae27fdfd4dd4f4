import LiveChat.Delivery.Tailer

/-!
# The service

A service is a relay together with the place of its store, a tailer that follows the store, and the
file of the tailer's position. The store is opened, closed and opened again, and what it holds
outlasts that unless the store is ephemeral.
-/

namespace LiveChat.Delivery

open LiveChat.Config LiveChat.Store

structure Service where
  storage : StorageSettings
  tailing : TailerSettings
  /-- What stands at the place of the store while it is closed. -/
  site : StoreSite
  isOpen : Bool
  relay : Relay
  tailer : Option Tailer
  offsets : OffsetDisk

namespace Service

/-- A service whose store was never opened. -/
def new (storage : StorageSettings) (tailing : TailerSettings) (relay : Relay) : Service :=
  ⟨storage, tailing, .absent, false, relay, none, .empty⟩

def database (service : Service) : Database := service.relay.database

def withDatabase (service : Service) (database : Database) : Service :=
  { service with relay := { service.relay with database := database } }

def currentSite (service : Service) : StoreSite :=
  if service.isOpen then .store service.database.tables else service.site

/-- Opens the store. `fallback` is the path of an ephemeral store for which none is set. -/
def openStore (service : Service) (fallback : String) : Result Unit × Service :=
  match Database.openAt service.storage fallback service.currentSite with
  | .ok database => (.ok (), { service.withDatabase database with isOpen := true })
  | .error failure => (.error failure, { service with isOpen := false })

def closeStore (service : Service) : Service :=
  { service with isOpen := false, site := service.database.close, tailer := none }

def renewTailer (service : Service) : Tailer × Service :=
  let tailer := Tailer.new service.tailing
  (tailer, { service with tailer := some tailer })

/-- Polls the tailer, if there is one. With a failure given, the store fails in just this way. -/
def poll (service : Service) (failure : Option Failure) :
    Option ((Result Nat × Position) × Service) :=
  service.tailer.map fun tailer =>
    let source : TailSource :=
      match failure with
      | some failure => .failing failure
      | none => .ofDatabase service.database
    let outcome := tailer.poll source service.relay service.offsets
    ((outcome.sent, outcome.tailer.position),
      { service with
        relay := outcome.relay, tailer := some outcome.tailer, offsets := outcome.offsets })

/-- Runs a fresh tailer until it has caught up, adds rows for another program, lets the tailer catch
up with them and stops it. The two phases are the one while it ran and the one afterwards. -/
def follow (service : Service) (rows : List StoredMessage) :
    (TailerPhase × TailerPhase) × Service :=
  let first := Tailer.catchUp
    ⟨.ok 0, (Tailer.new service.tailing).start, service.relay, service.offsets⟩
  let database := (first.relay.database.insertEach rows).2
  let second := Tailer.catchUp { first with relay := { first.relay with database := database } }
  ((second.tailer.phase, second.tailer.stop.phase),
    { service with relay := second.relay, offsets := second.offsets })

end Service

end LiveChat.Delivery
