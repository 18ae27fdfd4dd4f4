import LiveChat.Config.Settings

/-!
# Checking and completing settings

Before they are used, settings are checked in a fixed order and completed where something follows
from the rest. The first fault ends the work; what was completed before it stays.
-/

namespace LiveChat.Config

open LiveChat.Text

namespace Settings

/-- Zero stands for the usual interval and batch of the tailer, and its offsets are kept beside the
store unless a path is set. -/
def completeTailer (tailer : TailerSettings) (storePath : String) : TailerSettings :=
  { tailer with
    intervalMs := if tailer.intervalMs = 0 then 200 else tailer.intervalMs
    batch := if tailer.batch = 0 then 500 else tailer.batch
    offsetPath :=
      if tailer.persistOffsets ∧ tailer.offsetPath = none then some (storePath ++ ".offset.json")
      else tailer.offsetPath }

/-- The longest delay is at least the first one, and blank addresses are left out. -/
def completeIngest (ingest : IngestSettings) : IngestSettings :=
  { ingest with
    backoffMaxMs := max ingest.backoffMaxMs ingest.backoffBaseMs
    chatUrls := ingest.chatUrls.filter fun url => !isBlankText url }

/-- The settings that must not be zero, in the order in which they are checked. -/
def positiveKeys (websocket : WebsocketSettings) : List (String × Nat) :=
  [("websocket.queue_capacity", websocket.queueCapacity),
   ("websocket.ping_interval_ms", websocket.pingIntervalMs),
   ("websocket.pong_wait_ms", websocket.pongWaitMs),
   ("websocket.write_deadline_ms", websocket.writeDeadlineMs)]

def requirePositive : List (String × Nat) → Result Unit
  | [] => .ok ()
  | (key, value) :: rest =>
      if value = 0 then .error (.config (key ++ " must be positive")) else requirePositive rest

/-- Checks and completes the settings; `fallback` is the file of an ephemeral store for which no
path is set. The settings as far as they were completed are returned with the outcome. -/
def normalizeStep (settings : Settings) (fallback : String) : Result Unit × Settings :=
  match settings.storage.resolvedPath fallback, settings.storage.extraPragmas with
  | .error fault, _ => (.error fault, settings)
  | .ok _, .error fault => (.error fault, settings)
  | .ok storePath, .ok _ =>
      let settings := { settings with tailer := completeTailer settings.tailer storePath }
      match requirePositive [("ingest.backoff_base_ms", settings.ingest.backoffBaseMs)] with
      | .error fault => (.error fault, settings)
      | .ok _ =>
          let settings := { settings with ingest := completeIngest settings.ingest }
          (requirePositive (positiveKeys settings.websocket), settings)

def normalize (settings : Settings) (fallback : String) : Result Settings :=
  match settings.normalizeStep fallback with
  | (.ok _, completed) => .ok completed
  | (.error fault, _) => .error fault

end Settings

end LiveChat.Config
