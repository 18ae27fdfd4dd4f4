import LiveChat.Error
import LiveChat.Json.Decode
import LiveChat.Json.Printer
import LiveChat.Text.Blank
import LiveChat.Time.Duration

/-!
# Settings

Everything an operator can set, in six sections, with the values that hold where nothing is said.
Spans are in milliseconds and below `2 ^ 64`.
-/

namespace LiveChat.Config

open LiveChat.Text LiveChat.Time LiveChat.Json

structure ServerSettings where
  bindAddr : String
  port : Nat
  /-- The origins from which viewers may connect; none given means all. -/
  allowedOrigins : List String
  shutdownGraceMs : Nat
deriving DecidableEq, Repr

/-- Where messages are kept: in a file that goes away with the process, or in one that stays. -/
inductive StorageMode where
  | ephemeral
  | persistent
deriving DecidableEq, Repr

structure StorageSettings where
  mode : StorageMode
  path : Option String
  maxConnections : Nat
  busyTimeoutMs : Nat
  pragmas : List String
deriving DecidableEq, Repr

structure TailerSettings where
  enabled : Bool
  intervalMs : Nat
  batch : Nat
  maxLagMs : Nat
  persistOffsets : Bool
  offsetPath : Option String
deriving DecidableEq, Repr

structure IngestSettings where
  chatUrls : List String
  bin : String
  args : List String
  backoffBaseMs : Nat
  backoffMaxMs : Nat
  healthyAfterMs : Nat
deriving DecidableEq, Repr

structure WebsocketSettings where
  pingIntervalMs : Nat
  pongWaitMs : Nat
  writeDeadlineMs : Nat
  maxMessageBytes : Nat
  historyLimit : Nat
  queueCapacity : Nat
  envelope : Bool
deriving DecidableEq, Repr

structure ChatSettings where
  stripYouTubeAt : Bool
  showBadges : Bool
  helpCooldownMs : Nat
  emotesFile : Option String
deriving DecidableEq, Repr

structure Settings where
  server : ServerSettings
  storage : StorageSettings
  tailer : TailerSettings
  ingest : IngestSettings
  websocket : WebsocketSettings
  chat : ChatSettings
deriving DecidableEq, Repr

namespace StorageMode

def label : StorageMode → String
  | .ephemeral => "ephemeral"
  | .persistent => "persistent"

def all : List StorageMode := [.ephemeral, .persistent]

/-- Reads a mode as an operator types it: in any case of ASCII letters, with blanks around it, and
nothing at all for the ephemeral mode. -/
def ofText (text : String) : Result StorageMode :=
  match asciiLower (trimmed text) with
  | "" => .ok .ephemeral
  | "ephemeral" => .ok .ephemeral
  | "persistent" => .ok .persistent
  | other => .error (.config ("unknown storage mode '" ++ other ++ "'"))

def toJson (mode : StorageMode) : Json := .string mode.label

def decode (dialect : Dialect) : Outline → Decoded StorageMode :=
  Outline.asVariant dialect (all.map fun mode => (mode.label, mode))

end StorageMode

namespace ServerSettings

def default : ServerSettings := ⟨"0.0.0.0", 8080, [], 5000⟩

def shutdownGrace (server : ServerSettings) : Duration := .ofMillis server.shutdownGraceMs

end ServerSettings

namespace StorageSettings

def default : StorageSettings := ⟨.ephemeral, none, 16, 5000, []⟩

def busyTimeout (storage : StorageSettings) : Duration := .ofMillis storage.busyTimeoutMs

/-- The file of an ephemeral store for which no path is set. -/
def ephemeralPath (tempDirectory processId : String) : String :=
  tempDirectory ++ "/chatmux-" ++ processId ++ ".db"

/-- The file of the store; `fallback` serves an ephemeral store for which no path is set. -/
def resolvedPath (storage : StorageSettings) (fallback : String) : Result String :=
  match storage.mode, storage.path with
  | _, some path => .ok path
  | .ephemeral, none => .ok fallback
  | .persistent, none => .error (.config "persistent storage requires storage.path")

/-- Letters and digits of ASCII, and the underscore. -/
def isPragmaKeyChar (char : Char) : Bool := char.isAlphanum || char = '_'

def isPragmaValueChar (char : Char) : Bool := isPragmaKeyChar char || char = '-' || char = '.'

def readPragma (entry : String) : Result (String × String) :=
  match splitOnce '=' entry.toList with
  | none => .error (.config ("pragma '" ++ entry ++ "' is not key=value"))
  | some (left, right) =>
      let key := trim left
      let value := trim right
      if key = [] ∨ value = [] then
        .error (.config ("pragma '" ++ entry ++ "' is not key=value"))
      else if !(key.all isPragmaKeyChar && value.all isPragmaValueChar) then
        .error (.config ("pragma '" ++ entry ++ "' has unsupported characters"))
      else .ok (String.ofList key, String.ofList value)

/-- All further settings of the store; the first faulty one decides. -/
def extraPragmas (storage : StorageSettings) : Result (List (String × String)) :=
  storage.pragmas.mapM readPragma

end StorageSettings

namespace TailerSettings

def default : TailerSettings := ⟨false, 1000, 200, 0, false, none⟩

def interval (tailer : TailerSettings) : Duration := .ofMillis (max tailer.intervalMs 1)

/-- How old a row may become before it counts as late, if that is of interest. -/
def maxLag? (tailer : TailerSettings) : Option Duration :=
  if 0 < tailer.maxLagMs then some (.ofMillis tailer.maxLagMs) else none

end TailerSettings

namespace IngestSettings

def default : IngestSettings := ⟨[], "gnasty", [], 1000, 30000, 5000⟩

def backoffBase (ingest : IngestSettings) : Duration := .ofMillis ingest.backoffBaseMs

def backoffMax (ingest : IngestSettings) : Duration := .ofMillis ingest.backoffMaxMs

def healthyAfter (ingest : IngestSettings) : Duration := .ofMillis ingest.healthyAfterMs

end IngestSettings

namespace WebsocketSettings

def default : WebsocketSettings := ⟨25000, 30000, 5000, 131072, 100, 64, true⟩

def pingInterval (websocket : WebsocketSettings) : Duration :=
  .ofMillis (max websocket.pingIntervalMs 1)

def pongWait (websocket : WebsocketSettings) : Duration := .ofMillis (max websocket.pongWaitMs 1)

def writeDeadline (websocket : WebsocketSettings) : Duration :=
  .ofMillis (max websocket.writeDeadlineMs 1)

end WebsocketSettings

namespace ChatSettings

def default : ChatSettings := ⟨true, true, 10000, none⟩

def helpCooldown (chat : ChatSettings) : Duration := .ofMillis chat.helpCooldownMs

end ChatSettings

namespace Settings

def default : Settings := ⟨.default, .default, .default, .default, .default, .default⟩

def spans (settings : Settings) : List (String × Option Duration) :=
  [("shutdown_grace", some settings.server.shutdownGrace),
   ("busy_timeout", some settings.storage.busyTimeout),
   ("tailer_interval", some settings.tailer.interval), ("max_lag", settings.tailer.maxLag?),
   ("backoff_base", some settings.ingest.backoffBase),
   ("backoff_max", some settings.ingest.backoffMax),
   ("healthy_after", some settings.ingest.healthyAfter),
   ("ping_interval", some settings.websocket.pingInterval),
   ("pong_wait", some settings.websocket.pongWait),
   ("write_deadline", some settings.websocket.writeDeadline),
   ("help_cooldown", some settings.chat.helpCooldown)]

/-- The settings without the arguments of the harvester, which may hold secrets. -/
def redacted (settings : Settings) : Settings :=
  { settings with ingest.args := settings.ingest.args.map fun _ => "***" }

end Settings

end LiveChat.Config
