import LiveChat.Config.Settings

/-!
# Settings as data

Every section may be missing and may leave out fields, and unknown fields are passed over. Settings
are written out with all fields; a path that is not set is null.
-/

namespace LiveChat.Config

open LiveChat.Json

def encodeTexts (texts : List String) : Json := .array (texts.map .string)

/-- A number of milliseconds. -/
def decodeLong : Outline → Decoded Nat := Outline.asNatural UInt64.size "u64"

/-- A number of bytes or payloads. -/
def decodeSize : Outline → Decoded Nat := Outline.asNatural UInt64.size "usize"

def decodeTexts : Outline → Decoded (List String) := Outline.asList Outline.asString

def decodePath : Outline → Decoded (Option String)
  | .null => .ok none
  | .string (some path) => .ok (some path)
  | other => .error (other.mismatch "path string")

namespace ServerSettings

def toJson (server : ServerSettings) : Json :=
  .object
    [("bind_addr", .string server.bindAddr), ("port", .ofNat server.port),
     ("allowed_origins", encodeTexts server.allowedOrigins),
     ("shutdown_grace_ms", .ofNat server.shutdownGraceMs)]

def fields : List (RecordField ServerSettings) :=
  [ ⟨["bind_addr"], false, fun server found =>
      return { server with bindAddr := ← found.asString }⟩,
    ⟨["port"], false, fun server found =>
      return { server with port := ← found.asNatural UInt16.size "u16" }⟩,
    ⟨["allowed_origins"], false, fun server found =>
      return { server with allowedOrigins := ← decodeTexts found }⟩,
    ⟨["shutdown_grace_ms"], false, fun server found =>
      return { server with shutdownGraceMs := ← decodeLong found }⟩ ]

def decode (dialect : Dialect) : Outline → Decoded ServerSettings :=
  decodeRecord dialect "struct ServerConfig" fields default

end ServerSettings

namespace StorageSettings

def toJson (storage : StorageSettings) : Json :=
  .object
    [("mode", storage.mode.toJson), ("path", .ofOption .string storage.path),
     ("max_connections", .ofNat storage.maxConnections),
     ("busy_timeout_ms", .ofNat storage.busyTimeoutMs), ("pragmas", encodeTexts storage.pragmas)]

def fields (dialect : Dialect) : List (RecordField StorageSettings) :=
  [ ⟨["mode"], false, fun storage found =>
      return { storage with mode := ← StorageMode.decode dialect found }⟩,
    ⟨["path"], false, fun storage found => return { storage with path := ← decodePath found }⟩,
    ⟨["max_connections"], false, fun storage found =>
      return { storage with maxConnections := ← found.asNatural UInt32.size "u32" }⟩,
    ⟨["busy_timeout_ms"], false, fun storage found =>
      return { storage with busyTimeoutMs := ← decodeLong found }⟩,
    ⟨["pragmas"], false, fun storage found =>
      return { storage with pragmas := ← decodeTexts found }⟩ ]

def decode (dialect : Dialect) : Outline → Decoded StorageSettings :=
  decodeRecord dialect "struct StorageConfig" (fields dialect) default

end StorageSettings

namespace TailerSettings

def toJson (tailer : TailerSettings) : Json :=
  .object
    [("enabled", .bool tailer.enabled), ("interval_ms", .ofNat tailer.intervalMs),
     ("batch", .ofNat tailer.batch), ("max_lag_ms", .ofNat tailer.maxLagMs),
     ("persist_offsets", .bool tailer.persistOffsets),
     ("offset_path", .ofOption .string tailer.offsetPath)]

def fields : List (RecordField TailerSettings) :=
  [ ⟨["enabled"], false, fun tailer found => return { tailer with enabled := ← found.asBool }⟩,
    ⟨["interval_ms"], false, fun tailer found =>
      return { tailer with intervalMs := ← decodeLong found }⟩,
    ⟨["batch"], false, fun tailer found =>
      return { tailer with batch := ← found.asNatural UInt32.size "u32" }⟩,
    ⟨["max_lag_ms"], false, fun tailer found =>
      return { tailer with maxLagMs := ← decodeLong found }⟩,
    ⟨["persist_offsets"], false, fun tailer found =>
      return { tailer with persistOffsets := ← found.asBool }⟩,
    ⟨["offset_path"], false, fun tailer found =>
      return { tailer with offsetPath := ← decodePath found }⟩ ]

def decode (dialect : Dialect) : Outline → Decoded TailerSettings :=
  decodeRecord dialect "struct TailerConfig" fields default

end TailerSettings

namespace IngestSettings

def toJson (ingest : IngestSettings) : Json :=
  .object
    [("chat_urls", encodeTexts ingest.chatUrls), ("bin", .string ingest.bin),
     ("args", encodeTexts ingest.args), ("backoff_base_ms", .ofNat ingest.backoffBaseMs),
     ("backoff_max_ms", .ofNat ingest.backoffMaxMs),
     ("healthy_after_ms", .ofNat ingest.healthyAfterMs)]

def fields : List (RecordField IngestSettings) :=
  [ ⟨["chat_urls"], false, fun ingest found =>
      return { ingest with chatUrls := ← decodeTexts found }⟩,
    ⟨["bin"], false, fun ingest found => return { ingest with bin := ← found.asString }⟩,
    ⟨["args"], false, fun ingest found => return { ingest with args := ← decodeTexts found }⟩,
    ⟨["backoff_base_ms"], false, fun ingest found =>
      return { ingest with backoffBaseMs := ← decodeLong found }⟩,
    ⟨["backoff_max_ms"], false, fun ingest found =>
      return { ingest with backoffMaxMs := ← decodeLong found }⟩,
    ⟨["healthy_after_ms"], false, fun ingest found =>
      return { ingest with healthyAfterMs := ← decodeLong found }⟩ ]

def decode (dialect : Dialect) : Outline → Decoded IngestSettings :=
  decodeRecord dialect "struct IngestConfig" fields default

end IngestSettings

namespace WebsocketSettings

def toJson (websocket : WebsocketSettings) : Json :=
  .object
    [("ping_interval_ms", .ofNat websocket.pingIntervalMs),
     ("pong_wait_ms", .ofNat websocket.pongWaitMs),
     ("write_deadline_ms", .ofNat websocket.writeDeadlineMs),
     ("max_message_bytes", .ofNat websocket.maxMessageBytes),
     ("history_limit", .ofNat websocket.historyLimit),
     ("queue_capacity", .ofNat websocket.queueCapacity), ("envelope", .bool websocket.envelope)]

def fields : List (RecordField WebsocketSettings) :=
  [ ⟨["ping_interval_ms"], false, fun websocket found =>
      return { websocket with pingIntervalMs := ← decodeLong found }⟩,
    ⟨["pong_wait_ms"], false, fun websocket found =>
      return { websocket with pongWaitMs := ← decodeLong found }⟩,
    ⟨["write_deadline_ms"], false, fun websocket found =>
      return { websocket with writeDeadlineMs := ← decodeLong found }⟩,
    ⟨["max_message_bytes"], false, fun websocket found =>
      return { websocket with maxMessageBytes := ← decodeSize found }⟩,
    ⟨["history_limit"], false, fun websocket found =>
      return { websocket with historyLimit := ← found.asNatural UInt32.size "u32" }⟩,
    ⟨["queue_capacity"], false, fun websocket found =>
      return { websocket with queueCapacity := ← decodeSize found }⟩,
    ⟨["envelope"], false, fun websocket found =>
      return { websocket with envelope := ← found.asBool }⟩ ]

def decode (dialect : Dialect) : Outline → Decoded WebsocketSettings :=
  decodeRecord dialect "struct WebsocketConfig" fields default

end WebsocketSettings

namespace ChatSettings

def toJson (chat : ChatSettings) : Json :=
  .object
    [("strip_youtube_at", .bool chat.stripYouTubeAt), ("show_badges", .bool chat.showBadges),
     ("help_cooldown_ms", .ofNat chat.helpCooldownMs),
     ("emotes_file", .ofOption .string chat.emotesFile)]

def fields : List (RecordField ChatSettings) :=
  [ ⟨["strip_youtube_at"], false, fun chat found =>
      return { chat with stripYouTubeAt := ← found.asBool }⟩,
    ⟨["show_badges"], false, fun chat found => return { chat with showBadges := ← found.asBool }⟩,
    ⟨["help_cooldown_ms"], false, fun chat found =>
      return { chat with helpCooldownMs := ← decodeLong found }⟩,
    ⟨["emotes_file"], false, fun chat found =>
      return { chat with emotesFile := ← decodePath found }⟩ ]

def decode (dialect : Dialect) : Outline → Decoded ChatSettings :=
  decodeRecord dialect "struct ChatConfig" fields default

end ChatSettings

namespace Settings

def toJson (settings : Settings) : Json :=
  .object
    [("server", settings.server.toJson), ("storage", settings.storage.toJson),
     ("tailer", settings.tailer.toJson), ("ingest", settings.ingest.toJson),
     ("websocket", settings.websocket.toJson), ("chat", settings.chat.toJson)]

def fields (dialect : Dialect) : List (RecordField Settings) :=
  [ ⟨["server"], false, fun settings found =>
      return { settings with server := ← ServerSettings.decode dialect found }⟩,
    ⟨["storage"], false, fun settings found =>
      return { settings with storage := ← StorageSettings.decode dialect found }⟩,
    ⟨["tailer"], false, fun settings found =>
      return { settings with tailer := ← TailerSettings.decode dialect found }⟩,
    ⟨["ingest"], false, fun settings found =>
      return { settings with ingest := ← IngestSettings.decode dialect found }⟩,
    ⟨["websocket"], false, fun settings found =>
      return { settings with websocket := ← WebsocketSettings.decode dialect found }⟩,
    ⟨["chat"], false, fun settings found =>
      return { settings with chat := ← ChatSettings.decode dialect found }⟩ ]

def decode (dialect : Dialect) : Outline → Decoded Settings :=
  decodeRecord dialect "struct RelayConfig" (fields dialect) default

end Settings

end LiveChat.Config
