import LiveChat.Chat.EmoteFile
import LiveChat.CommandLine
import LiveChat.Config.Load
import LiveChat.Config.Normalize
import LiveChat.Delivery.Service
import LiveChat.Ingest.Lines
import LiveChat.Serve.Viewer

/-!
# The program

One sender writes to standard input, a JSON object per line, and one viewer reads frames from
standard output. The rows are kept as long as the program runs, so that a count serves as their ids
and a clock that starts anywhere as their time.
-/

namespace LiveChat.Program

open LiveChat.Chat LiveChat.Config LiveChat.Delivery LiveChat.Ingest LiveChat.Serve LiveChat.Store
  LiveChat.Time

def lookAt (path : String) : IO FileState := do
  try
    return .data (← IO.FS.readBinFile path)
  catch
    | .noFileOrDirectory .. => return .absent
    | _ => return .directory

def settingsOf (arguments : CommandLine.Arguments) : IO (Result Settings) := do
  let named ← arguments.config.mapM fun path => do return (path, ← lookAt path)
  let paths := usualPaths (← IO.getEnv "XDG_CONFIG_HOME") (← IO.getEnv "HOME")
  let usual ← paths.mapM fun path => do return (path, ← lookAt path)
  return do
    let settings ← Settings.load named usual
    (arguments.apply settings).normalize (StorageSettings.ephemeralPath "/tmp" "0")

def relayOf (settings : Settings) (database : Database) : IO Relay := do
  let enricher := Enricher.ofSettings settings.chat
  let hub := Hub.withCapacity settings.websocket.queueCapacity
  let relay := Relay.new database enricher hub .empty
  match settings.chat.emotesFile with
  | none => return relay
  | some path =>
      match enricher.emotes.loadFile (← lookAt path) with
      | .ok (_, emotes) => return { relay with enricher := { enricher with emotes := emotes } }
      | .error failure =>
          IO.eprintln failure.message
          return relay

def stampNow : IO (Nat → Stamp) := do
  let now ← IO.monoNanosNow
  return fun count => ⟨"message-" ++ toString count, (Timestamp.ofNanos now).truncated, now⟩

def printFrames (frames : List Frame) : IO Unit :=
  frames.forM fun frame =>
    match frame with
    | .text text => IO.println text
    | _ => return ()

partial def relayLines (viewer : Viewer) (feed : Feed) : IO Unit := do
  let line ← (← IO.getStdin).getLine
  if line.isEmpty then return
  let stamp ← stampNow
  let feed := feed.stream "" stamp line.toUTF8.toList
  let (frames, goesOn, relay) := viewer.step feed.relay .queue
  printFrames frames
  if goesOn then relayLines viewer { feed with relay := relay }

def serve (settings : Settings) : IO UInt32 := do
  let relay ← relayOf settings (.unopened "")
  let service := Service.new settings.storage settings.tailer relay
  match service.openStore (StorageSettings.ephemeralPath "/tmp" "0") with
  | (.error failure, _) =>
      IO.eprintln failure.message
      return 1
  | (.ok _, service) =>
      let (viewer, frames, relay) := Viewer.connect settings.websocket none service.relay
      printFrames frames
      relayLines viewer ⟨relay, 0⟩
      return 0

end LiveChat.Program

open LiveChat in
def main (words : List String) : IO UInt32 := do
  let environment ← CommandLine.Flag.all.mapM fun flag => do
    return (flag.environmentName, ← IO.getEnv flag.environmentName)
  match CommandLine.read words fun name => (environment.lookup name).join with
  | .error .displayVersion =>
      IO.println Serve.version
      return 0
  | .error .displayHelp =>
      IO.println CommandLine.helpText
      return 0
  | .error fault =>
      IO.eprintln ("usage: " ++ fault.kind)
      return 2
  | .ok arguments =>
      match ← Program.settingsOf arguments with
      | .error failure =>
          IO.eprintln failure.message
          return 1
      | .ok settings => Program.serve settings
