import LiveChat.Config.Settings
import LiveChat.Ingest.Backoff
import LiveChat.Json.Printer

/-!
# Supervision of a harvester

A harvester is started, runs until it ends, and is started again after a delay. The delay starts
over after a healthy run: one that delivered a line or that lasted long enough. Cancelling ends the
supervision at any moment.
-/

namespace LiveChat.Ingest

open LiveChat.Config LiveChat.Time

inductive SourceSignal where
  | started (hasProcessId : Bool)
  | startFailed (reason : String)
  /-- The harvester ended, with an exit code unless a signal killed it. -/
  | ended (code : Option Int) (delivered : Nat) (uptime : Duration)
  /-- The delay is over, or somebody asked for a restart during it. -/
  | resumed
  | cancelled
deriving DecidableEq, Repr

inductive RunOutcome where
  | startFailed (reason : String)
  | ended (code : Option Int) (delivered : Nat) (uptime : Duration)
deriving DecidableEq, Repr

def RunOutcome.signals : RunOutcome → List SourceSignal
  | .startFailed reason => [.startFailed reason]
  | .ended code delivered uptime => [.started true, .ended code delivered uptime]

/-- The signals of some attempts with their delays in between. -/
def signalsOf (runs : List RunOutcome) : List SourceSignal :=
  [.resumed].intercalate (runs.map RunOutcome.signals)

inductive SourceEvent where
  | started (hasProcessId : Bool)
  | startFailed (reason : String)
  | exited (code : Option Int) (healthy : Bool)
  | backingOff (delay : Duration)
  | stopped
deriving DecidableEq, Repr

def SourceEvent.toJson (url : String) : SourceEvent → Json
  | .started hasProcessId =>
      .object [("event", .string "Started"), ("url", .string url), ("pid", .bool hasProcessId)]
  | .startFailed reason =>
      .object
        [("event", .string "SpawnFailed"), ("url", .string url), ("message", .string reason)]
  | .exited code healthy =>
      .object
        [("event", .string "Exited"), ("url", .string url), ("code", .ofOption .ofInt code),
         ("healthy", .bool healthy)]
  | .backingOff delay =>
      .object
        [("event", .string "BackingOff"), ("url", .string url),
         ("delay_ms", .ofNat (Duration.toMillis delay))]
  | .stopped => .object [("event", .string "Stopped"), ("url", .string url)]

inductive SourcePhase where
  | starting
  | running
  | waiting
  | stopped
deriving DecidableEq, Repr

structure Source where
  healthyAfter : Duration
  backoff : Backoff
  phase : SourcePhase
deriving DecidableEq, Repr

namespace Source

def new (base ceiling healthyAfter : Duration) : Source :=
  ⟨healthyAfter, .new base ceiling, .starting⟩

def ofSettings (settings : IngestSettings) : Source :=
  new settings.backoffBase settings.backoffMax settings.healthyAfter

/-- A run that delivered a line or lasted long enough. -/
def isHealthy (source : Source) (delivered : Nat) (uptime : Duration) : Bool :=
  0 < delivered || source.healthyAfter ≤ uptime

def backOff (source : Source) : Duration × Source :=
  let (delay, backoff) := source.backoff.take
  (delay, { source with backoff := backoff, phase := .waiting })

/-- Reacts to a signal. A signal that does not fit the phase has no effect. -/
def step (source : Source) (signal : SourceSignal) : List SourceEvent × Source :=
  match source.phase, signal with
  | .stopped, _ => ([], source)
  | _, .cancelled => ([.stopped], { source with phase := .stopped })
  | .starting, .started hasProcessId =>
      ([.started hasProcessId], { source with phase := .running })
  | .starting, .startFailed reason =>
      let (delay, source) := source.backOff
      ([.startFailed reason, .backingOff delay], source)
  | .running, .ended code delivered uptime =>
      let healthy := source.isHealthy delivered uptime
      let source := if healthy then { source with backoff := source.backoff.reset } else source
      let (delay, source) := source.backOff
      ([.exited code healthy, .backingOff delay], source)
  | .waiting, .resumed => ([], { source with phase := .starting })
  | _, _ => ([], source)

/-- Reacts to signals one after the other, and collects what the source tells. -/
def run (source : Source) : List SourceSignal → List SourceEvent × Source
  | [] => ([], source)
  | signal :: rest =>
      let (events, source) := source.step signal
      let (later, source) := source.run rest
      (events ++ later, source)

end Source

end LiveChat.Ingest
