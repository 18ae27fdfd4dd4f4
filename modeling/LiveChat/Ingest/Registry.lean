import LiveChat.Ingest.Supervisor
import LiveChat.Text.Blank

/-!
# All supervised sources

Each address is supervised once. An address is filed without the blanks around it, and must be given
just so to be restarted or stopped. When everything is cancelled the sources stop but stay on file;
only then can an address on file be supervised anew.
-/

namespace LiveChat.Ingest

open LiveChat.Config LiveChat.Text

structure Supervised where
  url : String
  source : Source
deriving DecidableEq, Repr

structure Registry where
  settings : IngestSettings
  /-- Everything is cancelled, and so is whatever starts later. -/
  cancelled : Bool
  entries : List Supervised
deriving DecidableEq, Repr

namespace Registry

def new (settings : IngestSettings) : Registry := ⟨settings, false, []⟩

def contains (registry : Registry) (url : String) : Bool :=
  registry.entries.any fun entry => entry.url == url

def isRunning (registry : Registry) (url : String) : Bool :=
  registry.entries.any fun entry => entry.url == url && entry.source.phase != .stopped

def remove (registry : Registry) (url : String) : Registry :=
  { registry with entries := registry.entries.filter fun entry => entry.url != url }

def firstSource (registry : Registry) : Source :=
  let source := Source.ofSettings registry.settings
  if registry.cancelled then (source.step .cancelled).2 else source

/-- Supervises an address, and says whether that is new. -/
def spawn (registry : Registry) (url : String) : Bool × Registry :=
  let url := trimmed url
  if url = "" ∨ registry.isRunning url then (false, registry)
  else
    let kept := registry.remove url
    (true, { kept with entries := kept.entries ++ [⟨url, registry.firstSource⟩] })

/-- Supervises addresses, and counts those that are new. -/
def spawnAll (registry : Registry) : List String → Nat × Registry
  | [] => (0, registry)
  | url :: rest =>
      let (isNew, registry) := registry.spawn url
      let (count, registry) := registry.spawnAll rest
      ((if isNew then 1 else 0) + count, registry)

def stop (registry : Registry) (url : String) : Bool × Registry :=
  (registry.contains url, registry.remove url)

def shutdown (registry : Registry) : Registry := { registry with entries := [] }

def cancel (registry : Registry) : Registry :=
  { registry with
    cancelled := true
    entries := registry.entries.map fun entry =>
      { entry with source := (entry.source.step .cancelled).2 } }

/-- The addresses on file in ascending order. -/
def sources (registry : Registry) : List String :=
  (registry.entries.map Supervised.url).mergeSort

end Registry

end LiveChat.Ingest
