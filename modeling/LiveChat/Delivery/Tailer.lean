import LiveChat.Delivery.Relay
import LiveChat.Store.OffsetFile

/-!
# The tailer

Other programs write to the log as well. The tailer scans the log for rows behind its position and
offers their messages to the viewers, except for the rows whose ids are noted as sent. Its position
comes from a file, if it is kept in one, or from the end of the log. A failure of the store changes
nothing, and the scan is repeated.
-/

namespace LiveChat.Delivery

open LiveChat.Config LiveChat.Store

/-- The queries that a tailer makes. -/
structure TailSource where
  head : Result Position
  next : Position → Int → Result TailBatch

def TailSource.ofDatabase (database : Database) : TailSource :=
  ⟨database.tailHead, database.tailNext⟩

def TailSource.failing (failure : Failure) : TailSource :=
  ⟨.error failure, fun _ _ => .error failure⟩

inductive TailerPhase where
  | idle
  | seeking
  | polling
deriving DecidableEq, Repr

def TailerPhase.label : TailerPhase → String
  | .idle => "Idle"
  | .seeking => "Seeking"
  | .polling => "Polling"

structure Tailer where
  settings : TailerSettings
  position : Position
  phase : TailerPhase
deriving DecidableEq, Repr

namespace Relay

/-- Offers the message of a row to the viewers unless the row was sent, and says whether it did. -/
def publishRow (relay : Relay) (row : StoredMessage) : Bool × Relay :=
  if row.id = "" then (false, relay)
  else
    match relay.seen.insert row.id with
    | (false, _) => (false, relay)
    | (true, seen) =>
        match relay.enricher.rehydrate row with
        | (.ok message, enricher) =>
            (true, { relay with seen := seen, enricher := enricher }.publish message.payloadJson)
        | (.error _, enricher) => (false, { relay with seen := seen, enricher := enricher })

/-- Offers the messages of rows one after the other, and counts them. -/
def publishRows (relay : Relay) : List StoredMessage → Nat × Relay
  | [] => (0, relay)
  | row :: rest =>
      let (sent, relay) := relay.publishRow row
      let (count, relay) := relay.publishRows rest
      ((if sent then 1 else 0) + count, relay)

end Relay

/-- The outcome of one scan: the number of messages that it sent, and everything that it touches. -/
structure PollOutcome where
  sent : Result Nat
  tailer : Tailer
  relay : Relay
  offsets : OffsetDisk

namespace Tailer

def new (settings : TailerSettings) : Tailer := ⟨settings, .origin, .idle⟩

def keepsOffsets (tailer : Tailer) : Bool :=
  tailer.settings.persistOffsets && tailer.settings.offsetPath.isSome

/-- The position that the file gives. The origin gives none. -/
def resumed? (tailer : Tailer) (offsets : OffsetDisk) : Option Position :=
  if tailer.keepsOffsets then offsets.load.filter fun position => !position.isUnset else none

/-- The position to start at: the one of the file, or the end of the log. -/
def seek (tailer : Tailer) (source : TailSource) (offsets : OffsetDisk) : Result Position :=
  match tailer.resumed? offsets with
  | some position => .ok position
  | none => source.head

/-- The offsets after a position was reached. A file that cannot be written is left as it is. -/
def keep (tailer : Tailer) (offsets : OffsetDisk) : OffsetDisk :=
  if tailer.keepsOffsets then (offsets.store tailer.position).2 else offsets

/-- Makes one scan, and sends the messages of the rows that it finds. -/
def poll (tailer : Tailer) (source : TailSource) (relay : Relay) (offsets : OffsetDisk) :
    PollOutcome :=
  match source.next tailer.position (max tailer.settings.batch 1 : Nat) with
  | .error failure => ⟨.error failure, tailer, relay, offsets⟩
  | .ok batch =>
      if batch.messages = [] then ⟨.ok 0, tailer, relay, offsets⟩
      else
        let (sent, relay) := relay.publishRows batch.messages
        let tailer := { tailer with position := batch.last }
        ⟨.ok sent, tailer, relay, tailer.keep offsets⟩

def start (tailer : Tailer) : Tailer := { tailer with phase := .seeking }

def stop (tailer : Tailer) : Tailer := { tailer with phase := .idle }

def tick (tailer : Tailer) (source : TailSource) (relay : Relay) (offsets : OffsetDisk) :
    PollOutcome :=
  match tailer.phase with
  | .idle => ⟨.ok 0, tailer, relay, offsets⟩
  | .seeking =>
      match tailer.seek source offsets with
      | .ok position =>
          ⟨.ok 0, { tailer with position := position, phase := .polling }, relay, offsets⟩
      | .error failure => ⟨.error failure, tailer, relay, offsets⟩
  | .polling => tailer.poll source relay offsets

/-- Goes on with one more round on the database of the relay. -/
def advance (outcome : PollOutcome) : PollOutcome :=
  outcome.tailer.tick (.ofDatabase outcome.relay.database) outcome.relay outcome.offsets

/-- Makes as many rounds as there are rows, and two more: then everything that was in the log at the
beginning has been scanned. -/
def catchUp (outcome : PollOutcome) : PollOutcome :=
  (List.range (outcome.relay.database.tables.log.count + 2)).foldl
    (fun outcome _ => advance outcome) outcome

end Tailer

end LiveChat.Delivery
