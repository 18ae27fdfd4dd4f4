import LiveChat.File
import LiveChat.Json.Decode
import LiveChat.Store.Row
import LiveChat.Text.Blank

/-!
# The file of the last position

The position up to which a tailer has read is kept in a file. It is written to a second file beside
it, which then takes its place, so that the file holds either the old position or the new one at any
moment. Whatever cannot be read counts as no position.
-/

namespace LiveChat.Store

open LiveChat.Text LiveChat.Json

def loadOffset (state : FileState) : Option Position :=
  match state.readText with
  | .error _ => none
  | .ok text =>
      match decodeText Position.decode (trimmed text) with
      | .ok position => some position
      | .error _ => none

def offsetText (position : Position) : String := position.toJson.text ++ "\n"

/-- The part of a disk where a position file stands. The target and the temporary file are two
different files, and neither name is a link to the other file. -/
structure OffsetDisk where
  /-- The directory of both files exists or can be made. -/
  hasDirectory : Bool
  target : FileState
  temporary : FileState

inductive OffsetStep where
  | makeDirectory
  | writeTemporary (bytes : ByteArray)
  | moveIntoPlace

namespace OffsetDisk

def empty : OffsetDisk := ⟨true, .absent, .absent⟩

def storeSteps (position : Position) : List OffsetStep :=
  [.makeDirectory, .writeTemporary (offsetText position).toUTF8, .moveIntoPlace]

def step (disk : OffsetDisk) : OffsetStep → Except String OffsetDisk
  | .makeDirectory =>
      if disk.hasDirectory then .ok disk else .error "Not a directory (os error 20)"
  | .writeTemporary bytes =>
      match disk.temporary with
      | .unreachable fault => .error fault.reason
      | .directory => .error "Is a directory (os error 21)"
      | _ => .ok { disk with temporary := .data bytes }
  | .moveIntoPlace =>
      match disk.temporary, disk.target with
      | .absent, _ => .error FileState.absentReason
      | .unreachable fault, _ => .error fault.reason
      | _, .unreachable fault => .error fault.reason
      | .data _, .directory => .error "Is a directory (os error 21)"
      | .directory, .data _ => .error "Not a directory (os error 20)"
      | moved, _ => .ok { disk with target := moved, temporary := .absent }

/-- Carries out steps up to the first that fails. -/
def run : List OffsetStep → OffsetDisk → Except String Unit × OffsetDisk
  | [], disk => (.ok (), disk)
  | first :: rest, disk =>
      match disk.step first with
      | .ok changed => run rest changed
      | .error reason => (.error reason, disk)

def store (disk : OffsetDisk) (position : Position) : Except String Unit × OffsetDisk :=
  run (storeSteps position) disk

def load (disk : OffsetDisk) : Option Position := loadOffset disk.target

end OffsetDisk

end LiveChat.Store
