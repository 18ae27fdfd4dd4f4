import LiveChat.Error

/-!
# Files, as far as reading them goes

What stands at a path, and why reading it as text can fail.
-/

namespace LiveChat

/-- Why a path leads nowhere, other than that nothing stands at its end. -/
inductive PathFault where
  /-- Something that is no directory stands on the way. -/
  | notDirectory
  | nameTooLong
  /-- The path holds the character that ends a path. -/
  | holdsNul
deriving DecidableEq, Repr

def PathFault.reason : PathFault → String
  | .notDirectory => "Not a directory (os error 20)"
  | .nameTooLong => "File name too long (os error 36)"
  | .holdsNul => "file name contained an unexpected NUL byte"

/-- What stands at a path. -/
inductive FileState where
  | absent
  /-- The path leads nowhere. -/
  | unreachable (fault : PathFault)
  | directory
  | data (bytes : ByteArray)

namespace FileState

def ofText (text : String) : FileState := .data text.toUTF8

def isAbsent : FileState → Bool
  | .absent => true
  | .unreachable _ => true
  | _ => false

/-- What the system says where nothing is. -/
def absentReason : String := "No such file or directory (os error 2)"

def readText : FileState → Except String String
  | .absent => .error absentReason
  | .unreachable fault => .error fault.reason
  | .directory => .error "Is a directory (os error 21)"
  | .data bytes =>
      match String.fromUTF8? bytes with
      | some text => .ok text
      | none => .error "stream did not contain valid UTF-8"

end FileState

end LiveChat
