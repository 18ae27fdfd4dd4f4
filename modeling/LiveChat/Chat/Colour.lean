import LiveChat.Text.Ascii
import LiveChat.Text.Lowercase
import Std.Data.ExtTreeMap

/-!
# Colours of names

Each author has a colour: the one chosen with a command, or one from a palette that follows from the
name alone. Names count as equal if they agree after trimming and in lower case.
-/

namespace LiveChat.Chat

open LiveChat.Text

/-- The colours from which a name gets its own. -/
def palette : List String :=
  ["#f97316", "#22d3ee", "#c084fc", "#34d399", "#facc15", "#38bdf8", "#f472b6", "#a3e635"]

def anonymousColour : String := "#94a3b8"

/-- The 32-bit hash by Fowler, Noll and Vo in its variant 1a. -/
def fnv1a (bytes : List UInt8) : UInt32 :=
  bytes.foldl (fun hash byte => (hash ^^^ byte.toUInt32) * 0x01000193) 0x811c9dc5

def fallbackColour (name : String) : String :=
  let key := nameKey name
  if key = "" then anonymousColour
  else palette.getD ((fnv1a key.toUTF8.toList).toNat % palette.length) anonymousColour

/-- A number sign and three or six hexadecimal digits. -/
def isHexColour (value : String) : Bool :=
  match value.toList with
  | '#' :: digits => (digits.length == 3 || digits.length == 6) && digits.all isHexDigit
  | _ => false

structure ColourPreferences where
  byKey : Std.ExtTreeMap String String

namespace ColourPreferences

def empty : ColourPreferences := ⟨∅⟩

def get? (preferences : ColourPreferences) (author : String) : Option String :=
  preferences.byKey[nameKey author]?

def set (preferences : ColourPreferences) (author colour : String) : ColourPreferences :=
  ⟨preferences.byKey.insert (nameKey author) colour⟩

def clear (preferences : ColourPreferences) (author : String) : ColourPreferences :=
  ⟨preferences.byKey.erase (nameKey author)⟩

def size (preferences : ColourPreferences) : Nat := preferences.byKey.size

end ColourPreferences

end LiveChat.Chat
