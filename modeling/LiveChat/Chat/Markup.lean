import LiveChat.Chat.ColonSegments
import LiveChat.Chat.Fragment
import LiveChat.Text.Ascii

/-!
# Markup in front of a message

A message may begin with words that each end in a colon and say how the rest is shown: a colour, an
effect, or a pattern of eight letters and digits. A bare `pattern` is accepted and shows nothing.
The first thing that is no such word begins the body.
-/

namespace LiveChat.Chat

open LiveChat.Text

def colourWords : List String :=
  ["yellow", "red", "green", "cyan", "purple", "white", "glow1", "glow2", "glow3", "flash1",
   "flash2", "flash3", "rainbow"]

def effectWords : List String := ["wave", "wave2", "shake", "scroll", "slide"]

/-- A word of markup: the fragment that it shows, or none. -/
inductive Modifier where
  | shown (kind : FragmentKind) (text : List Char)
  | silent
deriving DecidableEq, Repr

namespace Modifier

/-- The eight letters or digits of a pattern. -/
def isPattern (slots : List Char) : Bool := byteLength slots == 8 && slots.all Char.isAlphanum

def ofWord? (word : List Char) : Option Modifier :=
  if colourWords.contains (String.ofList word) then some (.shown .colour word)
  else if effectWords.contains (String.ofList word) then some (.shown .effect word)
  else
    match dropBeginning? "pattern".toList word with
    | none => none
    | some slots =>
        if slots = [] then some .silent
        else if isPattern slots then some (.shown .pattern slots)
        else none

def fragments : Modifier → List Fragment
  | .shown kind text => [.plain kind text]
  | .silent => []

end Modifier

/-- The modifiers at the front of a text, and the body behind them without blanks at its front. -/
def takeModifiers (text : List Char) : List Modifier × List Char :=
  match _found : splitOnce ':' (trimStart text) with
  | none => ([], trimStart text)
  | some (word, tail) =>
      match Modifier.ofWord? word with
      | none => ([], trimStart text)
      | some modifier =>
          let (modifiers, body) := takeModifiers tail
          (modifier :: modifiers, body)
termination_by text.length
decreasing_by
  have shorter := length_of_splitOnce _found
  have within : (trimStart text).length ≤ text.length := (List.dropWhile_sublist isBlank).length_le
  omega

end LiveChat.Chat
