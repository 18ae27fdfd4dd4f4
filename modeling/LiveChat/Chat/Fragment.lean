import LiveChat.Chat.Emote

/-!
# Fragments of a message

The pieces into which the text of a message is cut for display.
-/

namespace LiveChat.Chat

open LiveChat.Json

inductive FragmentKind where
  | text
  | colour
  | effect
  | pattern
  | emote
  | command
deriving DecidableEq, Repr

structure Fragment where
  kind : FragmentKind
  text : String
  emote : Option Emote
deriving DecidableEq, Repr

namespace FragmentKind

def label : FragmentKind → String
  | .text => "text"
  | .colour => "colour"
  | .effect => "effect"
  | .pattern => "pattern"
  | .emote => "emote"
  | .command => "command"

def all : List FragmentKind := [.text, .colour, .effect, .pattern, .emote, .command]

def decode : Outline → Decoded FragmentKind :=
  Outline.asVariant .json (all.map fun kind => (kind.label, kind))

end FragmentKind

namespace Fragment

def plain (kind : FragmentKind) (text : List Char) : Fragment := ⟨kind, String.ofList text, none⟩

def picture (text : List Char) (emote : Emote) : Fragment :=
  ⟨.emote, String.ofList text, some emote⟩

def toJson (fragment : Fragment) : Json :=
  .object
    ([("type", .string fragment.kind.label), ("text", .string fragment.text)] ++
      match fragment.emote with
      | none => []
      | some emote => [("emote", emote.toJson)])

def fields : List (RecordField Fragment) :=
  [ ⟨["type"], true, fun fragment found =>
      return { fragment with kind := ← FragmentKind.decode found }⟩,
    ⟨["text"], true, fun fragment found => return { fragment with text := ← found.asString }⟩,
    ⟨["emote"], false, fun fragment found =>
      return { fragment with emote := ← found.asOption Emote.decode }⟩ ]

def decode : Outline → Decoded Fragment :=
  decodeRecord .json "struct Token" fields ⟨.text, "", none⟩

end Fragment

end LiveChat.Chat
