import LiveChat.Chat.Badge
import LiveChat.Chat.Fragment
import LiveChat.Chat.Platform
import LiveChat.Json.Printer

/-!
# Chat messages

`ChatMessage` is what viewers receive: its JSON text is the payload that is stored, broadcast and
replayed. `IncomingMessage` is what senders give: every field may be missing or have another name,
and emotes and badges are kept as they came, to be read one by one.
-/

namespace LiveChat.Chat

open LiveChat.Json LiveChat.Text

structure ChatMessage where
  author : String
  message : String
  fragments : List Fragment
  emotes : List Emote
  badges : List Badge
  source : Platform
  colour : String
deriving DecidableEq, Repr

namespace ChatMessage

def empty : ChatMessage := ⟨"", "", [], [], [], .unknown, ""⟩

def toJson (message : ChatMessage) : Json :=
  .object
    [("author", .string message.author), ("message", .string message.message),
     ("fragments", .array (message.fragments.map Fragment.toJson)),
     ("emotes", .array (message.emotes.map Emote.toJson)),
     ("badges", .array (message.badges.map Badge.toJson)),
     ("source", message.source.toJson), ("colour", .string message.colour)]

def fields : List (RecordField ChatMessage) :=
  [ ⟨["author"], false, fun message found => return { message with author := ← found.asString }⟩,
    ⟨["message"], false, fun message found => return { message with message := ← found.asString }⟩,
    ⟨["fragments"], false, fun message found =>
      return { message with fragments := ← found.asList Fragment.decode }⟩,
    ⟨["emotes"], false, fun message found =>
      return { message with emotes := ← found.asList Emote.decode }⟩,
    ⟨["badges"], false, fun message found =>
      return { message with badges := ← found.asList Badge.decode }⟩,
    ⟨["source"], false, fun message found =>
      return { message with source := ← Platform.decode found }⟩,
    ⟨["colour"], false, fun message found => return { message with colour := ← found.asString }⟩ ]

def decode : Outline → Decoded ChatMessage := decodeRecord .json "struct ChatMessage" fields empty

/-- The JSON text that viewers receive. -/
def payload (message : ChatMessage) : String := message.toJson.text

def ofPayload (payload : String) : Decoded ChatMessage := decodeText decode payload

end ChatMessage

structure IncomingMessage where
  author : Option String
  message : Option String
  source : Option String
  colour : Option String
  emotes : Json
  badges : Json
deriving Repr

namespace IncomingMessage

def empty : IncomingMessage := ⟨none, none, none, none, .null, .null⟩

/-- A value inside the message; the message itself is one level of nesting. -/
def decodeAttached (found : Outline) : Decoded Json := found.asValue (maxDepth - 1)

def fields : List (RecordField IncomingMessage) :=
  [ ⟨["author", "Author"], false, fun incoming found =>
      return { incoming with author := ← found.asOption Outline.asString }⟩,
    ⟨["message", "Message"], false, fun incoming found =>
      return { incoming with message := ← found.asOption Outline.asString }⟩,
    ⟨["source", "Source"], false, fun incoming found =>
      return { incoming with source := ← found.asOption Outline.asString }⟩,
    ⟨["colour", "color"], false, fun incoming found =>
      return { incoming with colour := ← found.asOption Outline.asString }⟩,
    ⟨["emotes"], false, fun incoming found =>
      return { incoming with emotes := ← decodeAttached found }⟩,
    ⟨["badges"], false, fun incoming found =>
      return { incoming with badges := ← decodeAttached found }⟩ ]

def decode : Outline → Decoded IncomingMessage :=
  decodeRecord .json "struct IncomingMessage" fields empty

/-- The items of an array that can be read, in order; anything else holds none. -/
def readEach {α : Type} (read? : Json → Option α) : Json → List α
  | .array items => items.filterMap read?
  | _ => []

/-- An attached emote, which must have a name that is not blank. -/
def readEmote? (value : Json) : Option Emote :=
  match Emote.decode value.outline with
  | .ok emote => if isBlankText emote.name then none else some emote
  | .error _ => none

def readEmotes (incoming : IncomingMessage) : List Emote := readEach readEmote? incoming.emotes

def readBadges (incoming : IncomingMessage) : List Badge := readEach Badge.ofJson? incoming.badges

end IncomingMessage

end LiveChat.Chat
