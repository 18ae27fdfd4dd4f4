import LiveChat.Chat.Command
import LiveChat.Chat.Tokenizer
import LiveChat.Config.Settings
import LiveChat.Store.Row

/-!
# From what senders give to what viewers receive

An incoming message is cleaned up, cut into fragments and given a colour. The same steps rebuild a
message from its stored row, except that its commands are not carried out a second time. A message
without text and emotes, and one that cannot be read, is dropped before anything changes.
-/

namespace LiveChat.Chat

open LiveChat.Text LiveChat.Json LiveChat.Time LiveChat.Store

/-- What an operator may choose about messages. -/
structure EnrichOptions where
  /-- Cut a leading `@` off names from YouTube. -/
  stripYouTubeAt : Bool
  showBadges : Bool
deriving DecidableEq, Repr

def EnrichOptions.default : EnrichOptions := ⟨true, true⟩

inductive DropReason where
  | empty
  | malformed (fault : DecodeError)
deriving DecidableEq, Repr

def DropReason.message : DropReason → String
  | .empty => "empty message"
  | .malformed fault => "malformed payload: " ++ fault.message

/-- The record of a dropped message. A text that is no JSON at all is recorded without a report. -/
def DropReason.toJson : DropReason → Json
  | .empty =>
      .object [("dropped", .string "empty"), ("display", .string DropReason.empty.message)]
  | .malformed .unreadable => .object [("dropped", .string "malformed")]
  | reason => .object [("dropped", .string "malformed"), ("display", .string reason.message)]

/-- An accepted message with the texts under which it is stored and sent. -/
structure EnrichedMessage where
  message : ChatMessage
  emotesJson : String
  badgesJson : String
  payloadJson : String
deriving DecidableEq, Repr

namespace EnrichedMessage

def ofMessage (message : ChatMessage) : EnrichedMessage where
  message := message
  emotesJson := (Json.array (message.emotes.map Emote.toJson)).text
  badgesJson := (Json.array (message.badges.map fun badge => .string badge.shorthand)).text
  payloadJson := message.payload

def toStored (enriched : EnrichedMessage) (id : String) (time : Timestamp) : StoredMessage :=
  { StoredMessage.new id time with
    username := enriched.message.author
    platform := enriched.message.source.label
    text := enriched.message.message
    emotesJson := enriched.emotesJson
    badgesJson := enriched.badgesJson
    rawJson := enriched.payloadJson }

end EnrichedMessage

/-- What is remembered from message to message. -/
structure Enricher where
  options : EnrichOptions
  emotes : EmoteCache
  preferences : ColourPreferences
  help : HelpCooldown

namespace Enricher

def new (options : EnrichOptions) (cooldown : Duration) : Enricher :=
  ⟨options, .empty, .empty, .ofLength cooldown⟩

def ofSettings (chat : Config.ChatSettings) : Enricher :=
  new ⟨chat.stripYouTubeAt, chat.showBadges⟩ chat.helpCooldown

/-- The platform of a message: its own label, or where it came from if the label tells nothing. -/
def sourceOf (incoming : IncomingMessage) (origin : Option Platform) : Platform :=
  match (incoming.source.map Platform.ofLabel).getD .unknown with
  | .unknown => origin.getD .unknown
  | known => known

/-- The name of an author without blanks around it, and without the mark that YouTube puts first. -/
def authorOf (options : EnrichOptions) (source : Platform) (name : String) : String :=
  let author := trim name.toList
  match author with
  | '@' :: rest =>
      if options.stripYouTubeAt ∧ source = .youTube then String.ofList rest
      else String.ofList author
  | _ => String.ofList author

def suppliedColour? (incoming : IncomingMessage) : Option String :=
  (incoming.colour.map trimmed).filter fun colour => colour != ""

/-- The message before its commands are carried out. -/
def draft (options : EnrichOptions) (incoming : IncomingMessage) (origin : Option Platform) :
    ChatMessage :=
  let source := sourceOf incoming origin
  { author := authorOf options source (incoming.author.getD "")
    message := trimmed (incoming.message.getD "")
    fragments := []
    emotes := incoming.readEmotes
    badges := if options.showBadges then incoming.readBadges else []
    source := source
    colour := "" }

/-- Carries out the command of a message, if it has one and commands are wanted. -/
def runCommand (state : CommandState) (commands : Bool) (now : Duration) : CommandState :=
  if commands && (CommandState.command? state.message).isSome then (state.perform now).2 else state

/-- Takes a message in. With `commands` false it is a replay. -/
def enrich (enricher : Enricher) (incoming : IncomingMessage) (origin : Option Platform)
    (commands : Bool) (now : Duration) : Except DropReason EnrichedMessage × Enricher :=
  let message := draft enricher.options incoming origin
  if message.message = "" ∧ message.emotes = [] then (.error .empty, enricher)
  else
    let emotes := enricher.emotes.insertAll message.emotes
    let message := { message with fragments := tokenize emotes message.message }
    let state := runCommand ⟨message, enricher.preferences, enricher.help⟩ commands now
    let author := state.message.author
    let colour := ((state.preferences.get? author).or (suppliedColour? incoming)).getD
      (fallbackColour author)
    (.ok (.ofMessage { state.message with colour := colour }),
      { enricher with emotes := emotes, preferences := state.preferences, help := state.help })

def enrichValue (enricher : Enricher) (value : Json) (origin : Option Platform) (now : Duration) :
    Except DropReason EnrichedMessage × Enricher :=
  match IncomingMessage.decode value.outline with
  | .ok incoming => enricher.enrich incoming origin true now
  | .error fault => (.error (.malformed fault), enricher)

def enrichLine (enricher : Enricher) (line : String) (origin : Option Platform) (now : Duration) :
    Except DropReason EnrichedMessage × Enricher :=
  match Json.read? line with
  | some value => enricher.enrichValue value origin now
  | none => (.error (.malformed .unreadable), enricher)

/-- A text, or what stands in for it where it is missing or blank. -/
def orElseColumn (text : Option String) (column : String) : Option String :=
  match text with
  | some given => if isBlankText given then some column else some given
  | none => some column

/-- A value, or the reading of a column where it is null. -/
def orElseJson (value : Json) (column : String) : Json :=
  match value with
  | .null => (Json.read? column).getD .null
  | given => given

/-- The message of a stored row: its payload as far as it can be read, and its columns for what is
missing there. -/
def incomingOfRow (row : StoredMessage) : IncomingMessage :=
  let incoming :=
    if isBlankText row.rawJson then IncomingMessage.empty
    else
      match decodeText IncomingMessage.decode row.rawJson with
      | .ok incoming => incoming
      | .error _ => .empty
  { incoming with
    author := orElseColumn incoming.author row.username
    message := orElseColumn incoming.message row.text
    source := orElseColumn incoming.source row.platform
    emotes := orElseJson incoming.emotes row.emotesJson
    badges := orElseJson incoming.badges row.badgesJson }

/-- Rebuilds the message of a stored row. -/
def rehydrate (enricher : Enricher) (row : StoredMessage) :
    Except DropReason EnrichedMessage × Enricher :=
  enricher.enrich (incomingOfRow row) none false 0

end Enricher

end LiveChat.Chat
