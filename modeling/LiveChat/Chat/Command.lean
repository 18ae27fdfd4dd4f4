import LiveChat.Chat.Colour
import LiveChat.Chat.Message
import LiveChat.Time.Duration

/-!
# Commands in chat

A message whose first fragment is a command may ask for help or choose the colour of its author's
name. The help text is shown once per cooldown, whoever asks. A command that fails changes nothing.
-/

namespace LiveChat.Chat

open LiveChat.Text LiveChat.Time

inductive CommandError where
  | unknown (command : String)
  | missingArgument (command : String)
  | invalidColour (value : String)
deriving DecidableEq, Repr

def CommandError.message : CommandError → String
  | .unknown command => "unknown command '" ++ command ++ "'"
  | .missingArgument command => "'" ++ command ++ "' needs an argument"
  | .invalidColour value => "'" ++ value ++ "' is not a #rgb or #rrggbb colour"

def CommandError.kind : CommandError → String
  | .unknown _ => "Unknown"
  | .missingArgument _ => "MissingArgument"
  | .invalidColour _ => "InvalidColour"

inductive CommandOutcome where
  | helpShown
  | helpSuppressed
  | colourSet (colour : String)
  | colourReset
deriving DecidableEq, Repr

def CommandOutcome.toJson : CommandOutcome → Json
  | .helpShown => .string "HelpShown"
  | .helpSuppressed => .string "HelpSuppressed"
  | .colourSet colour => .object [("ColourSet", .string colour)]
  | .colourReset => .string "ColourReset"

/-- How often the help text may be shown, and when it was shown last. -/
structure HelpCooldown where
  length : Duration
  lastShown : Option Duration
deriving DecidableEq, Repr

namespace HelpCooldown

def ofLength (length : Duration) : HelpCooldown := ⟨length, none⟩

/-- The help text was shown so recently that it is not shown again. -/
def isActive (cooldown : HelpCooldown) (now : Duration) : Bool :=
  match cooldown.lastShown with
  | some previous => now - previous < cooldown.length
  | none => false

end HelpCooldown

structure CommandState where
  message : ChatMessage
  preferences : ColourPreferences
  help : HelpCooldown

/-- Commands work in place. What they have changed before they fail stays changed. -/
abbrev CommandM := ExceptT CommandError (StateM CommandState)

def CommandM.runOn {α : Type} (program : CommandM α) (state : CommandState) :
    Except CommandError α × CommandState :=
  StateT.run (ExceptT.run program) state

def helpText : String := "Commands: !help, !colour <#rgb|#rrggbb>, !colour reset"

namespace CommandState

def command? (message : ChatMessage) : Option String :=
  match message.fragments with
  | first :: _ => if first.kind = .command then some (lowercase first.text) else none
  | [] => none

def argument? (message : ChatMessage) : Option String := (wordsOf message.message)[1]?

/-- Shows the help text instead of the message, unless it was shown recently. -/
def showHelp (now : Duration) : CommandM CommandOutcome := do
  if (← get).help.isActive now then return .helpSuppressed
  modify fun state => { state with help := { state.help with lastShown := some now } }
  modify fun state =>
    { state with message := { state.message with fragments := [.plain .text helpText.toList] } }
  return .helpShown

def chooseColour (value : String) : CommandM CommandOutcome := do
  if sameIgnoringCase value "reset" then
    modify fun state => { state with preferences := state.preferences.clear state.message.author }
    return .colourReset
  if !isHexColour value then throw (.invalidColour value)
  let colour := lowercase value
  modify fun state =>
    { state with preferences := state.preferences.set state.message.author colour }
  modify fun state => { state with message := { state.message with colour := colour } }
  return .colourSet colour

def carryOut (now : Duration) : CommandM CommandOutcome := do
  let message := (← get).message
  match command? message with
  | none => throw (.unknown "")
  | some command =>
      if command = "!help" then showHelp now
      else if command = "!colour" ∨ command = "!color" then
        match argument? message with
        | none => throw (.missingArgument command)
        | some value => chooseColour value
      else throw (.unknown command)

/-- Carries out the command of a message, and returns what has come of it. -/
def perform (state : CommandState) (now : Duration) :
    Except CommandError CommandOutcome × CommandState :=
  (carryOut now).runOn state

/-- What a command that succeeds has done, or why it fails. -/
def apply (state : CommandState) (now : Duration) :
    Except CommandError (CommandOutcome × CommandState) :=
  match state.perform now with
  | (.ok outcome, changed) => .ok (outcome, changed)
  | (.error failure, _) => .error failure

end CommandState

end LiveChat.Chat
