import LiveChat.Proofs.Chat.Commands

/-!
# Commands change what they announce

A message gets the result that its command calls for (`CommandState.perform_callsFor`), and the
result says everything that was changed (`CommandState.perform_announces`). From this alone follows
what holds however many people use commands: between two showings of the help text lies the cooldown
(`CommandMemory.showings_spaced`), and the colours that are remembered are hexadecimal ones without
capitals (`CommandMemory.onlyLowerHex_run`, `Enricher.Reached.onlyLowerHex`).
-/

namespace LiveChat

namespace Text

def isLowerHexDigit (char : Char) : Bool := char.isDigit || ('a' ≤ char && char ≤ 'f')

theorem isLowerHexDigit_lowerChar {char : Char} (digit : isHexDigit char = true) :
    isLowerHexDigit (lowerChar char) = true := by
  revert char
  apply forall_hexDigit
  decide +kernel

end Text

namespace Chat

open LiveChat.Text LiveChat.Time

/-- A number sign and three or six hexadecimal digits without capitals. -/
def isLowerHexColour (colour : String) : Bool :=
  match colour.toList with
  | '#' :: digits => (digits.length == 3 || digits.length == 6) && digits.all isLowerHexDigit
  | _ => false

theorem isLowerHexColour_lowercase {colour : String} (hex : isHexColour colour = true) :
    isLowerHexColour (lowercase colour) = true := by
  obtain ⟨digits, split, count, lowerDigits⟩ :=
    exists_lowercase_of_isHexColour hex (isLowerHexDigit · = true) fun _ digit =>
      isLowerHexDigit_lowerChar digit
  rw [isLowerHexColour, split]
  simp only [Bool.and_eq_true, Bool.or_eq_true, beq_iff_eq, List.all_eq_true]
  exact ⟨count, lowerDigits⟩

namespace ColourPreferences

variable (preferences : ColourPreferences) (author colour key : String)

theorem byKey_set :
    (preferences.set author colour).byKey[key]? =
      if key = nameKey author then some colour else preferences.byKey[key]? := by
  rw [set, Std.ExtTreeMap.getElem?_insert]
  exact if_congr (Std.compare_eq_iff_eq.trans eq_comm) rfl rfl

theorem byKey_clear :
    (preferences.clear author).byKey[key]? =
      if key = nameKey author then none else preferences.byKey[key]? := by
  rw [clear, Std.ExtTreeMap.getElem?_erase]
  exact if_congr (Std.compare_eq_iff_eq.trans eq_comm) rfl rfl

/-- All colours chosen so far are hexadecimal ones without capitals. -/
def OnlyLowerHex : Prop :=
  ∀ key colour : String, preferences.byKey[key]? = some colour → isLowerHexColour colour = true

theorem onlyLowerHex_empty : empty.OnlyLowerHex := by
  intro key colour chosen
  rw [empty, Std.ExtTreeMap.getElem?_empty] at chosen
  cases chosen

end ColourPreferences

namespace HelpCooldown

variable {cooldown : HelpCooldown} {previous now : Duration}

theorem length_le_of_idle (idle : cooldown.isActive now = false)
    (shown : cooldown.lastShown = some previous) : cooldown.length ≤ now - previous := by
  rw [isActive, shown] at idle
  exact Nat.le_of_not_lt (of_decide_eq_false idle)

theorem length_le_of_steps {length previous now later : Nat} (first : length ≤ now - previous)
    (second : length ≤ later - now) : length ≤ later - previous := by
  omega

/-- At most one of several points in time that lie a cooldown apart is within the same cooldown. -/
theorem length_filter_le_one {length : Nat} {times : List Nat}
    (apart : times.Pairwise fun earlier later => length ≤ later - earlier) (start : Nat) :
    (times.filter fun time => start ≤ time ∧ time < start + length).length ≤ 1 := by
  induction apart with
  | nil => exact Nat.zero_le 1
  | @cons time rest behind _ ih =>
      rw [List.filter_cons]
      split
      · rename_i within
        have opens : start ≤ time := (of_decide_eq_true within).1
        have nothing : (rest.filter fun time => start ≤ time ∧ time < start + length) = [] := by
          apply List.filter_eq_nil_iff.mpr
          intro later member within
          have closes := of_decide_eq_true within
          have gap := behind later member
          omega
        rw [nothing]
        exact Nat.le_refl 1
      · exact ih

end HelpCooldown

namespace CommandState

/-- The command of a message is the one for colours, with something behind it. -/
def Chooses (state : CommandState) (value : String) : Prop :=
  ∃ command ∈ ["!colour", "!color"], command? state.message = some command ∧
    argument? state.message = some value

/-- What the command of a message is to result in. -/
def CallsFor (state : CommandState) (now : Duration) : Except CommandError CommandOutcome → Prop
  | .ok .helpShown => command? state.message = some "!help" ∧ state.help.isActive now = false
  | .ok .helpSuppressed => command? state.message = some "!help" ∧ state.help.isActive now = true
  | .ok .colourReset => ∃ value, state.Chooses value ∧ sameIgnoringCase value "reset" = true
  | .ok (.colourSet colour) =>
      ∃ value, state.Chooses value ∧ sameIgnoringCase value "reset" = false ∧
        isHexColour value = true ∧ colour = lowercase value
  | .error (.invalidColour value) =>
      state.Chooses value ∧ sameIgnoringCase value "reset" = false ∧ isHexColour value = false
  | .error (.missingArgument command) =>
      command ∈ ["!colour", "!color"] ∧ command? state.message = some command ∧
        argument? state.message = none
  | .error (.unknown command) =>
      command ∉ ["!help", "!colour", "!color"] ∧ (command? state.message).getD "" = command

theorem callsFor_chooseColour {state : CommandState} {value : String} (now : Duration)
    (chooses : state.Chooses value) : state.CallsFor now ((chooseColour value).runOn state).1 := by
  rw [runOn_chooseColour]
  split
  · rename_i reset
    exact ⟨value, chooses, reset⟩
  · rename_i noReset
    have other := Bool.eq_false_iff.mpr noReset
    split
    · rename_i hex
      exact ⟨value, chooses, other, hex, rfl⟩
    · rename_i noHex
      exact ⟨chooses, other, Bool.eq_false_iff.mpr noHex⟩

theorem perform_callsFor (state : CommandState) (now : Duration) :
    state.CallsFor now (state.perform now).1 := by
  rw [perform_eq]
  split
  · rename_i silent
    exact ⟨by decide, congrArg (Option.getD · "") silent⟩
  · rename_i command known
    split
    · rename_i help
      subst help
      rw [runOn_showHelp]
      split
      · rename_i active
        exact ⟨known, active⟩
      · rename_i idle
        exact ⟨known, Bool.eq_false_iff.mpr idle⟩
    · rename_i noHelp
      split
      · rename_i colour
        have listed : command ∈ ["!colour", "!color"] := by simpa using colour
        split
        · rename_i alone
          exact ⟨listed, known, alone⟩
        · rename_i value given
          exact callsFor_chooseColour now ⟨command, listed, known, given⟩
      · rename_i noColour
        exact ⟨by simp [noHelp, not_or.mp noColour], congrArg (Option.getD · "") known⟩

/-- What there may be after a command, by its result. -/
def Announces (before : CommandState) (now : Duration) :
    Except CommandError CommandOutcome → CommandState → Prop
  | .error _, after => after = before
  | .ok .helpSuppressed, after => before.help.isActive now = true ∧ after = before
  | .ok .helpShown, after =>
      before.help.isActive now = false ∧
        after = { before with
          message := { before.message with fragments := [.plain .text helpText.toList] }
          help := { before.help with lastShown := some now } }
  | .ok (.colourSet colour), after =>
      isLowerHexColour colour = true ∧ after.help = before.help ∧
        after.message = { before.message with colour := colour } ∧
        ∀ key : String, after.preferences.byKey[key]? =
          if key = nameKey before.message.author then some colour
          else before.preferences.byKey[key]?
  | .ok .colourReset, after =>
      after.help = before.help ∧ after.message = before.message ∧
        ∀ key : String, after.preferences.byKey[key]? =
          if key = nameKey before.message.author then none else before.preferences.byKey[key]?

theorem perform_announces (state : CommandState) (now : Duration) :
    state.Announces now (state.perform now).1 (state.perform now).2 := by
  cases result : (state.perform now).1 with
  | error failure => exact perform_of_error result
  | ok outcome =>
      have done : state.apply now = .ok (outcome, (state.perform now).2) :=
        apply_eq_ok_iff.mpr (Prod.ext result rfl)
      obtain ⟨-, active, rfl, same⟩ | ⟨-, idle, rfl, shown⟩ | ⟨-, value, -, -, -, chosen⟩ :=
        apply_cases done
      · exact ⟨active, same⟩
      · exact ⟨idle, shown⟩
      · obtain ⟨-, rfl, cleared⟩ | ⟨-, hex, rfl, coloured⟩ := chosen
        · rw [cleared]
          exact ⟨rfl, rfl, state.preferences.byKey_clear state.message.author⟩
        · rw [coloured]
          exact ⟨isLowerHexColour_lowercase hex, rfl, rfl,
            state.preferences.byKey_set state.message.author (lowercase value)⟩

theorem onlyLowerHex_perform {state : CommandState} (only : state.preferences.OnlyLowerHex)
    (now : Duration) : (state.perform now).2.preferences.OnlyLowerHex := by
  have announced := state.perform_announces now
  revert announced
  rcases (state.perform now).1 with failure | (_ | _ | colour | _) <;> intro announced
  · rwa [show (state.perform now).2 = state from announced]
  · rw [announced.2]
    exact only
  · rwa [announced.2]
  · obtain ⟨hex, -, -, entries⟩ := announced
    intro key other found
    rw [entries key] at found
    split at found
    · cases found
      exact hex
    · exact only key other found
  · obtain ⟨-, -, entries⟩ := announced
    intro key other found
    rw [entries key] at found
    split at found
    · cases found
    · exact only key other found

end CommandState

/-- A message that comes to the commands. -/
structure CommandRequest where
  message : ChatMessage
  now : Duration

/-- What commands keep from one message to the next, whoever they come from. -/
structure CommandMemory where
  preferences : ColourPreferences
  help : HelpCooldown

namespace CommandMemory

def serve (memory : CommandMemory) (request : CommandRequest) :
    Except CommandError CommandOutcome × CommandMemory :=
  let (result, after) :=
    CommandState.perform ⟨request.message, memory.preferences, memory.help⟩ request.now
  (result, ⟨after.preferences, after.help⟩)

def run (memory : CommandMemory) (requests : List CommandRequest) : CommandMemory :=
  requests.foldl (fun memory request => (memory.serve request).2) memory

/-- When the help text is shown. -/
def showings (memory : CommandMemory) : List CommandRequest → List Duration
  | [] => []
  | request :: rest =>
      let later := (memory.serve request).2.showings rest
      if (memory.serve request).1 = .ok .helpShown then request.now :: later else later

variable {memory : CommandMemory} {requests : List CommandRequest}

/-- The help text is shown when it may be, and the time is noted. Nothing else touches this. -/
theorem help_serve (memory : CommandMemory) (request : CommandRequest) :
    ((memory.serve request).1 = .ok .helpShown ∧ memory.help.isActive request.now = false ∧
      (memory.serve request).2.help = { memory.help with lastShown := some request.now }) ∨
    ((memory.serve request).1 ≠ .ok .helpShown ∧
      (memory.serve request).2.help = memory.help) := by
  have announced := CommandState.perform_announces
    ⟨request.message, memory.preferences, memory.help⟩ request.now
  unfold serve
  revert announced
  rcases CommandState.perform _ _ with ⟨failure | (_ | _ | colour | _), after⟩ <;> intro announced
  · cases announced
    exact .inr ⟨nofun, rfl⟩
  · obtain ⟨idle, rfl⟩ := announced
    exact .inl ⟨rfl, idle, rfl⟩
  · obtain ⟨-, rfl⟩ := announced
    exact .inr ⟨nofun, rfl⟩
  · exact .inr ⟨nofun, announced.2.1⟩
  · exact .inr ⟨nofun, announced.1⟩

/-- Between two showings lies the cooldown, and another one lies behind the showing before them. -/
theorem showings_spaced (memory : CommandMemory) (requests : List CommandRequest) :
    (∀ previous, memory.help.lastShown = some previous →
      ∀ time ∈ memory.showings requests, memory.help.length ≤ time - previous) ∧
    (memory.showings requests).Pairwise fun earlier later =>
      memory.help.length ≤ later - earlier := by
  induction requests generalizing memory with
  | nil => exact ⟨fun _ _ _ member => absurd member List.not_mem_nil, .nil⟩
  | cons request rest ih =>
      obtain ⟨behind, apart⟩ := ih (memory.serve request).2
      rcases memory.help_serve request with ⟨shown, idle, noted⟩ | ⟨other, kept⟩
      · rw [showings, if_pos shown]
        rw [noted] at behind apart
        constructor
        · intro previous before time member
          have first := HelpCooldown.length_le_of_idle idle before
          rcases List.mem_cons.mp member with rfl | among
          · exact first
          · exact HelpCooldown.length_le_of_steps first (behind _ rfl time among)
        · exact .cons (behind _ rfl) apart
      · rw [showings, if_neg other]
        rw [kept] at behind apart
        exact ⟨behind, apart⟩

/-- The colours that are remembered have no capitals, whoever has used commands. -/
theorem onlyLowerHex_run (only : memory.preferences.OnlyLowerHex) :
    (memory.run requests).preferences.OnlyLowerHex := by
  induction requests generalizing memory with
  | nil => exact only
  | cons request rest ih =>
      apply ih
      exact CommandState.onlyLowerHex_perform only request.now

end CommandMemory

namespace Enricher

theorem onlyLowerHex_enrich {enricher : Enricher} (only : enricher.preferences.OnlyLowerHex)
    (incoming : IncomingMessage) (origin : Option Platform) (commands : Bool) (now : Duration) :
    (enricher.enrich incoming origin commands now).2.preferences.OnlyLowerHex := by
  unfold enrich runCommand
  dsimp only
  split
  · exact only
  · split
    · exact CommandState.onlyLowerHex_perform only now
    · exact only

theorem Reached.onlyLowerHex {enricher : Enricher} (reached : enricher.Reached) :
    enricher.preferences.OnlyLowerHex := by
  induction reached with
  | fresh options cooldown emotes => exact ColourPreferences.onlyLowerHex_empty
  | enrich reached incoming origin commands now ih =>
      exact onlyLowerHex_enrich ih incoming origin commands now

end Enricher

/-- **Commands change what they announce, and nothing else.** A message gets what its command calls
for. Whatever a command fails with or returns, the state behind it is told by that. However many
people ask for help, the text is shown once within a cooldown at most. And the colours that are
remembered are hexadecimal ones without capitals, after any messages. -/
theorem commands_change_what_they_announce :
    (∀ (state : CommandState) (now : Duration), state.CallsFor now (state.perform now).1 ∧
      state.Announces now (state.perform now).1 (state.perform now).2) ∧
    (∀ (memory : CommandMemory) (requests : List CommandRequest) (start : Duration),
      ((memory.showings requests).filter fun time =>
        start ≤ time ∧ time < start + memory.help.length).length ≤ 1) ∧
    (∀ (memory : CommandMemory) (requests : List CommandRequest),
      memory.preferences.OnlyLowerHex → (memory.run requests).preferences.OnlyLowerHex) ∧
    ∀ enricher : Enricher, enricher.Reached → enricher.preferences.OnlyLowerHex := by
  refine ⟨fun state now => ⟨state.perform_callsFor now, state.perform_announces now⟩, ?_, ?_,
    fun _ reached => reached.onlyLowerHex⟩
  · intro memory requests start
    exact HelpCooldown.length_filter_le_one (memory.showings_spaced requests).2 start
  · intro memory requests only
    exact CommandMemory.onlyLowerHex_run only

/-- A command of an author, with a colour where it needs one. -/
def asking (author command colour : String) (now : Duration) : CommandRequest where
  message :=
    { ChatMessage.empty with
      author := author
      message := command ++ " " ++ colour
      fragments := [.plain .command command.toList] }
  now := now

/-- Three authors ask for help, the second one too early, and one of them chooses a colour. -/
def requested : List CommandRequest :=
  [asking "ann" "!help" "" 0, asking "bob" "!HELP" "" 5, asking " Bob" "!color" "#FFF" 6,
    asking "cat" "!help" "" 12]

theorem commands_change_what_they_announce_bob :
    CommandMemory.showings ⟨.empty, .ofLength 10⟩ requested = [0, 12] ∧
      (CommandMemory.run ⟨.empty, .ofLength 10⟩ requested).preferences.get? "BOB" = some "#fff" ∧
      isLowerHexColour "#fff" = true ∧
      (Enricher.new .default 10).preferences.OnlyLowerHex := by
  obtain ⟨-, -, remembered, reached⟩ := commands_change_what_they_announce
  have chosen : (CommandMemory.run ⟨.empty, .ofLength 10⟩ requested).preferences.get? "BOB" =
      some "#fff" := by decide +kernel
  refine ⟨by decide +kernel, chosen, ?_, ?_⟩
  · exact remembered _ _ ColourPreferences.onlyLowerHex_empty _ _ chosen
  · exact reached _ (.fresh .default 10 (Enricher.new .default 10).emotes)

end Chat

end LiveChat
