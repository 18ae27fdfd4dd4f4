import LiveChat.Chat.Enrichment
import LiveChat.Proofs.Text.Blanks

/-!
# What commands do

All that a command may change is listed in `CommandState.apply_cases`. A colour that is chosen with
one is a hexadecimal colour (`isHexColour_lowercase`), and so is every colour that an enricher can
come to remember (`Enricher.Reached.onlyHex`).
-/

namespace LiveChat

namespace Text

theorem toNat_lt_of_isHexDigit {char : Char} (digit : isHexDigit char = true) :
    char.toNat < 128 := by
  simp only [isHexDigit, Char.isDigit, Bool.or_eq_true, Bool.and_eq_true, decide_eq_true_eq,
    Char.le_def, UInt32.le_iff_toNat_le, ge_iff_le] at digit
  rcases digit with (⟨-, top⟩ | ⟨-, top⟩) | ⟨-, top⟩
  · change char.toNat ≤ 57 at top
    omega
  · change char.toNat ≤ 102 at top
    omega
  · change char.toNat ≤ 70 at top
    omega

/-- What holds for the hexadecimal digits among the first characters holds for all of them. -/
theorem forall_hexDigit {property : Char → Prop}
    (codes : ∀ code < 128, isHexDigit (Char.ofNat code) = true → property (Char.ofNat code))
    (char : Char) (digit : isHexDigit char = true) : property char := by
  have found := codes char.toNat (toNat_lt_of_isHexDigit digit)
  rw [Char.ofNat_toNat] at found
  exact found digit

theorem isHexDigit_lowerChar {char : Char} (digit : isHexDigit char = true) :
    isHexDigit (lowerChar char) = true ∧ char ≠ 'Σ' ∧ char ≠ 'İ' ∧ isBlank char = false := by
  revert char
  apply forall_hexDigit
  decide +kernel

/-- Without the two capitals that need more, each character is made small by itself. -/
theorem lowerAfter_eq_map {text : List Char} (plain : ∀ char ∈ text, char ≠ 'Σ' ∧ char ≠ 'İ')
    (before : List Char) : lowerAfter before text = text.map lowerChar := by
  induction text generalizing before with
  | nil => rfl
  | cons char rest ih =>
      obtain ⟨notSigma, notDotted⟩ := plain char List.mem_cons_self
      rw [lowerAfter, ih fun other member => plain other (List.mem_cons_of_mem _ member)]
      simp only [notSigma, notDotted, ↓reduceIte]
      rfl

end Text

namespace Chat

open LiveChat.Text LiveChat.Time LiveChat.Store

theorem exists_of_isHexColour {colour : String} (hex : isHexColour colour = true) :
    ∃ digits : List Char, colour.toList = '#' :: digits ∧ (digits.length = 3 ∨ digits.length = 6) ∧
      ∀ digit ∈ digits, isHexDigit digit = true := by
  unfold isHexColour at hex
  split at hex
  · rename_i digits split
    rw [Bool.and_eq_true, Bool.or_eq_true, beq_iff_eq, beq_iff_eq, List.all_eq_true] at hex
    exact ⟨digits, split, hex⟩
  · cases hex

theorem isTrimmed_of_isHexColour {colour : String} (hex : isHexColour colour = true) :
    IsTrimmed colour ∧ colour ≠ "" := by
  obtain ⟨digits, split, -, hexDigits⟩ := exists_of_isHexColour hex
  have text : colour = String.ofList ('#' :: digits) := by rw [← split, String.ofList_toList]
  have solid : ∀ char ∈ '#' :: digits, isBlank char = false := by
    intro char member
    rcases List.mem_cons.mp member with rfl | digit
    · decide
    · exact (isHexDigit_lowerChar (hexDigits char digit)).2.2.2
  refine ⟨text ▸ isTrimmed_of_solid solid, ?_⟩
  rintro rfl
  cases split

/-- The text of a hexadecimal colour in lower case, with what its small digits have in common. -/
theorem exists_lowercase_of_isHexColour {colour : String} (hex : isHexColour colour = true)
    (property : Char → Prop)
    (small : ∀ digit, isHexDigit digit = true → property (lowerChar digit)) :
    ∃ digits : List Char, (lowercase colour).toList = '#' :: digits ∧
      (digits.length = 3 ∨ digits.length = 6) ∧ ∀ digit ∈ digits, property digit := by
  obtain ⟨digits, split, count, hexDigits⟩ := exists_of_isHexColour hex
  have plain : ∀ char ∈ '#' :: digits, char ≠ 'Σ' ∧ char ≠ 'İ' := by
    intro char member
    rcases List.mem_cons.mp member with rfl | digit
    · decide
    · have found := isHexDigit_lowerChar (hexDigits char digit)
      exact ⟨found.2.1, found.2.2.1⟩
  have mark : lowerChar '#' = '#' := by decide +kernel
  refine ⟨digits.map lowerChar, ?_, ?_, ?_⟩
  · rw [lowercase, split, lowerAfter_eq_map plain, List.map_cons, mark, String.toList_ofList]
  · rwa [List.length_map]
  · intro digit member
    obtain ⟨capital, among, rfl⟩ := List.mem_map.mp member
    exact small capital (hexDigits capital among)

theorem isHexColour_lowercase {colour : String} (hex : isHexColour colour = true) :
    isHexColour (lowercase colour) = true := by
  obtain ⟨digits, split, count, hexDigits⟩ :=
    exists_lowercase_of_isHexColour hex (isHexDigit · = true) fun _ digit =>
      (isHexDigit_lowerChar digit).1
  rw [isHexColour, split]
  simp only [Bool.and_eq_true, Bool.or_eq_true, beq_iff_eq, List.all_eq_true]
  exact ⟨count, hexDigits⟩

/-- Every colour that a name gets without choosing one is a hexadecimal colour. -/
theorem isHexColour_fallbackColour (name : String) :
    isHexColour (fallbackColour name) = true := by
  have all : ∀ colour ∈ anonymousColour :: palette, isHexColour colour = true := by decide +kernel
  apply all
  unfold fallbackColour
  dsimp only
  split
  · exact List.mem_cons_self
  · rw [List.getD_eq_getElem?_getD]
    cases found : palette[(fnv1a (nameKey name).toUTF8.toList).toNat % palette.length]? with
    | none => exact List.mem_cons_self
    | some colour => exact List.mem_cons_of_mem _ (List.mem_of_getElem? found)

namespace CommandState

variable {state changed : CommandState} {now : Duration} {outcome : CommandOutcome}

theorem runOn_get_bind {α : Type} (program : CommandState → CommandM α) (state : CommandState) :
    CommandM.runOn (get >>= program) state = (program state).runOn state := rfl

theorem runOn_showHelp (state : CommandState) (now : Duration) :
    (showHelp now).runOn state =
      if state.help.isActive now then (.ok .helpSuppressed, state)
      else (.ok .helpShown,
        { state with
          message := { state.message with fragments := [.plain .text helpText.toList] }
          help := { state.help with lastShown := some now } }) := by
  rw [showHelp, runOn_get_bind]
  split <;> rfl

theorem runOn_chooseColour (state : CommandState) (value : String) :
    (chooseColour value).runOn state =
      if sameIgnoringCase value "reset" then
        (.ok .colourReset,
          { state with preferences := state.preferences.clear state.message.author })
      else if isHexColour value then
        (.ok (.colourSet (lowercase value)),
          { state with
            message := { state.message with colour := lowercase value }
            preferences := state.preferences.set state.message.author (lowercase value) })
      else (.error (.invalidColour value), state) := by
  unfold chooseColour
  split
  · rfl
  · cases isHexColour value <;> rfl

theorem perform_eq (state : CommandState) (now : Duration) :
    state.perform now =
      match command? state.message with
      | none => (.error (.unknown ""), state)
      | some command =>
          if command = "!help" then (showHelp now).runOn state
          else if command = "!colour" ∨ command = "!color" then
            match argument? state.message with
            | none => (.error (.missingArgument command), state)
            | some value => (chooseColour value).runOn state
          else (.error (.unknown command), state) := by
  rw [perform, carryOut, runOn_get_bind]
  dsimp only
  cases command? state.message with
  | none => rfl
  | some command =>
      dsimp only
      split
      · rfl
      · split
        · cases argument? state.message <;> rfl
        · rfl

theorem apply_eq_ok_iff :
    state.apply now = .ok (outcome, changed) ↔ state.perform now = (.ok outcome, changed) := by
  rw [apply]
  rcases state.perform now with ⟨_ | _, _⟩ <;> simp

/-- A command that fails has changed nothing. -/
theorem perform_of_error {failure : CommandError}
    (failed : (state.perform now).1 = .error failure) : (state.perform now).2 = state := by
  revert failed
  rw [perform_eq]
  split
  · exact fun _ => rfl
  · split
    · rw [runOn_showHelp]
      split <;> nofun
    · split
      · split
        · exact fun _ => rfl
        · rw [runOn_chooseColour]
          split
          · nofun
          · split
            · nofun
            · exact fun _ => rfl
      · exact fun _ => rfl

/-- **Commands.** A command that is carried out shows the help text or not, or it resets or sets the
colour of the author. -/
theorem apply_cases (done : state.apply now = .ok (outcome, changed)) :
    (command? state.message = some "!help" ∧ state.help.isActive now = true ∧
      outcome = .helpSuppressed ∧ changed = state) ∨
    (command? state.message = some "!help" ∧ state.help.isActive now = false ∧
      outcome = .helpShown ∧
      changed = { state with
        message := { state.message with fragments := [.plain .text helpText.toList] }
        help := { state.help with lastShown := some now } }) ∨
    ∃ command value, command? state.message = some command ∧
      (command = "!colour" ∨ command = "!color") ∧ argument? state.message = some value ∧
      ((sameIgnoringCase value "reset" = true ∧ outcome = .colourReset ∧
          changed = { state with preferences := state.preferences.clear state.message.author }) ∨
        (sameIgnoringCase value "reset" = false ∧ isHexColour value = true ∧
          outcome = .colourSet (lowercase value) ∧
          changed = { state with
            message := { state.message with colour := lowercase value }
            preferences := state.preferences.set state.message.author (lowercase value) })) := by
  rw [apply_eq_ok_iff, perform_eq] at done
  split at done
  · cases done
  · rename_i command known
    split at done
    · rename_i help
      subst help
      rw [runOn_showHelp] at done
      split at done
      · rename_i active
        cases done
        exact .inl ⟨known, active, rfl, rfl⟩
      · rename_i idle
        cases done
        exact .inr (.inl ⟨known, Bool.eq_false_iff.mpr idle, rfl, rfl⟩)
    · split at done
      · rename_i colour
        split at done
        · cases done
        · rename_i value given
          refine .inr (.inr ⟨command, value, known, colour, given, ?_⟩)
          rw [runOn_chooseColour] at done
          split at done
          · rename_i reset
            cases done
            exact .inl ⟨reset, rfl, rfl⟩
          · rename_i noReset
            split at done
            · rename_i hex
              cases done
              exact .inr ⟨Bool.eq_false_iff.mpr noReset, hex, rfl, rfl⟩
            · cases done
      · cases done

/-- The command of a message brings up the help text. -/
def ShowsHelp (state : CommandState) (now : Duration) : Prop :=
  ∃ changed, state.apply now = .ok (.helpShown, changed)

theorem showsHelp_iff : state.ShowsHelp now ↔
    command? state.message = some "!help" ∧ state.help.isActive now = false := by
  constructor
  · rintro ⟨changed, done⟩
    obtain ⟨-, -, other, -⟩ | ⟨help, idle, -, -⟩ | ⟨command, value, -, -, -, chosen⟩ :=
      apply_cases done
    · cases other
    · exact ⟨help, idle⟩
    · obtain ⟨-, other, -⟩ | ⟨-, -, other, -⟩ := chosen <;> cases other
  · rintro ⟨help, idle⟩
    have shown : (state.perform now).1 = .ok .helpShown := by
      rw [perform_eq, help]
      dsimp only
      rw [if_pos rfl, runOn_showHelp, idle]
      rfl
    exact ⟨_, apply_eq_ok_iff.mpr (Prod.ext shown rfl)⟩

end CommandState

/-- All colours chosen so far are hexadecimal ones. -/
def ColourPreferences.OnlyHex (preferences : ColourPreferences) : Prop :=
  ∀ key colour : String, preferences.byKey[key]? = some colour → isHexColour colour = true

namespace ColourPreferences

theorem get?_empty (author : String) : empty.get? author = none := Std.ExtTreeMap.getElem?_empty

theorem onlyHex_empty : empty.OnlyHex := by
  intro key colour chosen
  rw [empty, Std.ExtTreeMap.getElem?_empty] at chosen
  cases chosen

variable {preferences : ColourPreferences} {author : String}

theorem OnlyHex.set (onlyHex : preferences.OnlyHex) {colour : String}
    (hex : isHexColour colour = true) : (preferences.set author colour).OnlyHex := by
  intro key other chosen
  rw [ColourPreferences.set, Std.ExtTreeMap.getElem?_insert] at chosen
  split at chosen
  · cases chosen
    exact hex
  · exact onlyHex key other chosen

theorem OnlyHex.clear (onlyHex : preferences.OnlyHex) : (preferences.clear author).OnlyHex := by
  intro key colour chosen
  rw [ColourPreferences.clear, Std.ExtTreeMap.getElem?_erase] at chosen
  split at chosen
  · cases chosen
  · exact onlyHex key colour chosen

end ColourPreferences

namespace Enricher

open CommandState

theorem runCommand_replay (state : CommandState) (now : Duration) :
    runCommand state false now = state := rfl

theorem runCommand_eq_or (state : CommandState) (commands : Bool) (now : Duration) :
    runCommand state commands now = state ∨
      ∃ outcome, state.apply now = .ok (outcome, runCommand state commands now) := by
  unfold runCommand
  split
  · cases result : (state.perform now).1 with
    | ok outcome => exact .inr ⟨outcome, apply_eq_ok_iff.mpr (Prod.ext result rfl)⟩
    | error failure => exact .inl (perform_of_error result)
  · exact .inl rfl

/-- Of a message, its command may change only what is shown and the colour. -/
theorem message_runCommand (state : CommandState) (commands : Bool) (now : Duration) :
    (runCommand state commands now).message =
      { state.message with
        fragments := (runCommand state commands now).message.fragments
        colour := (runCommand state commands now).message.colour } := by
  rcases runCommand_eq_or state commands now with same | ⟨outcome, done⟩
  · rw [same]
  · obtain ⟨-, -, -, same⟩ | ⟨-, -, -, same⟩ | ⟨command, value, -, -, -, chosen⟩ :=
      apply_cases done
    · rw [same]
    · rw [same]
    · obtain ⟨-, -, same⟩ | ⟨-, -, -, same⟩ := chosen <;> rw [same]

theorem fragments_runCommand {state : CommandState} {now : Duration} (commands : Bool)
    (noHelp : ¬ state.ShowsHelp now) :
    (runCommand state commands now).message.fragments = state.message.fragments := by
  rcases runCommand_eq_or state commands now with same | ⟨outcome, done⟩
  · rw [same]
  · obtain ⟨-, -, -, same⟩ | ⟨-, -, shown, -⟩ | ⟨command, value, -, -, -, chosen⟩ :=
      apply_cases done
    · rw [same]
    · rw [shown] at done
      exact absurd ⟨_, done⟩ noHelp
    · obtain ⟨-, -, same⟩ | ⟨-, -, -, same⟩ := chosen <;> rw [same]

theorem onlyHex_runCommand {state : CommandState} (onlyHex : state.preferences.OnlyHex)
    (commands : Bool) (now : Duration) :
    (runCommand state commands now).preferences.OnlyHex := by
  rcases runCommand_eq_or state commands now with same | ⟨outcome, done⟩
  · rwa [same]
  · obtain ⟨-, -, -, same⟩ | ⟨-, -, -, same⟩ | ⟨command, value, -, -, -, chosen⟩ :=
      apply_cases done
    · rwa [same]
    · rwa [same]
    · obtain ⟨-, -, same⟩ | ⟨-, hex, -, same⟩ := chosen
      · rw [same]
        exact onlyHex.clear
      · rw [same]
        exact onlyHex.set (isHexColour_lowercase hex)

/-- An enricher remembers hexadecimal colours only, whatever it takes in. -/
theorem onlyHex_enrich {enricher : Enricher} (onlyHex : enricher.preferences.OnlyHex)
    (incoming : IncomingMessage) (origin : Option Platform) (commands : Bool) (now : Duration) :
    (enricher.enrich incoming origin commands now).2.preferences.OnlyHex := by
  unfold enrich
  dsimp only
  split
  · exact onlyHex
  · exact onlyHex_runCommand onlyHex commands now

/-- What a fresh enricher may become by taking messages in and replaying rows, whatever emotes it
was given. -/
inductive Reached : Enricher → Prop
  | fresh (options : EnrichOptions) (cooldown : Duration) (emotes : EmoteCache) :
      Reached { new options cooldown with emotes := emotes }
  | enrich {enricher : Enricher} (reached : Reached enricher) (incoming : IncomingMessage)
      (origin : Option Platform) (commands : Bool) (now : Duration) :
      Reached (enricher.enrich incoming origin commands now).2

theorem Reached.onlyHex {enricher : Enricher} (reached : Reached enricher) :
    enricher.preferences.OnlyHex := by
  induction reached with
  | fresh options cooldown emotes => exact ColourPreferences.onlyHex_empty
  | enrich reached incoming origin commands now ih =>
      exact onlyHex_enrich ih incoming origin commands now

end Enricher

end Chat

end LiveChat
