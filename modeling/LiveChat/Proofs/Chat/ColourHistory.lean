import LiveChat.Proofs.Chat.CommandWord
import LiveChat.Proofs.Chat.Replay

/-!
# Colours follow from what was said

An enricher keeps the colour that was chosen last under each name. A message chooses what its text
says (`Enricher.preferences_runCommand`). What is remembered after any course of live messages and
replays can therefore be read off what was said (`Enricher.get?_run`), and so can the colour of
every message (`Enricher.colour_follows_history`).
-/

namespace LiveChat.Chat

open LiveChat.Text LiveChat.Json LiveChat.Time LiveChat.Store

inductive ColourChoice where
  | set (colour : String)
  | reset
deriving DecidableEq, Repr

namespace ColourChoice

def colour? : ColourChoice → Option String
  | .set colour => some colour
  | .reset => none

/-- The choice that is made with a word: a colour, or the word for none. -/
def ofValue? (value : String) : Option ColourChoice :=
  if sameIgnoringCase value "reset" then some .reset
  else if isHexColour value then some (.set (lowercase value))
  else none

/-- The choice that a text makes: its first word is the command for it, in any letter case, and its
second word says what is chosen. -/
def ofText? (text : String) : Option ColourChoice :=
  match wordsOf text with
  | command :: value :: _ =>
      if lowercase command = "!colour" ∨ lowercase command = "!color" then ofValue? value else none
  | _ => none

theorem ofText?_of_words {text command : String} {rest : List String}
    (cut : wordsOf text = command :: rest) :
    ofText? text =
      if lowercase command = "!colour" ∨ lowercase command = "!color" then
        rest.head?.bind ofValue?
      else none := by
  rw [ofText?, cut]
  cases rest with
  | nil => simp
  | cons value others => rfl

theorem ofText?_of_not_commandWord {text : String} (none : commandWord? text = none) :
    ofText? text = Option.none := by
  unfold ofText? wordsOf
  split
  · rename_i command value rest cut
    obtain ⟨word, others, listed, rfl, -⟩ := List.map_eq_cons_iff.mp cut
    rw [if_neg]
    intro colour
    have word : isCommandWord word = true := by
      refine isCommandWord_of_lowercase ?_
      rcases colour with same | same <;> rw [same] <;> decide
    rw [commandWord?, listed, List.head?_cons, Option.filter_some, if_pos word] at none
    cases none
  · rfl

end ColourChoice

namespace ColourPreferences

/-- The preferences after an author has made a choice, or none. -/
def choose (preferences : ColourPreferences) (author : String) :
    Option ColourChoice → ColourPreferences
  | some (.set colour) => preferences.set author colour
  | some .reset => preferences.clear author
  | none => preferences

theorem get?_choose (preferences : ColourPreferences) (author other : String)
    (choice : Option ColourChoice) :
    (preferences.choose author choice).get? other =
      match if nameKey author = nameKey other then choice else none with
      | some choice => choice.colour?
      | none => preferences.get? other := by
  by_cases same : nameKey author = nameKey other
  · rw [if_pos same]
    rcases choice with _ | colour | _
    · rfl
    · simp [choose, get?, set, same, ColourChoice.colour?]
    · simp [choose, get?, clear, same, ColourChoice.colour?]
  · rw [if_neg same]
    rcases choice with _ | colour | _
    · rfl
    · simp [choose, get?, set, Std.ExtTreeMap.getElem?_insert, same]
    · simp [choose, get?, clear, Std.ExtTreeMap.getElem?_erase, same]

end ColourPreferences

namespace CommandState

theorem preferences_chooseColour (state : CommandState) (value : String) :
    ((chooseColour value).runOn state).2.preferences =
      state.preferences.choose state.message.author (ColourChoice.ofValue? value) := by
  rw [runOn_chooseColour, ColourChoice.ofValue?]
  by_cases reset : sameIgnoringCase value "reset" = true
  · rw [if_pos reset, if_pos reset]
    rfl
  · rw [if_neg reset, if_neg reset]
    by_cases hex : isHexColour value = true <;> simp [hex, ColourPreferences.choose]

theorem preferences_showHelp (state : CommandState) (now : Duration) :
    ((showHelp now).runOn state).2.preferences = state.preferences := by
  rw [runOn_showHelp]
  split <;> rfl

/-- A command makes the choice that its text makes, and no other. -/
theorem preferences_perform {cache : EmoteCache} {state : CommandState}
    (cut : state.message.fragments = tokenize cache state.message.message) (now : Duration) :
    (state.perform now).2.preferences =
      state.preferences.choose state.message.author
        (ColourChoice.ofText? state.message.message) := by
  have known := command?_of_tokenize cut
  rw [perform_eq, known]
  cases found : commandWord? state.message.message with
  | none =>
      rw [ColourChoice.ofText?_of_not_commandWord found]
      rfl
  | some word =>
      obtain ⟨first, -⟩ := Option.filter_eq_some_iff.mp found
      obtain ⟨rest, listed⟩ := List.head?_eq_some_iff.mp first
      have cut : wordsOf state.message.message = String.ofList word :: rest.map String.ofList := by
        rw [wordsOf, listed, List.map_cons]
      have argument : argument? state.message = (rest.map String.ofList).head? := by
        rw [argument?, cut, List.getElem?_cons_succ, ← List.head?_eq_getElem?]
      rw [ColourChoice.ofText?_of_words cut, argument, Option.map_some]
      generalize lowercase (String.ofList word) = command
      generalize (rest.map String.ofList).head? = value
      dsimp only
      by_cases help : command = "!help"
      · have other : ¬ (command = "!colour" ∨ command = "!color") := by
          rw [help]
          decide
        rw [if_pos help, if_neg other, preferences_showHelp]
        rfl
      · rw [if_neg help]
        by_cases colour : command = "!colour" ∨ command = "!color"
        · rw [if_pos colour, if_pos colour]
          cases value with
          | none => rfl
          | some value => exact state.preferences_chooseColour value
        · rw [if_neg colour, if_neg colour]
          rfl

end CommandState

namespace Enricher

theorem preferences_runCommand {cache : EmoteCache} {state : CommandState}
    (cut : state.message.fragments = tokenize cache state.message.message) (now : Duration) :
    (runCommand state true now).preferences =
      state.preferences.choose state.message.author
        (ColourChoice.ofText? state.message.message) := by
  have applied := CommandState.preferences_perform cut now
  have known := CommandState.command?_of_tokenize cut
  cases found : commandWord? state.message.message with
  | none =>
      rw [found] at known
      rw [ColourChoice.ofText?_of_not_commandWord found, runCommand, known]
      rfl
  | some word =>
      rw [found] at known
      rw [runCommand, known]
      exact applied

end Enricher

/-- What comes to an enricher: messages as they are sent, and rows of the log. -/
inductive ChatEvent where
  | live (value : Json) (origin : Option Platform) (now : Duration)
  | replay (row : StoredMessage)

/-- The last choice that was made under the name of an author, among authors and their texts. -/
def lastChoice? (said : List (String × String)) (author : String) : Option ColourChoice :=
  said.reverse.findSome? fun entry =>
    if nameKey entry.1 = nameKey author then ColourChoice.ofText? entry.2 else none

/-- The colour that the last choice under the name of an author left. -/
def chosenColour? (said : List (String × String)) (author : String) : Option String :=
  (lastChoice? said author).bind ColourChoice.colour?

theorem lastChoice?_append (first second : List (String × String)) (author : String) :
    lastChoice? (first ++ second) author =
      (lastChoice? second author).or (lastChoice? first author) := by
  simp [lastChoice?, List.findSome?_append]

theorem lastChoice?_singleton (speaker text author : String) :
    lastChoice? [(speaker, text)] author =
      if nameKey speaker = nameKey author then ColourChoice.ofText? text else none := by
  rw [lastChoice?, List.reverse_singleton, List.findSome?_singleton]

namespace Enricher

def step (enricher : Enricher) : ChatEvent → Enricher
  | .live value origin now => (enricher.enrichValue value origin now).2
  | .replay row => (enricher.rehydrate row).2

def run (enricher : Enricher) (events : List ChatEvent) : Enricher := events.foldl step enricher

/-- The author and the text of a live message that is let through. -/
def accepted? (enricher : Enricher) : ChatEvent → Option (String × String)
  | .live value origin now =>
      match (enricher.enrichValue value origin now).1 with
      | .ok message => some (message.message.author, message.message.message)
      | .error _ => none
  | .replay _ => none

/-- The authors and the texts of the live messages that are let through, the oldest first. -/
def said (enricher : Enricher) : List ChatEvent → List (String × String)
  | [] => []
  | event :: rest => (enricher.accepted? event).toList ++ (enricher.step event).said rest

theorem enrich_of_blank {enricher : Enricher} {incoming : IncomingMessage}
    {origin : Option Platform} (blank : (draft enricher.options incoming origin).isBlank = true)
    (commands : Bool) (now : Duration) :
    enricher.enrich incoming origin commands now = (.error .empty, enricher) := by
  rw [enrich]
  exact if_pos (of_decide_eq_true blank)

/-- A live message that will be let through, and its draft. -/
def heard? (options : EnrichOptions) (value : Json) (origin : Option Platform) :
    Option (IncomingMessage × ChatMessage) :=
  match IncomingMessage.decode value.outline with
  | .ok incoming =>
      if (draft options incoming origin).isBlank then none
      else some (incoming, draft options incoming origin)
  | .error _ => none

/-- A live message is dropped, or it is let through and its text makes the choice that is made. -/
theorem enrichValue_cases (enricher : Enricher) (value : Json) (origin : Option Platform)
    (now : Duration) :
    (heard? enricher.options value origin = none ∧
      ∃ reason, enricher.enrichValue value origin now = (.error reason, enricher)) ∨
      ∃ incoming message changed,
        IncomingMessage.decode value.outline = .ok incoming ∧
        heard? enricher.options value origin =
          some (incoming, draft enricher.options incoming origin) ∧
        enricher.enrichValue value origin now = (.ok message, changed) ∧
        message.message.author = (draft enricher.options incoming origin).author ∧
        message.message.message = (draft enricher.options incoming origin).message ∧
        message.message.source = (draft enricher.options incoming origin).source ∧
        changed.preferences = enricher.preferences.choose message.message.author
          (ColourChoice.ofText? message.message.message) ∧
        message.message.colour =
          ((changed.preferences.get? message.message.author).or (suppliedColour? incoming)).getD
            (fallbackColour message.message.author) := by
  unfold enrichValue heard?
  cases decoded : IncomingMessage.decode value.outline with
  | error fault => exact .inl ⟨rfl, _, rfl⟩
  | ok incoming =>
      dsimp only
      cases blank : (draft enricher.options incoming origin).isBlank with
      | true => exact .inl ⟨rfl, _, enrich_of_blank blank true now⟩
      | false =>
          let drafted := enricher.drafted incoming origin
          let state := runCommand drafted true now
          have kept : state.message = _ := message_runCommand drafted true now
          have author : state.message.author = drafted.message.author := by rw [kept]
          have text : state.message.message = drafted.message.message := by rw [kept]
          have source : state.message.source = drafted.message.source := by rw [kept]
          have chosen : state.preferences =
              enricher.preferences.choose state.message.author
                (ColourChoice.ofText? state.message.message) := by
            rw [author, text]
            exact preferences_runCommand rfl now
          exact .inr ⟨incoming, _, _, rfl, rfl, enrich_of_shown blank, author, text, source, chosen,
            rfl⟩

/-- What is let through depends on the options alone. -/
theorem accepted?_live (enricher : Enricher) (value : Json) (origin : Option Platform)
    (now : Duration) :
    enricher.accepted? (.live value origin now) =
      (heard? enricher.options value origin).map fun heard =>
        (heard.2.author, heard.2.message) := by
  rw [accepted?]
  rcases enricher.enrichValue_cases value origin now with
    ⟨unheard, reason, dropped⟩ | ⟨incoming, message, changed, -, heard, taken, author, text, -⟩
  · rw [unheard, dropped]
    rfl
  · rw [heard, taken]
    dsimp only [Option.map_some]
    rw [author, text]

theorem accepted?_congr {left right : Enricher} (same : left.options = right.options)
    (event : ChatEvent) : left.accepted? event = right.accepted? event := by
  cases event with
  | live value origin now => rw [accepted?_live, accepted?_live, same]
  | replay row => rfl

theorem options_step (enricher : Enricher) (event : ChatEvent) :
    (enricher.step event).options = enricher.options := by
  cases event with
  | live value origin now =>
      rw [step]
      exact enricher.options_enrichValue value origin now
  | replay row =>
      rw [step]
      exact enricher.options_rehydrate row

theorem options_run (enricher : Enricher) (events : List ChatEvent) :
    (enricher.run events).options = enricher.options := by
  induction events generalizing enricher with
  | nil => rfl
  | cons event rest ih => exact (ih (enricher.step event)).trans (enricher.options_step event)

theorem run_append (enricher : Enricher) (first second : List ChatEvent) :
    enricher.run (first ++ second) = (enricher.run first).run second :=
  List.foldl_append

theorem said_append (enricher : Enricher) (first second : List ChatEvent) :
    enricher.said (first ++ second) = enricher.said first ++ (enricher.run first).said second := by
  induction first generalizing enricher with
  | nil => rfl
  | cons event rest ih =>
      rw [List.cons_append, said, said, ih, List.append_assoc]
      rfl

theorem said_congr {left right : Enricher} (same : left.options = right.options)
    (events : List ChatEvent) : left.said events = right.said events := by
  induction events generalizing left right with
  | nil => rfl
  | cons event rest ih =>
      rw [said, said, accepted?_congr same, ih]
      rw [options_step, options_step, same]

/-- A replay makes no choice. -/
theorem preferences_rehydrate (enricher : Enricher) (row : StoredMessage) :
    (enricher.rehydrate row).2.preferences = enricher.preferences := by
  unfold rehydrate enrich
  dsimp only
  split <;> rfl

/-- What an enricher remembers under a name after an event. -/
theorem get?_step (enricher : Enricher) (event : ChatEvent) (author : String) :
    (enricher.step event).preferences.get? author =
      match lastChoice? (enricher.accepted? event).toList author with
      | some choice => choice.colour?
      | none => enricher.preferences.get? author := by
  cases event with
  | live value origin now =>
      rw [step, accepted?]
      rcases enricher.enrichValue_cases value origin now with
        ⟨-, reason, dropped⟩ | ⟨incoming, message, changed, -, -, taken, -, -, -, chosen, -⟩
      · rw [dropped]
        rfl
      · rw [taken]
        dsimp only [Option.toList_some]
        rw [chosen, ColourPreferences.get?_choose, lastChoice?_singleton]
  | replay row =>
      rw [step, preferences_rehydrate]
      rfl

/-- **What an enricher remembers.** Under each name it is the choice that was made last, and what
was remembered at first if none was made. -/
theorem get?_run (enricher : Enricher) (events : List ChatEvent) (author : String) :
    (enricher.run events).preferences.get? author =
      match lastChoice? (enricher.said events) author with
      | some choice => choice.colour?
      | none => enricher.preferences.get? author := by
  induction events generalizing enricher with
  | nil => rfl
  | cons event rest ih =>
      rw [said, lastChoice?_append]
      refine (ih (enricher.step event)).trans ?_
      rw [get?_step]
      cases lastChoice? ((enricher.step event).said rest) author <;> rfl

/-- The colour of a message, from what was said up to it. -/
theorem colour_of_taken {enricher : Enricher} (unchosen : enricher.preferences = .empty)
    {events : List ChatEvent} {value : Json} {origin : Option Platform} {now : Duration}
    {message : EnrichedMessage} {changed : Enricher}
    (taken : (enricher.run events).enrichValue value origin now = (.ok message, changed)) :
    ∃ incoming, IncomingMessage.decode value.outline = .ok incoming ∧
      message.message.author = authorOf enricher.options message.message.source
        (incoming.author.getD "") ∧
      message.message.message = trimmed (incoming.message.getD "") ∧
      message.message.colour =
        ((chosenColour?
            (enricher.said events ++ [(message.message.author, message.message.message)])
            message.message.author).or (suppliedColour? incoming)).getD
          (fallbackColour message.message.author) := by
  rcases (enricher.run events).enrichValue_cases value origin now with
    ⟨-, reason, dropped⟩ |
      ⟨incoming, other, next, decoded, -, same, author, text, source, -, colour⟩
  · rw [dropped] at taken
    cases taken
  · rw [taken] at same
    cases same
    refine ⟨incoming, decoded, ?_, text, ?_⟩
    · rw [author, source, options_run]
      rfl
    · have run : enricher.run (events ++ [.live value origin now]) = changed := by
        rw [run_append]
        exact congrArg Prod.snd taken
      have said : enricher.said (events ++ [.live value origin now]) =
          enricher.said events ++ [(message.message.author, message.message.message)] := by
        rw [said_append, Enricher.said, accepted?, taken]
        rfl
      have chosen := enricher.get?_run (events ++ [.live value origin now]) message.message.author
      rw [run, said, unchosen, ColourPreferences.get?_empty] at chosen
      rw [colour, chosen, chosenColour?]
      cases lastChoice? _ _ <;> rfl

/-- An event by which no choice was made under a name changes nothing there. -/
theorem lastChoice?_said_of_irrelevant (enricher : Enricher) {earlier : List ChatEvent}
    {event : ChatEvent} {author : String}
    (irrelevant : ∀ entry ∈ (enricher.run earlier).accepted? event,
      nameKey entry.1 = nameKey author → ColourChoice.ofText? entry.2 = none)
    (later : List ChatEvent) :
    lastChoice? (enricher.said (earlier ++ event :: later)) author =
      lastChoice? (enricher.said (earlier ++ later)) author := by
  have silent : lastChoice? ((enricher.run earlier).accepted? event).toList author = none := by
    cases spoken : (enricher.run earlier).accepted? event with
    | none => rfl
    | some entry =>
        rw [Option.toList_some, lastChoice?_singleton]
        split
        · rename_i same
          exact irrelevant entry spoken same
        · rfl
  have same := said_congr ((enricher.run earlier).options_step event) later
  rw [said_append, said_append, said, lastChoice?_append, lastChoice?_append, lastChoice?_append,
    silent, same, Option.or_none]

/-- **Colours follow from what was said.** An enricher starts without choices. The colour of a live
message is the one that was chosen last under the name of its author, up to and with this message,
unless the choice was to have none; else the colour that came with the message, and else the one
that belongs to the name. An event by which no choice was made under the name could as well have
been left out. -/
theorem colour_follows_history {enricher : Enricher} (unchosen : enricher.preferences = .empty)
    {events : List ChatEvent} {value : Json} {origin : Option Platform} {now : Duration}
    {message : EnrichedMessage} {changed : Enricher}
    (taken : (enricher.run events).enrichValue value origin now = (.ok message, changed)) :
    let author := message.message.author
    let said := enricher.said events ++ [(author, message.message.message)]
    (∃ incoming, IncomingMessage.decode value.outline = .ok incoming ∧
      author = authorOf enricher.options message.message.source (incoming.author.getD "") ∧
      message.message.message = trimmed (incoming.message.getD "") ∧
      message.message.colour =
        ((chosenColour? said author).or (suppliedColour? incoming)).getD (fallbackColour author)) ∧
    ∀ earlier event later, events = earlier ++ event :: later →
      (∀ entry ∈ (enricher.run earlier).accepted? event, nameKey entry.1 = nameKey author →
        ColourChoice.ofText? entry.2 = none) →
      ∃ other next,
        (enricher.run (earlier ++ later)).enrichValue value origin now = (.ok other, next) ∧
        other.message.author = author ∧ other.message.colour = message.message.colour := by
  intro author said
  obtain ⟨incoming, decoded, named, text, colour⟩ := colour_of_taken unchosen taken
  refine ⟨⟨incoming, decoded, named, text, colour⟩, ?_⟩
  rintro earlier event later rfl irrelevant
  have options : (enricher.run (earlier ++ later)).options =
      (enricher.run (earlier ++ event :: later)).options := by
    rw [options_run, options_run]
  have heard := accepted?_congr options (.live value origin now)
  rw [accepted?, accepted?, taken] at heard
  rcases taken' : (enricher.run (earlier ++ later)).enrichValue value origin now with
    ⟨reason | other, next⟩
  · rw [taken'] at heard
    cases heard
  · rw [taken'] at heard
    simp only [Option.some.injEq, Prod.mk.injEq] at heard
    obtain ⟨again, same, -, -, colour'⟩ := colour_of_taken unchosen taken'
    rw [decoded] at same
    cases same
    refine ⟨other, next, rfl, heard.1, ?_⟩
    have without := enricher.lastChoice?_said_of_irrelevant irrelevant later
    rw [colour', colour, heard.1, heard.2, chosenColour?, chosenColour?, lastChoice?_append,
      lastChoice?_append, without]

/-- What a sender gives for a message. -/
def spokenValue (author text : String) : Json :=
  .object [("author", .string author), ("message", .string text)]

def spoken (author text : String) : ChatEvent := .live (spokenValue author text) none 0

/-- Ann chooses a colour, and later one that does not exist. Her choice of another colour is
replayed, and a message without a text is dropped. -/
def chatter : List ChatEvent :=
  [spoken "Ann" " !COLOUR #ABC", spoken "ann" "!colour red", spoken "ann" "",
    .replay { StoredMessage.new "1" ⟨0, 0⟩ with username := "ann", text := "!color #000" }]

/-- Her name is shown in the colour that she chose, whatever bob has chosen before. -/
theorem colour_follows_history_chatter :
    ∃ message changed other next,
      (newcomer.run (spoken "bob" "!colour #123" :: chatter)).enrichValue
        (spokenValue " ANN" "hi") none 0 = (.ok message, changed) ∧
      message.message.author = "ANN" ∧ message.message.colour = "#abc" ∧
      (newcomer.run chatter).enrichValue (spokenValue " ANN" "hi") none 0 = (.ok other, next) ∧
      other.message.colour = message.message.colour := by
  have outcome :
      (match (newcomer.run (spoken "bob" "!colour #123" :: chatter)).enrichValue
          (spokenValue " ANN" "hi") none 0 with
        | (.ok message, _) => message.message.author == "ANN" && message.message.colour == "#abc"
        | (.error _, _) => false) = true := by decide +kernel
  have bob : newcomer.accepted? (spoken "bob" "!colour #123") = some ("bob", "!colour #123") := by
    decide +kernel
  have different : nameKey "bob" ≠ nameKey "ANN" := by decide +kernel
  rcases taken : (newcomer.run (spoken "bob" "!colour #123" :: chatter)).enrichValue
      (spokenValue " ANN" "hi") none 0 with ⟨reason | message, changed⟩
  · rw [taken] at outcome
    cases outcome
  · rw [taken, Bool.and_eq_true, beq_iff_eq, beq_iff_eq] at outcome
    obtain ⟨-, without⟩ := colour_follows_history rfl taken
    rw [outcome.1] at without
    obtain ⟨other, next, again, -, colour⟩ := without [] _ chatter rfl (by
      intro entry said same
      cases bob.symm.trans said
      exact absurd same different)
    exact ⟨message, changed, other, next, rfl, outcome.1, outcome.2, again, colour⟩

end Enricher

end LiveChat.Chat
