import LiveChat.Proofs.Chat.Commands
import LiveChat.Proofs.Chat.EmoteCache
import LiveChat.Proofs.Chat.Records
import LiveChat.Proofs.Chat.Rehydration

/-!
# A replay shows the message again

Whatever comes out of an enricher is settled: its texts are trimmed, its emotes are named and its
badges are tidy (`Enricher.isSettled_enrich`). The stored row of a settled message says the message
(`Enricher.incomingOfRow_toStored`), and cleaning it up once more changes nothing but perhaps the
name of the author (`Enricher.draft_ofMessage`). So a replay is never dropped and shows the same
message, in its colour if that is one which a payload can tell (`Enricher.rehydrate_toStored`). A
colour between blanks is not (`Enricher.blanks_around_colour_are_lost`).
-/

namespace LiveChat.Chat

open LiveChat.Text LiveChat.Json LiveChat.Time LiveChat.Store

/-- What an enricher with some options sees to in every message that it lets through. -/
structure ChatMessage.IsSettled (options : EnrichOptions) (message : ChatMessage) : Prop where
  shown : message.isBlank = false
  text : IsTrimmed message.message
  emotes : ∀ emote ∈ message.emotes, isBlankText emote.name = false
  badges : ∀ badge ∈ message.badges, badge.IsTidy
  hidden : options.showBadges = false → message.badges = []

/-- A colour that a payload can tell: what is read is trimmed, and passed over if nothing is left of
it. -/
def IsToldColour (colour : String) : Prop := IsTrimmed colour ∧ colour ≠ ""

namespace Enricher

variable {enricher live replayer : Enricher} {incoming : IncomingMessage}
  {origin : Option Platform} {commands : Bool} {now : Duration}

/-- The state in which the command of a message is carried out. -/
def drafted (enricher : Enricher) (incoming : IncomingMessage) (origin : Option Platform) :
    CommandState :=
  let message := draft enricher.options incoming origin
  ⟨{ message with
      fragments := tokenize (enricher.emotes.insertAll message.emotes) message.message },
    enricher.preferences, enricher.help⟩

/-- The colour of a message once its command is carried out. -/
def colourOf (incoming : IncomingMessage) (state : CommandState) : String :=
  ((state.preferences.get? state.message.author).or (suppliedColour? incoming)).getD
    (fallbackColour state.message.author)

theorem enrich_of_shown
    (shown : (draft enricher.options incoming origin).isBlank = false) :
    enricher.enrich incoming origin commands now =
      let state := runCommand (enricher.drafted incoming origin) commands now
      (.ok (.ofMessage { state.message with colour := colourOf incoming state }),
        { enricher with
          emotes := enricher.emotes.insertAll (draft enricher.options incoming origin).emotes
          preferences := state.preferences
          help := state.help }) := by
  have kept := of_decide_eq_false shown
  rw [enrich]
  simp only [if_neg kept]
  rfl

theorem shown_of_enrich {message : EnrichedMessage}
    (taken : enricher.enrich incoming origin commands now = (.ok message, live)) :
    (draft enricher.options incoming origin).isBlank = false := by
  have accepted := isOk_enrich enricher incoming origin commands now
  rw [taken] at accepted
  simpa [Except.isOk, Except.toBool] using accepted.symm

theorem isSettled_draft (options : EnrichOptions)
    (shown : (draft options incoming origin).isBlank = false) :
    (draft options incoming origin).IsSettled options where
  shown := shown
  text := isTrimmed_trimmed _
  emotes _ member := IncomingMessage.named_of_mem_readEmotes member
  badges badge member := by
    unfold draft at member
    dsimp only at member
    split at member
    · exact IncomingMessage.isTidy_of_mem_readBadges member
    · cases member
  hidden hides := by
    unfold draft
    simp [hides]

/-- The stored row of a message says the message. -/
theorem incomingOfRow_toStored (message : ChatMessage) (id : String) (time : Timestamp) :
    incomingOfRow ((EnrichedMessage.ofMessage message).toStored id time) =
      .ofMessage message := by
  have written : isBlankText message.payload = false := by
    rw [isBlankText, ChatMessage.payload, Json.text, String.toList_ofList, ChatMessage.toJson,
      print, List.cons_append, List.cons_append, List.all_cons]
    rfl
  have column (text : String) : orElseColumn (some text) text = some text := by
    unfold orElseColumn
    split
    · rename_i given same
      cases same
      split <;> rfl
    · rfl
  have row : ((EnrichedMessage.ofMessage message).toStored id time).rawJson = message.payload := rfl
  rw [incomingOfRow, row, written, IncomingMessage.decodeText_payload]
  simp [EnrichedMessage.toStored, EnrichedMessage.ofMessage, IncomingMessage.ofMessage, column,
    orElseJson]

/-- Cleaning up a settled message changes at most the name of its author. -/
theorem draft_ofMessage {options : EnrichOptions} {message : ChatMessage}
    (settled : message.IsSettled options) :
    draft options (.ofMessage message) none =
      { message with
        author := authorOf options message.source message.author
        fragments := []
        colour := "" } := by
  have source : sourceOf (.ofMessage message) none = message.source := by
    simp only [sourceOf, IncomingMessage.ofMessage, Option.map_some, Option.getD_some,
      Platform.ofLabel_label]
    cases message.source <;> rfl
  have text : trimmed message.message = message.message := settled.text
  have badges : (if options.showBadges then (IncomingMessage.ofMessage message).readBadges else []) =
      message.badges := by
    split
    · exact IncomingMessage.readBadges_ofMessage settled.badges
    · rename_i hides
      exact (settled.hidden (Bool.eq_false_iff.mpr hides)).symm
  simp only [draft, source, badges, IncomingMessage.readEmotes_ofMessage settled.emotes]
  simp [IncomingMessage.ofMessage, text]

/-- A colour that nobody chose can be told. -/
theorem isToldColour_unchosen (incoming : IncomingMessage) (name : String) :
    IsToldColour ((suppliedColour? incoming).getD (fallbackColour name)) := by
  cases supplied : suppliedColour? incoming with
  | none =>
      rw [Option.getD_none]
      exact isTrimmed_of_isHexColour (isHexColour_fallbackColour name)
  | some colour =>
      obtain ⟨given, visible⟩ := Option.filter_eq_some_iff.mp supplied
      obtain ⟨text, -, rfl⟩ := Option.map_eq_some_iff.mp given
      rw [Option.getD_some]
      exact ⟨isTrimmed_trimmed text, bne_iff_ne.mp visible⟩

theorem isToldColour_colourOf_iff {state : CommandState} :
    IsToldColour (colourOf incoming state) ↔
      ∀ chosen ∈ state.preferences.get? state.message.author, IsToldColour chosen := by
  unfold colourOf
  cases state.preferences.get? state.message.author with
  | some colour => simp
  | none =>
      rw [Option.none_or]
      exact ⟨fun _ => nofun, fun _ => isToldColour_unchosen incoming _⟩

/-- The payload of a message tells its colour if it can be told, and another one otherwise. -/
theorem unchosen_ofMessage_iff {message : ChatMessage} {name : String} :
    (suppliedColour? (.ofMessage message)).getD (fallbackColour name) = message.colour ↔
      IsToldColour message.colour := by
  constructor
  · intro same
    rw [← same]
    exact isToldColour_unchosen _ name
  · rintro ⟨clean, visible⟩
    have supplied : suppliedColour? (.ofMessage message) = some message.colour := by
      rw [suppliedColour?, IncomingMessage.ofMessage, Option.map_some, clean, Option.filter_some,
        if_pos (bne_iff_ne.mpr visible)]
    rw [supplied, Option.getD_some]

/-- What a command chooses for its author can be told. -/
theorem isToldColour_runCommand {state : CommandState}
    (told : ∀ chosen ∈ state.preferences.get? state.message.author, IsToldColour chosen)
    (commands : Bool) (now : Duration) :
    ∀ chosen ∈ (runCommand state commands now).preferences.get? state.message.author,
      IsToldColour chosen := by
  rcases runCommand_eq_or state commands now with same | ⟨outcome, done⟩
  · rwa [same]
  · obtain ⟨-, -, -, same⟩ | ⟨-, -, -, same⟩ | ⟨command, value, -, -, -, chosen⟩ :=
      CommandState.apply_cases done
    · rwa [same]
    · rwa [same]
    · obtain ⟨-, -, same⟩ | ⟨-, hex, -, same⟩ := chosen
      · rw [same]
        simp [ColourPreferences.get?, ColourPreferences.clear]
      · rw [same]
        have lowered : IsToldColour (lowercase value) :=
          isTrimmed_of_isHexColour (isHexColour_lowercase hex)
        simpa [ColourPreferences.get?, ColourPreferences.set] using lowered

/-- What an enricher lets through, part by part. -/
theorem enrich_eq_ok {message : EnrichedMessage}
    (taken : enricher.enrich incoming origin commands now = (.ok message, live)) :
    ∃ state, runCommand (enricher.drafted incoming origin) commands now = state ∧
      message = .ofMessage { state.message with colour := colourOf incoming state } ∧
      live = { enricher with
        emotes := enricher.emotes.insertAll (draft enricher.options incoming origin).emotes
        preferences := state.preferences
        help := state.help } := by
  rw [enrich_of_shown (shown_of_enrich taken)] at taken
  cases taken
  exact ⟨_, rfl, rfl, rfl⟩

section Taken

variable {message : EnrichedMessage}
  (taken : enricher.enrich incoming origin commands now = (.ok message, live))

include taken

theorem ofMessage_of_enrich : EnrichedMessage.ofMessage message.message = message := by
  obtain ⟨state, -, rfl, -⟩ := enrich_eq_ok taken
  rfl

/-- But for its fragments and its colour, a message comes out as it was drafted. -/
theorem message_of_enrich :
    message.message =
      { draft enricher.options incoming origin with
        fragments := message.message.fragments
        colour := message.message.colour } := by
  obtain ⟨state, ran, rfl, -⟩ := enrich_eq_ok taken
  have kept := message_runCommand (enricher.drafted incoming origin) commands now
  rw [ran] at kept
  simp only [EnrichedMessage.ofMessage]
  rw [kept]
  rfl

theorem emotes_of_enrich : live.emotes = enricher.emotes.insertAll message.message.emotes := by
  obtain ⟨state, -, -, after⟩ := enrich_eq_ok taken
  rw [message_of_enrich taken, after]

theorem isSettled_enrich : message.message.IsSettled enricher.options := by
  have settled := isSettled_draft enricher.options (shown_of_enrich taken)
  rw [message_of_enrich taken]
  exact ⟨settled.shown, settled.text, settled.emotes, settled.badges, settled.hidden⟩

theorem isToldColour_of_enrich_iff : IsToldColour message.message.colour ↔
    ∀ chosen ∈ live.preferences.get? message.message.author, IsToldColour chosen := by
  obtain ⟨state, -, rfl, rfl⟩ := enrich_eq_ok taken
  exact isToldColour_colourOf_iff

theorem isToldColour_preference
    (told : ∀ chosen ∈ enricher.preferences.get? message.message.author, IsToldColour chosen) :
    ∀ chosen ∈ live.preferences.get? message.message.author, IsToldColour chosen := by
  obtain ⟨state, ran, rfl, rfl⟩ := enrich_eq_ok taken
  have kept := message_runCommand (enricher.drafted incoming origin) commands now
  rw [ran] at kept
  have author : state.message.author = (enricher.drafted incoming origin).message.author := by
    rw [kept]
  simp only [EnrichedMessage.ofMessage] at told ⊢
  rw [author] at told ⊢
  rw [← ran]
  exact isToldColour_runCommand told commands now

/-- Unless the help text is shown in its place, the text of a message is shown as it is cut. -/
theorem fragments_of_enrich
    (noHelp : ¬ CommandState.ShowsHelp
      ⟨{ message.message with fragments := tokenize live.emotes message.message.message },
        enricher.preferences, enricher.help⟩ now) :
    message.message.fragments = tokenize live.emotes message.message.message := by
  rw [emotes_of_enrich taken] at noHelp ⊢
  obtain ⟨state, ran, rfl, -⟩ := enrich_eq_ok taken
  have kept := message_runCommand (enricher.drafted incoming origin) commands now
  rw [ran] at kept
  have cut : (enricher.drafted incoming origin).message.fragments =
      tokenize (enricher.emotes.insertAll state.message.emotes) state.message.message := by
    rw [kept]
    rfl
  have quiet : ¬ (enricher.drafted incoming origin).ShowsHelp now := by
    rw [CommandState.showsHelp_iff, CommandState.command?] at noHelp ⊢
    rw [cut]
    exact noHelp
  have shown := fragments_runCommand commands quiet
  rw [ran] at shown
  exact shown.trans cut

end Taken

theorem exists_incoming {value : Json} {message : EnrichedMessage}
    (taken : enricher.enrichValue value origin now = (.ok message, live)) :
    ∃ incoming, enricher.enrich incoming origin true now = (.ok message, live) := by
  unfold enrichValue at taken
  split at taken
  · rename_i incoming _
    exact ⟨incoming, taken⟩
  · cases taken

/-- A message of which something can be told was let through. -/
theorem exists_taken {α : Type} {value : Json} {view : EnrichedMessage → α} {told : α}
    (outcome : (enricher.enrichValue value origin now).1.toOption.map view = some told) :
    ∃ message live, enricher.enrichValue value origin now = (.ok message, live) ∧
      view message = told := by
  rcases taken : enricher.enrichValue value origin now with ⟨reason | message, live⟩
  · rw [taken] at outcome
    cases outcome
  · rw [taken] at outcome
    exact ⟨message, live, rfl, Option.some.inj outcome⟩

/-- The replay of a settled message. -/
theorem rehydrate_of_settled {message : ChatMessage} (settled : message.IsSettled replayer.options)
    (id : String) (time : Timestamp) :
    let author := authorOf replayer.options message.source message.author
    replayer.rehydrate ((EnrichedMessage.ofMessage message).toStored id time) =
      (.ok (.ofMessage { message with
          author := author
          fragments := tokenize (replayer.emotes.insertAll message.emotes) message.message
          colour := ((replayer.preferences.get? author).or
            (suppliedColour? (.ofMessage message))).getD (fallbackColour author) }),
        { replayer with emotes := replayer.emotes.insertAll message.emotes }) := by
  have redrafted := draft_ofMessage settled
  have shown : (draft replayer.options (.ofMessage message) none).isBlank = false := by
    rw [redrafted]
    exact settled.shown
  rw [rehydrate, incomingOfRow_toStored, enrich_of_shown shown]
  simp only [runCommand_replay, colourOf, drafted, redrafted]

/-- **Replay.** The stored row of a message that was let through is never dropped. Its replay has
the text, the source, the emotes and the badges of the message. If the replaying enricher knows of
no choice of the author, it has the colour of the message exactly if the choice that the first one
knew of, if any, can be told; a choice that a command makes can be, and so the colour is kept if the
choice before the message can. The replay is cut into fragments with the emotes that the replaying
enricher has, and nothing but those is remembered of it. -/
theorem rehydrate_toStored {value : Json} {message : EnrichedMessage}
    (taken : enricher.enrichValue value origin now = (.ok message, live))
    (sameOptions : replayer.options = enricher.options) (id : String) (time : Timestamp) :
    ∃ replayed,
      replayer.rehydrate (message.toStored id time) =
        (.ok replayed,
          { replayer with emotes := replayer.emotes.insertAll message.message.emotes }) ∧
      replayed.message.message = message.message.message ∧
      replayed.message.source = message.message.source ∧
      replayed.message.emotes = message.message.emotes ∧
      replayed.message.badges = message.message.badges ∧
      replayed.message.fragments =
        tokenize (replayer.emotes.insertAll message.message.emotes) message.message.message ∧
      (replayer.preferences.get? replayed.message.author = none →
        (replayed.message.colour = message.message.colour ↔
          ∀ chosen ∈ live.preferences.get? message.message.author, IsToldColour chosen)) ∧
      ((∀ chosen ∈ enricher.preferences.get? message.message.author, IsToldColour chosen) →
        ∀ chosen ∈ live.preferences.get? message.message.author, IsToldColour chosen) ∧
      (replayer.emotes = live.emotes → enricher.emotes.keepsAll message.message.emotes = true →
        ¬ CommandState.ShowsHelp
            ⟨{ message.message with
                fragments := tokenize live.emotes message.message.message },
              enricher.preferences, enricher.help⟩ now →
        replayed.message.fragments = message.message.fragments) := by
  obtain ⟨incoming, taken⟩ := exists_incoming taken
  have settled := isSettled_enrich taken
  rw [← sameOptions] at settled
  have replay := rehydrate_of_settled settled id time
  rw [ofMessage_of_enrich taken] at replay
  refine ⟨_, replay, rfl, rfl, rfl, rfl, rfl, ?_, isToldColour_preference taken, ?_⟩
  · intro unchosen
    simp only [EnrichedMessage.ofMessage] at unchosen ⊢
    rw [unchosen, Option.none_or, unchosen_ofMessage_iff]
    exact isToldColour_of_enrich_iff taken
  · intro sameCache keeps noHelp
    have emotes := emotes_of_enrich taken
    have again : replayer.emotes.insertAll message.message.emotes = live.emotes := by
      rw [sameCache, emotes, EmoteCache.insertAll_insertAll keeps]
    rw [fragments_of_enrich taken noHelp]
    simp only [EnrichedMessage.ofMessage, again]

/-- A message with markup, with an emote that it brings along, and with two badges. -/
def greeting : Json :=
  .object
    [("Author", .string " @ann"), ("message", .string "red: hi :wave: all"),
     ("source", .string "YT"), ("emotes", .array [.object [("name", .string ":wave:")]]),
     ("badges", .array [.string "mod / 1", .object [("slug", .number (.integer 7))]])]

def newcomer : Enricher := .new .default 0

/-- An enricher that knows of one choice. -/
def newcomerKnowing (author colour : String) : Enricher :=
  { newcomer with preferences := .set .empty author colour }

theorem rehydrate_toStored_greeting :
    ∃ message live replayed,
      (newcomerKnowing "Ann" "#a1b2c3").enrichValue greeting none 0 = (.ok message, live) ∧
      { live with preferences := .empty }.rehydrate (message.toStored "1" ⟨0, 0⟩) =
        (.ok replayed,
          { live with
            preferences := .empty
            emotes := live.emotes.insertAll message.message.emotes }) ∧
      message.message.colour = "#a1b2c3" ∧
      replayed.message.colour = message.message.colour ∧
      replayed.message.badges = message.message.badges ∧
      replayed.message.fragments = message.message.fragments := by
  have outcome :
      (match (newcomerKnowing "Ann" "#a1b2c3").enrichValue greeting none 0 with
        | (.ok message, live) =>
            message.message.colour == "#a1b2c3" &&
            ((newcomerKnowing "Ann" "#a1b2c3").preferences.get? message.message.author
              == some "#a1b2c3" &&
            (newcomer.emotes.keepsAll message.message.emotes &&
              CommandState.command? { message.message with
                fragments := tokenize live.emotes message.message.message } == none))
        | (.error _, _) => false) = true := by decide +kernel
  rcases taken : (newcomerKnowing "Ann" "#a1b2c3").enrichValue greeting none 0 with
    ⟨reason | message, live⟩
  · rw [taken] at outcome
    cases outcome
  · simp only [taken, Bool.and_eq_true, beq_iff_eq] at outcome
    obtain ⟨colour, known, keeps, noCommand⟩ := outcome
    have options := options_enrichValue (newcomerKnowing "Ann" "#a1b2c3") greeting none 0
    rw [taken] at options
    have sameOptions : ({ live with preferences := .empty } : Enricher).options =
        (newcomerKnowing "Ann" "#a1b2c3").options := options
    obtain ⟨replayed, replay, -, -, -, badges, -, sameColour, told, shown⟩ :=
      rehydrate_toStored taken sameOptions "1" ⟨0, 0⟩
    have hex : isHexColour "#a1b2c3" = true := by decide +kernel
    refine ⟨message, live, replayed, rfl, replay, colour, ?_, badges, shown rfl keeps ?_⟩
    · refine (sameColour (ColourPreferences.get?_empty _)).mpr (told ?_)
      rw [known]
      rintro _ ⟨⟩
      exact isTrimmed_of_isHexColour hex
    · rw [CommandState.showsHelp_iff, noCommand]
      rintro ⟨help, -⟩
      cases help

def remark : Json :=
  .object [("author", .string "ann"), ("message", .string "hi"), ("source", .string "twitch")]

/-- What a payload tells of a colour between blanks is the colour without them. -/
theorem blanks_around_colour_are_lost :
    ∃ message live replayed,
      (newcomerKnowing "ann" " #FFF ").enrichValue remark none 0 = (.ok message, live) ∧
      newcomer.options = (newcomerKnowing "ann" " #FFF ").options ∧
      (newcomer.rehydrate (message.toStored "1" ⟨1, 234000000⟩)).1 = .ok replayed ∧
      newcomer.preferences.get? replayed.message.author = none ∧
      message.message.colour = " #FFF " ∧ replayed.message.colour = "#FFF" := by
  have outcome :
      ((newcomerKnowing "ann" " #FFF ").enrichValue remark none 0).1.toOption.map
        (fun message => (message.message.colour,
          (newcomer.rehydrate (message.toStored "1" ⟨1, 234000000⟩)).1.toOption.map
            fun replayed => replayed.message.colour)) =
      some (" #FFF ", some "#FFF") := by decide +kernel
  obtain ⟨message, live, taken, colours⟩ := exists_taken outcome
  obtain ⟨colour, again⟩ := Prod.mk.inj colours
  rcases replay : (newcomer.rehydrate (message.toStored "1" ⟨1, 234000000⟩)).1 with
    reason | replayed
  · rw [replay] at again
    cases again
  · rw [replay] at again
    exact ⟨message, live, replayed, taken, rfl, replay, ColourPreferences.get?_empty _, colour,
      Option.some.inj again⟩

end Enricher

end LiveChat.Chat
