import LiveChat.Proofs.Chat.Replay

/-!
# Columns in place of a payload

A stored row tells its message twice: as a payload, and in columns that hold the emotes as a list
and the badges as shorthands. A row whose payload cannot be read is rebuilt from its columns
(`Enricher.incomingOfRow_of_unreadable`). That gives what the payload gives, but for the colour, and
for the badges whose id has a slash (`Enricher.columns_tell_message`).
-/

namespace LiveChat.Chat

open LiveChat.Text LiveChat.Json LiveChat.Time LiveChat.Store

/-- A text in the place of a payload that is blank or no message. -/
def HoldsNoMessage (raw : String) : Prop :=
  isBlankText raw = true ∨ ∃ fault, decodeText IncomingMessage.decode raw = .error fault

/-- The column for emotes holds what the payload holds. -/
theorem read?_emotesJson (message : ChatMessage) :
    Json.read? (EnrichedMessage.ofMessage message).emotesJson =
      some (.array (message.emotes.map Emote.sortedJson)) := by
  have read := Outline.itemValues?_map (fun emote : Emote => emote.value?_toJson 123)
    message.emotes
  rw [EnrichedMessage.ofMessage, Json.read?,
    (IsExact.array_map Emote.isExact_toJson message.emotes).read?_text, Option.bind_some, outline,
    maxDepth, Outline.value?, read, Option.map_some]

theorem read?_badgesJson (message : ChatMessage) :
    Json.read? (EnrichedMessage.ofMessage message).badgesJson =
      some (.array (message.badges.map fun badge => .string badge.shorthand)) := by
  have read (badge : Badge) : (Json.string badge.shorthand).outline.value? 126 =
    some (.string badge.shorthand) := rfl
  rw [EnrichedMessage.ofMessage, Json.read?,
    (IsExact.array_map (fun _ => .string _) message.badges).read?_text, Option.bind_some, outline,
    maxDepth, Outline.value?, Outline.itemValues?_map read, Option.map_some]

/-- The badges of a message as its column tells them, if badges are wanted. -/
def EnrichOptions.badgesFrom (options : EnrichOptions) (message : ChatMessage) : List Badge :=
  if options.showBadges then
    IncomingMessage.readEach Badge.ofJson?
      (.array (message.badges.map fun badge => .string badge.shorthand))
  else []

/-- The column tells the badges of a message unless one of them has a slash in its id. -/
theorem badgesFrom_eq_iff {options : EnrichOptions} {message : ChatMessage}
    (settled : message.IsSettled options) :
    options.badgesFrom message = message.badges ↔
      ∀ badge ∈ message.badges, '/' ∉ badge.id.toList := by
  unfold EnrichOptions.badgesFrom
  by_cases shows : options.showBadges = true
  · rw [if_pos shows, IncomingMessage.readEach, List.filterMap_map]
    conv => lhs; rhs; rw [← List.map_id message.badges]
    rw [List.filterMap_eq_map_iff_forall_eq_some]
    exact forall₂_congr fun badge member =>
      Badge.ofJson?_shorthand_iff (settled.badges badge member)
  · rw [if_neg shows, settled.hidden (Bool.eq_false_iff.mpr shows)]
    exact ⟨fun _ badge member => absurd member List.not_mem_nil, fun _ => rfl⟩

namespace IncomingMessage

/-- What the columns of the stored row of a message say. -/
def ofColumns (message : ChatMessage) : IncomingMessage :=
  { ofMessage message with
    colour := none
    badges := .array (message.badges.map fun badge => .string badge.shorthand) }

end IncomingMessage

namespace Enricher

variable {enricher live replayer : Enricher} {origin : Option Platform} {now : Duration}

/-- A payload that cannot be read counts as none. -/
theorem incomingOfRow_of_unreadable {row : StoredMessage}
    (unreadable : HoldsNoMessage row.rawJson) :
    incomingOfRow row = incomingOfRow { row with rawJson := "" } := by
  unfold incomingOfRow
  by_cases blank : isBlankText row.rawJson = true
  · rw [if_pos blank]
    rfl
  · obtain ⟨fault, failed⟩ := unreadable.resolve_left blank
    rw [if_neg blank, failed]
    rfl

/-- Without its payload, the stored row of a message says what its columns say. -/
theorem incomingOfRow_columns (message : ChatMessage) (id : String) (time : Timestamp) :
    incomingOfRow { (EnrichedMessage.ofMessage message).toStored id time with rawJson := "" } =
      .ofColumns message := by
  have blank : isBlankText "" = true := rfl
  unfold incomingOfRow
  simp only [blank, ↓reduceIte, IncomingMessage.empty, orElseColumn, orElseJson,
    EnrichedMessage.toStored, read?_emotesJson, read?_badgesJson, Option.getD_some]
  rfl

/-- Only the badges of a draft depend on what was said about badges, and nothing on the colour. -/
theorem draft_of_badges (options : EnrichOptions) (incoming : IncomingMessage)
    (origin : Option Platform) (colour : Option String) (badges : Json) :
    draft options { incoming with colour := colour, badges := badges } origin =
      { draft options incoming origin with
        badges :=
          if options.showBadges then IncomingMessage.readEach Badge.ofJson? badges else [] } := by
  simp only [draft, sourceOf, IncomingMessage.readEmotes, IncomingMessage.readBadges]

/-- The replay of a settled message without its payload: no colour is supplied, and the badges are
those that the column tells. -/
theorem rehydrate_columns {message : ChatMessage} (settled : message.IsSettled replayer.options)
    (id : String) (time : Timestamp) {raw : String} (unreadable : HoldsNoMessage raw) :
    let author := authorOf replayer.options message.source message.author
    replayer.rehydrate
        { (EnrichedMessage.ofMessage message).toStored id time with rawJson := raw } =
      (.ok (.ofMessage { message with
          author := author
          fragments := tokenize (replayer.emotes.insertAll message.emotes) message.message
          badges := replayer.options.badgesFrom message
          colour := (replayer.preferences.get? author).getD (fallbackColour author) }),
        { replayer with emotes := replayer.emotes.insertAll message.emotes }) := by
  have redrafted : draft replayer.options (.ofColumns message) none = _ :=
    draft_of_badges _ _ _ _ _
  rw [draft_ofMessage settled] at redrafted
  have shown : (draft replayer.options (.ofColumns message) none).isBlank = false := by
    rw [redrafted]
    exact settled.shown
  have uncoloured : suppliedColour? (.ofColumns message) = none := rfl
  rw [rehydrate, incomingOfRow_of_unreadable unreadable, incomingOfRow_columns,
    enrich_of_shown shown]
  simp only [runCommand_replay, drafted, redrafted, colourOf, uncoloured, Option.or_none,
    EnrichOptions.badgesFrom]

/-- **Columns in place of the payload.** The stored row of a message that was let through and the
same row without a readable payload are both taken in, to the same effect on the replaying enricher.
They are replayed with the same author, text, source, emotes and fragments, and with the same badges
if and only if no badge of the message has a slash in its id: such badges, and no others, are not
read back from their shorthand. -/
theorem columns_tell_message {value : Json} {message : EnrichedMessage}
    (taken : enricher.enrichValue value origin now = (.ok message, live))
    (sameOptions : replayer.options = enricher.options) (id : String) (time : Timestamp)
    {raw : String} (unreadable : HoldsNoMessage raw) :
    ∃ fromPayload fromColumns after,
      replayer.rehydrate (message.toStored id time) = (.ok fromPayload, after) ∧
      replayer.rehydrate { message.toStored id time with rawJson := raw } =
        (.ok fromColumns, after) ∧
      fromColumns.message.author = fromPayload.message.author ∧
      fromColumns.message.message = fromPayload.message.message ∧
      fromColumns.message.source = fromPayload.message.source ∧
      fromColumns.message.emotes = fromPayload.message.emotes ∧
      fromColumns.message.fragments = fromPayload.message.fragments ∧
      (fromColumns.message.badges = fromPayload.message.badges ↔
        ∀ badge ∈ message.message.badges, '/' ∉ badge.id.toList) ∧
      ∀ badge ∈ message.message.badges,
        (Badge.ofJson? (.string badge.shorthand) = some badge ↔ '/' ∉ badge.id.toList) := by
  obtain ⟨incoming, taken⟩ := exists_incoming taken
  have settled := isSettled_enrich taken
  rw [← sameOptions] at settled
  have payload := rehydrate_of_settled settled id time
  have columns := rehydrate_columns settled id time unreadable
  rw [ofMessage_of_enrich taken] at payload columns
  exact ⟨_, _, _, payload, columns, rfl, rfl, rfl, rfl, rfl, badgesFrom_eq_iff settled,
    fun badge member => Badge.ofJson?_shorthand_iff (settled.badges badge member)⟩

/-- A greeting with a badge whose id has a slash. -/
def badgedGreeting : Json :=
  .object
    [("author", .string "ann"), ("message", .string "hi"),
     ("badges", .array [.string "mod/1", .object [("id", .string "sub/gift")]])]

theorem columns_tell_message_badgedGreeting :
    ∃ message live fromPayload fromColumns after,
      newcomer.enrichValue badgedGreeting none 0 = (.ok message, live) ∧
      live.options = newcomer.options ∧ HoldsNoMessage "garbage" ∧
      live.rehydrate (message.toStored "1" ⟨0, 0⟩) = (.ok fromPayload, after) ∧
      live.rehydrate { message.toStored "1" ⟨0, 0⟩ with rawJson := "garbage" } =
        (.ok fromColumns, after) ∧
      fromColumns.message.author = fromPayload.message.author ∧
      fromColumns.message.badges ≠ fromPayload.message.badges := by
  have garbage : HoldsNoMessage "garbage" := by
    have unread : (Outline.read? "garbage").isNone = true := by decide +kernel
    exact .inr ⟨.unreadable, by rw [decodeText, Option.isNone_iff_eq_none.mp unread]⟩
  have outcome : (newcomer.enrichValue badgedGreeting none 0).1.toOption.map
      (fun message => message.message.badges) = some [⟨"mod", "1"⟩, ⟨"sub/gift", ""⟩] := by
    decide +kernel
  obtain ⟨message, live, taken, badges⟩ := exists_taken outcome
  have options := options_enrichValue newcomer badgedGreeting none 0
  rw [taken] at options
  obtain ⟨fromPayload, fromColumns, after, payload, columns, author, -, -, -, -, same, -⟩ :=
    columns_tell_message taken options "1" ⟨0, 0⟩ garbage
  refine ⟨message, live, fromPayload, fromColumns, after, taken, options, garbage, payload,
    columns, author, fun equal => ?_⟩
  have noSlash := same.mp equal ⟨"sub/gift", ""⟩ (by rw [badges]; decide)
  exact noSlash (by decide)

end Enricher

end LiveChat.Chat
