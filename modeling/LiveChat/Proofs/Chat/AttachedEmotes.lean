import LiveChat.Proofs.Chat.Pictures
import LiveChat.Proofs.Chat.Replay

/-!
# The emotes that a message brings along

The emotes of a message are filed before its text is cut. A word of the body that is the name of
one of them is shown as the last emote of that name, unless an emote behind it empties the cache
(`Enricher.attached_emote_is_shown_iff`). Even emotes whose names would all fit into the cache can
do that: the first new one that finds the cache full takes along those before it, which were in it
already (`Enricher.attached_emote_is_forgotten`).
-/

namespace LiveChat.Chat.Enricher

open LiveChat.Text LiveChat.Json LiveChat.Time EmoteCache

variable {enricher live : Enricher} {origin : Option Platform} {now : Duration}
  {before after : List (List Char)} {word : List Char} {emote : Emote} {earlier later : List Emote}

/-- An emote of a message is shown at a word that is its name just when the emotes behind it leave
it in the cache. -/
theorem showsPictureAt_attached_iff {incoming : IncomingMessage} {message : EnrichedMessage}
    {commands : Bool} (taken : enricher.enrich incoming origin commands now = (.ok message, live))
    (last : IsLastOfName message.message.emotes earlier emote later)
    (place : IsBodyWord message.message.message before word after)
    (named : String.ofList word = emote.name) :
    ShowsPictureAt live.emotes message.message.message before.flatten word emote after.flatten ↔
      (enricher.emotes.insertAll (earlier ++ [emote])).keepsAll later = true := by
  have visible : emote.name ≠ "" := by
    rintro blank
    have settled := (isSettled_enrich taken).emotes emote (by simp [last.cut])
    rw [blank] at settled
    cases settled
  rw [showsPictureAt_iff place, named, emotes_of_enrich taken, get?_insertAll_iff last visible]

/-- **Emotes in their own message.** A word of the body of a message that was let through, other
than the command at its head, is shown as the last emote of that name that the message brings along
if and only if no emote behind that one finds the cache full. If the names of all emotes of the
message fit into the cache, this is so just when an emote up to that one finds the cache full, or
none does. Unless the help text is shown in its place, the message is shown as it is cut with these
emotes. -/
theorem attached_emote_is_shown_iff {value : Json} {message : EnrichedMessage}
    (taken : enricher.enrichValue value origin now = (.ok message, live))
    (last : IsLastOfName message.message.emotes earlier emote later)
    (place : IsBodyWord message.message.message before word after)
    (named : String.ofList word = emote.name) :
    (ShowsPictureAt live.emotes message.message.message before.flatten word emote after.flatten ↔
      (enricher.emotes.insertAll (earlier ++ [emote])).keepsAll later = true) ∧
    ((message.message.emotes.map Emote.name).dedup.length ≤ enricher.emotes.capacity →
      (ShowsPictureAt live.emotes message.message.message before.flatten word emote
          after.flatten ↔
        enricher.emotes.keepsAll (earlier ++ [emote]) = false ∨
          enricher.emotes.keepsAll message.message.emotes = true)) ∧
    (¬ CommandState.ShowsHelp
        ⟨{ message.message with fragments := tokenize live.emotes message.message.message },
          enricher.preferences, enricher.help⟩ now →
      message.message.fragments = tokenize live.emotes message.message.message) := by
  obtain ⟨incoming, taken⟩ := exists_incoming taken
  have shown := showsPictureAt_attached_iff taken last place named
  refine ⟨shown, fun fit => ?_, fragments_of_enrich taken⟩
  rw [shown, last.cut]
  exact keepsAll_behind_iff (last.cut ▸ fit)

/-- An emote of which only the name is known. -/
def emoteNamed (name : String) : Emote := { Emote.empty with name := name }

/-- An enricher whose cache is full: it has room for two emotes, and has two. -/
def crowded : Enricher :=
  { newcomer with
    emotes := (withCapacity 2).insertAll [emoteNamed "a", emoteNamed "b"] }

/-- A message that brings emotes along. -/
def messageWith (text : String) (names : List String) : Json :=
  .object
    [("message", .string text),
     ("emotes", .array (names.map fun name => .object [("name", .string name)]))]

theorem attached_emote_is_shown_iff_crowded :
    ∃ message live,
      crowded.enrichValue (messageWith "red: hi a" ["c", "a"]) none 0 = (.ok message, live) ∧
      IsLastOfName message.message.emotes [emoteNamed "c"] (emoteNamed "a") [] ∧
      IsBodyWord message.message.message [['h', 'i']] ['a'] [] ∧
      String.ofList ['a'] = (emoteNamed "a").name ∧
      ShowsPictureAt live.emotes message.message.message ['h', 'i'] ['a'] (emoteNamed "a") [] := by
  have outcome : (crowded.enrichValue (messageWith "red: hi a" ["c", "a"]) none 0).1.toOption.map
      (fun message => (message.message.emotes, message.message.message)) =
        some (["c", "a"].map emoteNamed, "red: hi a") := by
    decide +kernel
  obtain ⟨message, live, taken, told⟩ := exists_taken outcome
  obtain ⟨emotes, text⟩ := Prod.mk.inj told
  have last : IsLastOfName message.message.emotes [emoteNamed "c"] (emoteNamed "a") [] :=
    ⟨emotes, by simp⟩
  have place : IsBodyWord message.message.message [['h', 'i']] ['a'] [] := by
    rw [text]
    exact ⟨by decide +kernel, by simp⟩
  have named : String.ofList ['a'] = (emoteNamed "a").name := rfl
  obtain ⟨-, fits, -⟩ := attached_emote_is_shown_iff taken last place named
  have fit : (message.message.emotes.map Emote.name).dedup.length ≤ crowded.emotes.capacity := by
    rw [emotes]
    decide +kernel
  have cleared : crowded.emotes.keepsAll [emoteNamed "c", emoteNamed "a"] = false := by
    decide +kernel
  exact ⟨message, live, taken, last, place, named, (fits fit).mpr (.inl cleared)⟩

/-- With the cache full of `a` and `b`, a message brings `a` and `c` along, which would fit into the
cache. The new emote `c` empties the cache, and the word `a` of the message is shown as a text. -/
theorem attached_emote_is_forgotten :
    ∃ message live,
      crowded.enrichValue (messageWith "a" ["a", "c"]) none 0 = (.ok message, live) ∧
      (message.message.emotes.map Emote.name).dedup.length ≤ crowded.emotes.capacity ∧
      IsLastOfName message.message.emotes [] (emoteNamed "a") [emoteNamed "c"] ∧
      IsBodyWord message.message.message [] ['a'] [] ∧
      String.ofList ['a'] = (emoteNamed "a").name ∧
      ¬ ShowsPictureAt live.emotes message.message.message [] ['a'] (emoteNamed "a") [] ∧
      message.message.fragments = [.plain .text ['a']] := by
  have outcome : (crowded.enrichValue (messageWith "a" ["a", "c"]) none 0).1.toOption.map
      (fun message =>
        (message.message.emotes, message.message.message, message.message.fragments)) =
        some (["a", "c"].map emoteNamed, "a", [.plain .text ['a']]) := by
    decide +kernel
  obtain ⟨message, live, taken, told⟩ := exists_taken outcome
  obtain ⟨emotes, others⟩ := Prod.mk.inj told
  obtain ⟨text, fragments⟩ := Prod.mk.inj others
  have last : IsLastOfName message.message.emotes [] (emoteNamed "a") [emoteNamed "c"] :=
    ⟨emotes, by decide⟩
  have place : IsBodyWord message.message.message [] ['a'] [] := by
    rw [text]
    exact ⟨by decide +kernel, by decide +kernel⟩
  have named : String.ofList ['a'] = (emoteNamed "a").name := rfl
  have cleared : ¬ (crowded.emotes.insertAll ([] ++ [emoteNamed "a"])).keepsAll [emoteNamed "c"] =
      true := by
    decide +kernel
  obtain ⟨incoming, enriched⟩ := exists_incoming taken
  have shown := showsPictureAt_attached_iff enriched last place named
  refine ⟨message, live, taken, ?_, last, place, named, shown.not.mpr cleared, fragments⟩
  rw [emotes]
  decide +kernel

end LiveChat.Chat.Enricher
