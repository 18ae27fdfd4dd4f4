import LiveChat.Proofs.Chat.Replay

/-!
# The name of an author, cleaned up twice

The name of an author is trimmed, and on YouTube a leading mark is cut off, each time a message goes
through an enricher. What is left of a name can begin with another mark, or with blanks that stood
behind the mark: cleaning it up again takes those away, and leaves every other name as it is
(`Enricher.authorOf_eq_self_iff`). So a replay names the author of the message unless that name
begins in this way (`Enricher.replay_keeps_author_iff`).
-/

namespace LiveChat.Chat

open LiveChat.Text LiveChat.Json LiveChat.Time LiveChat.Store

/-- Names of authors from a platform lose the mark that YouTube puts first. -/
def EnrichOptions.cutsMark (options : EnrichOptions) (source : Platform) : Bool :=
  options.stripYouTubeAt && source == .youTube

/-- A name without the mark in front. -/
def withoutMark : List Char → List Char
  | '@' :: rest => rest
  | name => name

theorem withoutMark_of_ne {name : List Char} (other : name.head? ≠ some '@') :
    withoutMark name = name := by
  unfold withoutMark
  split
  · exact absurd rfl other
  · rfl

theorem withoutMark_suffix (name : List Char) : withoutMark name <:+ name := by
  unfold withoutMark
  split
  · exact List.suffix_cons _ _
  · exact List.suffix_refl _

/-- A name in front of which a mark or a blank would be cut off. -/
def beginsCut (name : List Char) : Bool :=
  name.head?.any fun char => char == '@' || isBlank char

/-- What is left of a name that is trimmed behind is trimmed behind. -/
theorem trimEnd_of_suffix {name rest : List Char} (clean : trimEnd name = name)
    (suffix : rest <:+ name) : trimEnd rest = rest := by
  rw [trimEnd_eq_rdropWhile, List.rdropWhile_eq_self_iff] at clean ⊢
  intro nonempty
  obtain ⟨cut, rfl⟩ := suffix
  have whole : cut ++ rest ≠ [] := List.append_ne_nil_of_right_ne_nil _ nonempty
  rw [← List.getLast_append_of_right_ne_nil cut rest nonempty]
  exact clean whole

theorem trimEnd_trim (name : List Char) : trimEnd (trim name) = trim name := by
  rw [trim, trimEnd_eq_rdropWhile, trimEnd_eq_rdropWhile, List.rdropWhile_idempotent]

/-- Cleaning up a name that is trimmed behind changes it just when something is cut off in front. -/
theorem withoutMark_trim_eq_self_iff {name : List Char} (clean : trimEnd name = name) :
    withoutMark (trim name) = name ↔ beginsCut name = false := by
  cases name with
  | nil => exact ⟨fun _ => rfl, fun _ => rfl⟩
  | cons first rest =>
      by_cases blank : isBlank first = true
      · -- The blank in front is gone for good.
        have shorter : (trimStart (first :: rest)).length ≤ rest.length := by
          rw [trimStart, List.dropWhile_cons_of_pos blank]
          exact (List.dropWhile_suffix _).length_le
        have cut : (withoutMark (trim (first :: rest))).length ≤ (trimStart (first :: rest)).length :=
          (withoutMark_suffix _).length_le.trans (List.rdropWhile_prefix _ _).length_le
        constructor
        · intro same
          rw [same, List.length_cons] at cut
          omega
        · intro solid
          rw [beginsCut, List.head?_cons, Option.any_some, blank, Bool.or_true] at solid
          cases solid
      · have kept : trim (first :: rest) = first :: rest := by
          rw [trim, trimStart_eq_self, clean]
          rintro char first
          cases first
          exact Bool.eq_false_iff.mpr blank
        rw [kept, beginsCut, List.head?_cons, Option.any_some, Bool.eq_false_iff.mpr blank,
          Bool.or_false, beq_eq_false_iff_ne]
        by_cases marked : first = '@'
        · subst marked
          constructor
          · intro same
            have lengths := congrArg List.length same
            rw [withoutMark, List.length_cons] at lengths
            omega
          · exact fun different => absurd rfl different
        · refine ⟨fun _ => marked, fun _ => withoutMark_of_ne ?_⟩
          rw [List.head?_cons]
          exact fun same => marked (Option.some.inj same)

namespace Enricher

variable {options : EnrichOptions} {source : Platform}

theorem authorOf_eq (options : EnrichOptions) (source : Platform) (name : String) :
    authorOf options source name =
      String.ofList
        (if options.cutsMark source then withoutMark (trim name.toList) else trim name.toList) := by
  unfold authorOf EnrichOptions.cutsMark
  dsimp only
  split
  · rename_i rest same
    simp only [same, withoutMark, Bool.and_eq_true, beq_iff_eq, apply_ite String.ofList]
  · rename_i other
    rw [withoutMark_of_ne, ite_self]
    intro marked
    obtain ⟨rest, same⟩ := List.head?_eq_some_iff.mp marked
    exact other rest same

/-- **Cleaning up twice.** The name of an author is changed by cleaning it up again just when it
begins with a mark or a blank on a platform whose mark is cut off. -/
theorem authorOf_eq_self_iff (name : String) :
    authorOf options source (authorOf options source name) = authorOf options source name ↔
      ¬ (options.cutsMark source = true ∧
        beginsCut (authorOf options source name).toList = true) := by
  rw [authorOf_eq options source (authorOf options source name), authorOf_eq options source name]
  by_cases cuts : options.cutsMark source = true
  · have clean : trimEnd (withoutMark (trim name.toList)) = withoutMark (trim name.toList) :=
      trimEnd_of_suffix (trimEnd_trim _) (withoutMark_suffix _)
    rw [if_pos cuts, if_pos cuts, String.toList_ofList, String.ofList_inj,
      withoutMark_trim_eq_self_iff clean]
    simp only [cuts, true_and, Bool.not_eq_true]
  · rw [if_neg cuts, if_neg cuts, String.toList_ofList, trim_trim]
    simp only [cuts, Bool.false_eq_true, false_and, not_false_eq_true]

variable {enricher live replayer : Enricher} {incoming : IncomingMessage}
  {origin : Option Platform} {now : Duration} {message : EnrichedMessage}

/-- The author of a message that was let through has a name that was cleaned up. -/
theorem exists_author_of_enrich {commands : Bool}
    (taken : enricher.enrich incoming origin commands now = (.ok message, live)) :
    ∃ name, message.message.author =
      authorOf enricher.options message.message.source name := by
  rw [message_of_enrich taken]
  exact ⟨_, rfl⟩

/-- **Who said it, in a replay.** The replay of a message names the author as the message does, cleaned
up once more: the same author if and only if the name does not begin with a mark or a blank where
the marks of YouTube are cut off. -/
theorem replay_keeps_author_iff {value : Json}
    (taken : enricher.enrichValue value origin now = (.ok message, live))
    (sameOptions : replayer.options = enricher.options) (id : String) (time : Timestamp) :
    ∃ replayed,
      (replayer.rehydrate (message.toStored id time)).1 = .ok replayed ∧
      replayed.message.author =
        authorOf enricher.options message.message.source message.message.author ∧
      (replayed.message.author = message.message.author ↔
        ¬ (enricher.options.cutsMark message.message.source = true ∧
          beginsCut message.message.author.toList = true)) := by
  obtain ⟨incoming, taken⟩ := exists_incoming taken
  have settled := isSettled_enrich taken
  rw [← sameOptions] at settled
  have replay := rehydrate_of_settled settled id time
  rw [ofMessage_of_enrich taken, sameOptions] at replay
  obtain ⟨name, author⟩ := exists_author_of_enrich taken
  refine ⟨_, congrArg Prod.fst replay, rfl, ?_⟩
  simp only [EnrichedMessage.ofMessage]
  rw [author]
  exact authorOf_eq_self_iff name

/-- A greeting on YouTube under a name. -/
def greetingFrom (name : String) : Json :=
  .object [("author", .string name), ("message", .string "hi"), ("source", .string "yt")]

theorem replay_keeps_author_iff_ann :
    ∃ message live replayed,
      newcomer.enrichValue (greetingFrom " @ann") none 0 = (.ok message, live) ∧
      live.options = newcomer.options ∧
      (live.rehydrate (message.toStored "1" ⟨0, 0⟩)).1 = .ok replayed ∧
      message.message.author = "ann" ∧ replayed.message.author = message.message.author := by
  have outcome :
      (match newcomer.enrichValue (greetingFrom " @ann") none 0 with
        | (.ok message, _) => message.message.author == "ann"
        | (.error _, _) => false) = true := by decide +kernel
  rcases taken : newcomer.enrichValue (greetingFrom " @ann") none 0 with ⟨reason | message, live⟩
  · rw [taken] at outcome
    cases outcome
  · rw [taken, beq_iff_eq] at outcome
    have options := options_enrichValue newcomer (greetingFrom " @ann") none 0
    rw [taken] at options
    obtain ⟨replayed, replay, -, kept⟩ := replay_keeps_author_iff taken options "1" ⟨0, 0⟩
    have solid : beginsCut "ann".toList = false := by decide
    refine ⟨message, live, replayed, rfl, options, replay, outcome, kept.mpr ?_⟩
    rw [outcome, solid]
    rintro ⟨-, cut⟩
    cases cut

/-- The author of a greeting under a name, and the author in its replay by the enricher that let it
through. -/
def authorsOf (name : String) : Option (String × Option String) :=
  let (outcome, live) := newcomer.enrichValue (greetingFrom name) none 0
  outcome.toOption.map fun message =>
    (message.message.author,
      (live.rehydrate (message.toStored "1" ⟨0, 0⟩)).1.toOption.map fun replayed =>
        replayed.message.author)

/-- A name with two marks loses one of them when the message comes in, and the other in the replay. -/
theorem second_mark_is_cut_off :
    ∃ message live replayed,
      newcomer.enrichValue (greetingFrom "@@ann") none 0 = (.ok message, live) ∧
      live.options = newcomer.options ∧
      (live.rehydrate (message.toStored "1" ⟨0, 0⟩)).1 = .ok replayed ∧
      message.message.author = "@ann" ∧ replayed.message.author = "ann" := by
  have outcome : authorsOf "@@ann" = some ("@ann", some "ann") := by decide +kernel
  have options := options_enrichValue newcomer (greetingFrom "@@ann") none 0
  rw [authorsOf] at outcome
  rcases taken : newcomer.enrichValue (greetingFrom "@@ann") none 0 with ⟨reason | message, live⟩
  · rw [taken] at outcome
    cases outcome
  · rw [taken] at outcome options
    obtain ⟨author, again⟩ := Prod.mk.inj (Option.some.inj outcome)
    rcases replay : (live.rehydrate (message.toStored "1" ⟨0, 0⟩)).1 with reason | replayed
    · rw [replay] at again
      cases again
    · rw [replay] at again
      exact ⟨message, live, replayed, rfl, options, replay, author, Option.some.inj again⟩

end Enricher

end LiveChat.Chat
