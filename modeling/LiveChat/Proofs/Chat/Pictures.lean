import LiveChat.Proofs.Chat.Grammar

/-!
# Where a picture stands

A picture cuts the fragments of a body in two: what is in front of it is joined without regard to
what is behind it (`joinPieces_append_picture`). So a word of the body one of whose pieces is a
picture shows that picture at its own place (`showsPictureAt_of_pieces`), and a whole word is shown
as a picture just when the cache has the emote under it (`showsPictureAt_iff`).
-/

namespace LiveChat.Chat

open LiveChat.Text

variable {cache : EmoteCache} {text : String} {before after : List (List Char)}
  {word name : List Char} {emote : Emote}

/-- A word of the body of a text, with the words before it and behind it, that is not the command at
the head of the text. -/
structure IsBodyWord (text : String) (before : List (List Char)) (word : List Char)
    (after : List (List Char)) : Prop where
  cut : words (takeModifiers text.toList).2 = before ++ word :: after
  noCommand : ¬ (before = [] ∧ (takeModifiers text.toList).1 = [] ∧ isCommandWord word = true)

/-- Among the fragments of a text, behind its markup, stands a picture. But for blanks, the
fragments in front of it show `ahead`, and those behind it show `behind`. -/
def ShowsPictureAt (cache : EmoteCache) (text : String) (ahead name : List Char) (emote : Emote)
    (behind : List Char) : Prop :=
  ∃ front back,
    tokenize cache text = (takeModifiers text.toList).1.flatMap Modifier.fragments ++
      (front ++ .picture name emote :: back) ∧
    withoutBlanks (shownText front) = withoutBlanks ahead ∧
    withoutBlanks (shownText back) = withoutBlanks behind

theorem IsBodyWord.isWord (place : IsBodyWord text before word after) {other : List Char}
    (member : other ∈ before ++ word :: after) : IsWord other :=
  isWord_of_mem_words (place.cut ▸ member)

theorem joinPieces_append_picture (running : List Char) (pieces : List Piece) (name : List Char)
    (emote : Emote) (rest : List Piece) :
    joinPieces running (pieces ++ .picture name emote :: rest) =
      joinPieces running pieces ++ .picture name emote :: joinPieces [] rest := by
  fun_induction joinPieces running pieces with
  | case1 running => rfl
  | case2 running opensWord chars others apart ih =>
      rw [List.cons_append, joinPieces, if_pos apart, ih]
  | case3 running opensWord chars others glued ih =>
      rw [List.cons_append, joinPieces, if_neg glued, ih]
  | case4 running other cached others ih =>
      rw [List.cons_append, joinPieces, ih, List.append_assoc, List.cons_append]

/-- Joined from nothing, pieces show what they hold. -/
theorem shownText_joinPieces {pieces : List Piece} (sound : ∀ piece ∈ pieces, piece.IsSound cache) :
    withoutBlanks (shownText (joinPieces [] pieces)) =
      withoutBlanks (pieces.flatMap Piece.chars) :=
  (joinPieces_spec (.inl rfl) sound).2.2

/-- Whether or not the words before a word begin with a command, the words from there on are cut as
they are. -/
theorem wordFragments_append (cache : EmoteCache) {commandAllowed : Bool}
    (after : List (List Char))
    (noCommand : ¬ (before = [] ∧ commandAllowed = true ∧ isCommandWord word = true)) :
    ∃ (command : List (List Char)) (rest : List (List Char)),
      before = command ++ rest ∧
      wordFragments cache commandAllowed (before ++ word :: after) =
        command.map (Fragment.plain .command) ++ bodyFragments cache (rest ++ word :: after) := by
  cases before with
  | nil =>
      refine ⟨[], [], rfl, ?_⟩
      rw [List.nil_append, wordFragments, if_neg]
      · rfl
      · rw [Bool.and_eq_true]
        exact fun both => noCommand ⟨rfl, both⟩
  | cons first rest =>
      rw [List.cons_append, wordFragments]
      by_cases command : (commandAllowed && isCommandWord first) = true
      · exact ⟨[first], rest, rfl, if_pos command⟩
      · exact ⟨[], first :: rest, rfl, if_neg command⟩

theorem shownText_commands (command : List (List Char)) :
    shownText (command.map (Fragment.plain .command)) = command.flatten := by
  rw [shownText, List.flatMap_map, ← List.flatMap_id']
  simp only [Fragment.plain, String.toList_ofList]

theorem chars_of_flatMap_wordPieces (words : List (List Char)) :
    (words.flatMap (wordPieces cache)).flatMap Piece.chars = words.flatten := by
  rw [List.flatMap_assoc]
  simp only [chars_of_wordPieces, List.flatMap_id']

/-- **Pictures in their place.** A piece of a word that is a picture is shown between what the words
before it and the pieces before it hold, and what the pieces and the words behind it hold. -/
theorem showsPictureAt_of_pieces (place : IsBodyWord text before word after)
    {left right : List Piece}
    (pieces : wordPieces cache word = left ++ .picture name emote :: right) :
    ShowsPictureAt cache text (before.flatten ++ left.flatMap Piece.chars) name emote
      (right.flatMap Piece.chars ++ after.flatten) := by
  have noCommand : ¬ (before = [] ∧ (takeModifiers text.toList).1.isEmpty = true ∧
      isCommandWord word = true) := by
    rw [List.isEmpty_iff]
    exact place.noCommand
  obtain ⟨command, rest, split, cut⟩ := wordFragments_append cache after noCommand
  have wordSound : ∀ piece ∈ left ++ .picture name emote :: right, piece.IsSound cache := by
    rw [← pieces]
    exact fun piece => isSound_of_mem_wordPieces (place.isWord (by simp))
  have wordsSound {others : List (List Char)} (among : others ⊆ before ++ word :: after) :
      ∀ piece ∈ others.flatMap (wordPieces cache), piece.IsSound cache := by
    intro piece member
    obtain ⟨other, inside, shown⟩ := List.mem_flatMap.mp member
    exact isSound_of_mem_wordPieces (place.isWord (among inside)) shown
  have frontSound : ∀ piece ∈ rest.flatMap (wordPieces cache) ++ left, piece.IsSound cache := by
    intro piece member
    rcases List.mem_append.mp member with earlier | inside
    · exact wordsSound (fun other among => by simp [split, among]) piece earlier
    · exact wordSound piece (List.mem_append_left _ inside)
  have backSound : ∀ piece ∈ right ++ after.flatMap (wordPieces cache), piece.IsSound cache := by
    intro piece member
    rcases List.mem_append.mp member with inside | later
    · exact wordSound piece (List.mem_append_right _ (List.mem_cons_of_mem _ inside))
    · exact wordsSound (fun other among => by simp [among]) piece later
  refine ⟨command.map (Fragment.plain .command) ++
    joinPieces [] (rest.flatMap (wordPieces cache) ++ left),
    joinPieces [] (right ++ after.flatMap (wordPieces cache)), ?_, ?_, ?_⟩
  · have joined := joinPieces_append_picture [] (rest.flatMap (wordPieces cache) ++ left) name emote
      (right ++ after.flatMap (wordPieces cache))
    rw [tokenize_eq, place.cut, cut, bodyFragments, List.flatMap_append, List.flatMap_cons, pieces,
      List.append_assoc (command.map _), ← joined]
    simp only [List.append_assoc, List.cons_append]
  · rw [shownText_append, withoutBlanks_append, shownText_commands, shownText_joinPieces frontSound,
      List.flatMap_append, chars_of_flatMap_wordPieces, split, List.flatten_append]
    simp only [withoutBlanks_append, List.append_assoc]
  · rw [shownText_joinPieces backSound, List.flatMap_append, chars_of_flatMap_wordPieces]

/-- Every picture among the fragments of a text is of an emote that is cached under its name. -/
theorem ShowsPictureAt.cached {ahead behind : List Char}
    (shown : ShowsPictureAt cache text ahead name emote behind) :
    cache.get? (String.ofList name) = some emote := by
  obtain ⟨front, back, fragments, -, -⟩ := shown
  have areWords : ∀ word ∈ words (takeModifiers text.toList).2, IsWord word :=
    fun _ => isWord_of_mem_words
  obtain ⟨command, rest, cut, -, body, -, -⟩ :=
    wordFragments_spec cache (takeModifiers text.toList).1.isEmpty areWords
  rw [tokenize_eq, List.append_cancel_left_eq, cut] at fragments
  have member : Fragment.picture name emote ∈
      (command.map (Fragment.plain .command)).toList ++ rest := by
    rw [fragments]
    exact List.mem_append_right _ List.mem_cons_self
  rcases List.mem_append.mp member with opening | inside
  · obtain ⟨text, -, plain⟩ := Option.map_eq_some_iff.mp (Option.mem_toList.mp opening)
    cases plain
  · cases body _ inside with
    | picture cached => exact cached

/-- A word of a body is shown in its place as the picture of an emote just when the cache has the
emote under the word. -/
theorem showsPictureAt_iff (place : IsBodyWord text before word after) :
    ShowsPictureAt cache text before.flatten word emote after.flatten ↔
      cache.get? (String.ofList word) = some emote := by
  refine ⟨ShowsPictureAt.cached, fun cached => ?_⟩
  have pieces : wordPieces cache word = [] ++ .picture word emote :: [] := by
    rw [wordPieces, cached, List.nil_append]
  have shown := showsPictureAt_of_pieces place pieces
  rwa [List.flatMap_nil, List.append_nil, List.nil_append] at shown

end LiveChat.Chat
