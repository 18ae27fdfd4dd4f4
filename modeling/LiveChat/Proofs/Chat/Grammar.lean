import LiveChat.Chat.Tokenizer
import LiveChat.Proofs.Chat.Markup
import Mathlib.Data.List.Chain

/-!
# The grammar of fragments

A word is cut into pieces that hold all its characters (`flatten_colonSegments`,
`chars_of_wordPieces`). Joining pieces keeps, with the text that is still running, what they hold
but for its blanks, and never puts two texts next to each other (`joinPieces_spec`). A text is
therefore its markup, then at most one command, then texts and pictures (`tokenize_grammar`).
-/

namespace LiveChat.Chat

open LiveChat.Text

theorem append_of_firstSegment (char : Char) (rest : List Char) :
    (firstSegment char rest).1 ++ (firstSegment char rest).2 = char :: rest := by
  unfold firstSegment
  by_cases opened : char = ':'
  · rw [if_pos opened]
    split
    · exact List.append_nil _
    · rfl
    · rename_i name tail _ cut
      rw [(splitOnce_eq_some_iff.mp cut).1]
      simp
  · rw [if_neg opened, List.cons_append, List.takeWhile_append_dropWhile]

theorem firstSegment_ne_nil (char : Char) (rest : List Char) :
    (firstSegment char rest).1 ≠ [] := by
  unfold firstSegment
  by_cases opened : char = ':'
  · rw [if_pos opened]
    split <;> simp
  · rw [if_neg opened]
    exact List.cons_ne_nil _ _

/-- The segments of a word are the word. -/
theorem flatten_colonSegments (word : List Char) : (colonSegments word).flatten = word := by
  fun_induction colonSegments word with
  | case1 => rfl
  | case2 char rest ih => rw [List.flatten_cons, ih, append_of_firstSegment]

theorem ne_nil_of_mem_colonSegments {word segment : List Char}
    (member : segment ∈ colonSegments word) : segment ≠ [] := by
  fun_induction colonSegments word with
  | case1 => cases member
  | case2 char rest ih =>
      rcases List.mem_cons.mp member with rfl | later
      · exact firstSegment_ne_nil char rest
      · exact ih later

theorem isWord_of_mem_colonSegments {word segment : List Char} (isWord : IsWord word)
    (member : segment ∈ colonSegments word) : IsWord segment where
  nonempty := ne_nil_of_mem_colonSegments member
  solid char inside := by
    apply isWord.solid
    rw [← flatten_colonSegments word]
    exact List.mem_flatten.mpr ⟨segment, member, inside⟩

namespace Piece

def chars : Piece → List Char
  | .text _ chars => chars
  | .picture name _ => name

/-- What a piece of a word is: characters without blanks, or a picture that is cached under the
name. -/
def IsSound (cache : EmoteCache) : Piece → Prop
  | .text _ chars => IsWord chars
  | .picture name emote => cache.get? (String.ofList name) = some emote

end Piece

section Words

variable {cache : EmoteCache}

theorem chars_of_segmentPiece (opensWord : Bool) (segment : List Char) :
    (segmentPiece cache opensWord segment).chars = segment := by
  unfold segmentPiece
  split <;> rfl

theorem isSound_of_segmentPiece {segment : List Char} (isWord : IsWord segment)
    (opensWord : Bool) : (segmentPiece cache opensWord segment).IsSound cache := by
  unfold segmentPiece
  split
  · rename_i emote found
    exact (Option.ite_none_right_eq_some.mp found).2
  · exact isWord

/-- The pieces of a word hold all of it. -/
theorem chars_of_wordPieces (word : List Char) :
    (wordPieces cache word).flatMap Piece.chars = word := by
  have whole := flatten_colonSegments word
  unfold wordPieces
  split
  · exact List.append_nil word
  · split
    · rename_i none
      rw [none] at whole
      exact whole
    · rename_i first rest several
      rw [several, List.flatten_cons] at whole
      rw [List.flatMap_cons, chars_of_segmentPiece, List.flatMap_map]
      simp only [chars_of_segmentPiece, List.flatMap_id']
      exact whole

theorem isSound_of_mem_wordPieces {word : List Char} (isWord : IsWord word) {piece : Piece}
    (member : piece ∈ wordPieces cache word) : piece.IsSound cache := by
  unfold wordPieces at member
  split at member
  · rename_i emote found
    rw [List.mem_singleton.mp member]
    exact found
  · split at member
    · cases member
    · rename_i first rest several
      have segment {part : List Char} (among : part ∈ first :: rest) : IsWord part :=
        isWord_of_mem_colonSegments isWord (several ▸ among)
      rcases List.mem_cons.mp member with rfl | member
      · exact isSound_of_segmentPiece (segment List.mem_cons_self) true
      · obtain ⟨part, among, rfl⟩ := List.mem_map.mp member
        exact isSound_of_segmentPiece (segment (List.mem_cons_of_mem _ among)) false

end Words

/-- A fragment of a body: a text of words joined by single spaces, or a name that the cache has,
with the emote cached under it. -/
inductive IsBodyFragment (cache : EmoteCache) : Fragment → Prop
  | text {text : String} (spaced : IsSpaced text.toList) : IsBodyFragment cache ⟨.text, text, none⟩
  | picture {name : String} {emote : Emote} (cached : cache.get? name = some emote) :
      IsBodyFragment cache ⟨.emote, name, some emote⟩

/-- One of two neighbours is no text. -/
def NotBothTexts (first second : Fragment) : Prop := ¬ (first.kind = .text ∧ second.kind = .text)

def shownText (fragments : List Fragment) : List Char :=
  fragments.flatMap fun fragment => fragment.text.toList

theorem shownText_append (first second : List Fragment) :
    shownText (first ++ second) = shownText first ++ shownText second :=
  List.flatMap_append

theorem shownText_cons (fragment : Fragment) (rest : List Fragment) :
    shownText (fragment :: rest) = fragment.text.toList ++ shownText rest :=
  List.flatMap_cons

theorem shownText_flushText (running : List Char) :
    shownText (flushText running) = running.reverse := by
  unfold flushText
  by_cases empty : running = []
  · rw [if_pos empty, empty]
    rfl
  · rw [if_neg empty, shownText_cons, Fragment.plain, String.toList_ofList]
    exact List.append_nil _

theorem isBodyFragment_of_mem_flushText {cache : EmoteCache} {running : List Char}
    (spaced : running = [] ∨ IsSpaced running.reverse) {fragment : Fragment}
    (member : fragment ∈ flushText running) : IsBodyFragment cache fragment := by
  unfold flushText at member
  by_cases empty : running = []
  · rw [if_pos empty] at member
    cases member
  · rw [if_neg empty, List.mem_singleton] at member
    subst member
    refine .text ?_
    rw [String.toList_ofList]
    exact spaced.resolve_left empty

theorem isChain_flushText (running : List Char) : (flushText running).IsChain NotBothTexts := by
  unfold flushText
  split
  · exact .nil
  · exact .singleton _

/-- **Joining pieces.** Texts and pictures come out, no two texts stand next to each other, and only
blanks are put between what the pieces hold. -/
theorem joinPieces_spec {cache : EmoteCache} {running : List Char} {pieces : List Piece}
    (spaced : running = [] ∨ IsSpaced running.reverse)
    (sound : ∀ piece ∈ pieces, piece.IsSound cache) :
    (∀ fragment ∈ joinPieces running pieces, IsBodyFragment cache fragment) ∧
      (joinPieces running pieces).IsChain NotBothTexts ∧
      withoutBlanks (shownText (joinPieces running pieces)) =
        withoutBlanks (running.reverse ++ pieces.flatMap Piece.chars) := by
  fun_induction joinPieces running pieces with
  | case1 running =>
      refine ⟨fun _ => isBodyFragment_of_mem_flushText spaced, isChain_flushText running, ?_⟩
      rw [shownText_flushText, List.flatMap_nil, List.append_nil]
  | case2 running opensWord chars rest apart ih =>
      have isWord : IsWord chars := sound _ List.mem_cons_self
      have joined : IsSpaced (chars.reverse ++ ' ' :: running).reverse := by
        have behind := (spaced.resolve_left apart.2).join isWord
        simpa using behind
      obtain ⟨body, chain, kept⟩ :=
        ih (.inr joined) fun piece later => sound piece (List.mem_cons_of_mem _ later)
      refine ⟨body, chain, ?_⟩
      have space : withoutBlanks [' '] = [] := by decide +kernel
      rw [kept, List.flatMap_cons, Piece.chars]
      simp only [List.reverse_append, List.reverse_cons, List.reverse_reverse,
        withoutBlanks_append, space, List.nil_append, List.append_assoc]
  | case3 running opensWord chars rest glued ih =>
      have isWord : IsWord chars := sound _ List.mem_cons_self
      have joined : IsSpaced (chars.reverse ++ running).reverse := by
        rw [List.reverse_append, List.reverse_reverse]
        rcases spaced with rfl | spaced
        · exact isWord.isSpaced
        · exact spaced.glue isWord
      obtain ⟨body, chain, kept⟩ :=
        ih (.inr joined) fun piece later => sound piece (List.mem_cons_of_mem _ later)
      refine ⟨body, chain, ?_⟩
      rw [kept, List.flatMap_cons, Piece.chars, List.reverse_append, List.reverse_reverse,
        List.append_assoc]
  | case4 running name emote rest ih =>
      have cached : cache.get? (String.ofList name) = some emote := sound _ List.mem_cons_self
      obtain ⟨body, chain, kept⟩ :=
        ih (.inl rfl) fun piece later => sound piece (List.mem_cons_of_mem _ later)
      refine ⟨?_, ?_, ?_⟩
      · intro fragment member
        rcases List.mem_append.mp member with before | member
        · exact isBodyFragment_of_mem_flushText spaced before
        · rcases List.mem_cons.mp member with rfl | after
          · exact .picture cached
          · exact body fragment after
      · have behind : (Fragment.picture name emote :: joinPieces [] rest).IsChain NotBothTexts := by
          refine List.isChain_cons.mpr ⟨?_, chain⟩
          intro next _ both
          cases both.1
        refine List.isChain_append.mpr ⟨isChain_flushText running, behind, ?_⟩
        intro last _ next first both
        cases first
        cases both.2
      · rw [shownText_append, shownText_cons, shownText_flushText, Fragment.picture,
          String.toList_ofList, withoutBlanks_append, withoutBlanks_append, kept,
          List.flatMap_cons, Piece.chars]
        simp only [List.reverse_nil, List.nil_append, withoutBlanks_append]

theorem bodyFragments_spec (cache : EmoteCache) {body : List (List Char)}
    (areWords : ∀ word ∈ body, IsWord word) :
    (∀ fragment ∈ bodyFragments cache body, IsBodyFragment cache fragment) ∧
      (bodyFragments cache body).IsChain NotBothTexts ∧
      withoutBlanks (shownText (bodyFragments cache body)) = body.flatten := by
  have sound : ∀ piece ∈ body.flatMap (wordPieces cache), piece.IsSound cache := by
    intro piece member
    obtain ⟨word, among, inside⟩ := List.mem_flatMap.mp member
    exact isSound_of_mem_wordPieces (areWords word among) inside
  obtain ⟨shown, chain, kept⟩ := joinPieces_spec (.inl rfl) sound
  refine ⟨shown, chain, kept.trans ?_⟩
  rw [List.reverse_nil, List.nil_append, List.flatMap_assoc]
  simp only [chars_of_wordPieces, List.flatMap_id']
  refine withoutBlanks_of_solid ?_
  intro char member
  obtain ⟨word, among, inside⟩ := List.mem_flatten.mp member
  exact (areWords word among).solid char inside

theorem wordFragments_spec (cache : EmoteCache) (commandAllowed : Bool) {body : List (List Char)}
    (areWords : ∀ word ∈ body, IsWord word) :
    ∃ (command : Option (List Char)) (rest : List Fragment),
      wordFragments cache commandAllowed body =
        (command.map (Fragment.plain .command)).toList ++ rest ∧
      (command.isSome → commandAllowed = true) ∧
      (∀ fragment ∈ rest, IsBodyFragment cache fragment) ∧ rest.IsChain NotBothTexts ∧
      withoutBlanks (shownText (wordFragments cache commandAllowed body)) = body.flatten := by
  have bare (words : List (List Char)) (among : words ⊆ body) :=
    bodyFragments_spec cache fun word member => areWords word (among member)
  unfold wordFragments
  split
  · exact ⟨none, [], rfl, nofun, nofun, .nil, rfl⟩
  · rename_i first rest
    by_cases command : (commandAllowed && isCommandWord first) = true
    · obtain ⟨shown, chain, kept⟩ := bare rest (List.subset_cons_self _ _)
      rw [if_pos command]
      refine ⟨some first, bodyFragments cache rest, rfl, ?_, shown, chain, ?_⟩
      · intro _
        exact (Bool.and_eq_true _ _ ▸ command).1
      · rw [shownText_cons, withoutBlanks_append, kept, Fragment.plain, String.toList_ofList,
          withoutBlanks_of_solid (areWords first List.mem_cons_self).solid, List.flatten_cons]
    · obtain ⟨shown, chain, kept⟩ := bare (first :: rest) (List.Subset.refl _)
      rw [if_neg command]
      exact ⟨none, _, rfl, nofun, shown, chain, kept⟩

/-- What the words of a body are cut into stands behind what its markup shows. -/
theorem tokenize_eq (cache : EmoteCache) (text : String) :
    tokenize cache text = (takeModifiers text.toList).1.flatMap Modifier.fragments ++
      wordFragments cache (takeModifiers text.toList).1.isEmpty
        (words (takeModifiers text.toList).2) :=
  rfl

/-- **The grammar of fragments.** The fragments of a text are those of the markup that it begins
with, at most one command and that only without markup, and texts and pictures of which no two
neighbours are texts. But for blanks, the command and what follows show what the markup leaves of
the text. -/
theorem tokenize_grammar (cache : EmoteCache) (text : String) :
    ∃ (modifiers : List Modifier) (taken left : List Char) (command : Option (List Char))
        (body : List Fragment),
      text.toList = taken ++ left ∧ Markup modifiers taken ∧ ¬ BeginsWithMarkup left ∧
      tokenize cache text = modifiers.flatMap Modifier.fragments ++
        (command.map (Fragment.plain .command)).toList ++ body ∧
      (∀ fragment ∈ modifiers.flatMap Modifier.fragments,
        fragment.kind ∈ [.colour, .effect, .pattern] ∧ fragment.emote = none) ∧
      (command.isSome → modifiers = []) ∧
      (∀ fragment ∈ body, IsBodyFragment cache fragment) ∧ body.IsChain NotBothTexts ∧
      withoutBlanks (shownText ((command.map (Fragment.plain .command)).toList ++ body)) =
        withoutBlanks left := by
  obtain ⟨taken, left, split, markup, behind, bare⟩ := takeModifiers_spec text.toList
  have areWords : ∀ word ∈ words (takeModifiers text.toList).2, IsWord word :=
    fun _ => isWord_of_mem_words
  obtain ⟨command, body, cut, allowed, shown, chain, kept⟩ :=
    wordFragments_spec cache (takeModifiers text.toList).1.isEmpty areWords
  refine ⟨_, taken, left, command, body, split, markup, bare, ?_, ?_, ?_, shown, chain, ?_⟩
  · rw [List.append_assoc, ← cut]
    rfl
  · intro fragment member
    obtain ⟨modifier, among, inside⟩ := List.mem_flatMap.mp member
    obtain ⟨word, known⟩ := markup.known among
    exact Modifier.fragment_of_known known inside
  · intro named
    exact List.isEmpty_iff.mp (allowed named)
  · rw [← cut, kept, flatten_words, behind, withoutBlanks_trimStart]

end LiveChat.Chat
