import LiveChat.Proofs.Chat.CommandWord

/-!
# Texts as rows of words

What is made of a text depends on its words, and not on the blanks around them: texts with the same
words begin with the same markup (`takeModifiers_of_words`). A text that has nothing in it but plain
words comes out as those words with single spaces between them, whatever colons they have
(`joinPieces_plain`). Both are put together in `tokenize_of_words`.
-/

namespace LiveChat.Chat

open LiveChat.Text

variable {cache : EmoteCache}

section SameWords

variable {text other : List Char}

theorem unmarked_of_words (same : words other = words text)
    (unmarked : ∀ word tail, splitOnce ':' (trimStart text) = some (word, tail) →
      Modifier.ofWord? word = none) :
    ∀ word tail, splitOnce ':' (trimStart other) = some (word, tail) →
      Modifier.ofWord? word = none := by
  intro word tail cut
  cases known : Modifier.ofWord? word with
  | none => rfl
  | some modifier =>
      have isWord := Modifier.isWord_of_known known
      obtain ⟨rest, found, -⟩ := splitOnce_of_words same.symm (by decide) isWord cut
      rw [unmarked word rest found] at known
      cases known

/-- Texts with the same words begin with the same markup, and have the same words behind it. -/
theorem takeModifiers_of_words (same : words other = words text) :
    (takeModifiers other).1 = (takeModifiers text).1 ∧
      words (takeModifiers other).2 = words (takeModifiers text).2 := by
  have bare {text other : List Char} (same : words other = words text) :
      words (trimStart other) = words (trimStart text) := by
    rw [words_trimStart, words_trimStart, same]
  fun_induction takeModifiers text generalizing other with
  | case1 text uncut =>
      have unmarked := unmarked_of_words same fun word tail cut => by
        rw [uncut] at cut
        cases cut
      rw [takeModifiers_of_unmarked unmarked]
      exact ⟨rfl, bare same⟩
  | case2 text word tail cut unknown =>
      have unmarked := unmarked_of_words same fun other tail found => by
        rw [cut] at found
        cases found
        exact unknown
      rw [takeModifiers_of_unmarked unmarked]
      exact ⟨rfl, bare same⟩
  | case3 text word tail cut modifier known modifiers body found ih =>
      have isWord := Modifier.isWord_of_known known
      obtain ⟨rest, cut, later⟩ := splitOnce_of_words same (by decide) isWord cut
      obtain ⟨markup, behind⟩ := ih later
      rw [found] at markup behind
      rw [takeModifiers_of_known cut known]
      exact ⟨congrArg (modifier :: ·) markup, behind⟩

end SameWords

section Plain

variable {word : List Char}

/-- A word without pictures: neither the word nor a segment of it between two colons is cached. -/
structure IsPlainWord (cache : EmoteCache) (word : List Char) : Prop where
  whole : cache.get? (String.ofList word) = none
  segments : ∀ segment ∈ colonSegments word, isColonWrapped segment = true →
    cache.get? (String.ofList segment) = none

/-- A text without markup, command and pictures. -/
structure IsPlainText (cache : EmoteCache) (text : String) : Prop where
  unmarked : ∀ head tail, splitOnce ':' text.toList = some (head, tail) →
    Modifier.ofWord? (trimStart head) = none
  noCommand : commandWord? text = none
  plain : ∀ word ∈ words text.toList, IsPlainWord cache word

theorem IsPlainWord.segmentPiece (plain : IsPlainWord cache word) {segment : List Char}
    (among : segment ∈ colonSegments word) (opensWord : Bool) :
    segmentPiece cache opensWord segment = .text opensWord segment := by
  have uncached : (if isColonWrapped segment then cache.get? (String.ofList segment) else none) =
      none := by
    split
    · rename_i wrapped
      exact plain.segments segment among wrapped
    · rfl
  rw [Chat.segmentPiece, uncached]

/-- The running text as a new word is set off from it. -/
def setOff (running : List Char) : List Char := if running = [] then [] else ' ' :: running

theorem joinPieces_opening (running chars : List Char) (rest : List Piece) :
    joinPieces running (.text true chars :: rest) =
      joinPieces (chars.reverse ++ setOff running) rest := by
  rw [joinPieces, setOff]
  by_cases empty : running = [] <;> simp [empty]

theorem joinPieces_continued (running : List Char) (segments : List (List Char))
    (rest : List Piece) :
    joinPieces running (segments.map (.text false) ++ rest) =
      joinPieces (segments.flatten.reverse ++ running) rest := by
  induction segments generalizing running with
  | nil => rfl
  | cons segment others ih =>
      rw [List.map_cons, List.cons_append, joinPieces, if_neg (by simp), ih, List.flatten_cons,
        List.reverse_append, List.append_assoc]

/-- However it is cut at its colons, a plain word goes into the running text as it is. -/
theorem joinPieces_wordPieces (plain : IsPlainWord cache word) (isWord : IsWord word)
    (running : List Char) (rest : List Piece) :
    joinPieces running (wordPieces cache word ++ rest) =
      joinPieces (word.reverse ++ setOff running) rest := by
  have whole := flatten_colonSegments word
  rw [wordPieces, plain.whole]
  cases cut : colonSegments word with
  | nil =>
      rw [cut] at whole
      exact absurd whole.symm isWord.nonempty
  | cons first others =>
      have segment {part : List Char} (among : part ∈ first :: others) (opensWord : Bool) :
          segmentPiece cache opensWord part = .text opensWord part :=
        plain.segmentPiece (cut ▸ among) opensWord
      have later : others.map (segmentPiece cache false) = others.map (.text false) :=
        List.map_congr_left fun part among => segment (List.mem_cons_of_mem _ among) false
      rw [cut, List.flatten_cons] at whole
      dsimp only
      rw [segment List.mem_cons_self, later, List.cons_append, joinPieces_opening,
        joinPieces_continued, ← whole, List.reverse_append, List.append_assoc]

/-- Behind some text, plain words are put with single spaces. -/
theorem joinPieces_plain {text : List Char} (nonempty : text ≠ []) {others : List (List Char)}
    (areWords : ∀ word ∈ others, IsWord word) (plain : ∀ word ∈ others, IsPlainWord cache word) :
    joinPieces text.reverse (others.flatMap (wordPieces cache)) =
      [.plain .text ([' '].intercalate (text :: others))] := by
  induction others generalizing text with
  | nil =>
      have running : text.reverse ≠ [] := List.reverse_ne_nil_iff.mpr nonempty
      rw [List.flatMap_nil, joinPieces, flushText, if_neg running, List.reverse_reverse,
        List.intercalate_singleton]
  | cons word rest ih =>
      have running : setOff text.reverse = ' ' :: text.reverse :=
        if_neg (List.reverse_ne_nil_iff.mpr nonempty)
      have joined : word.reverse ++ setOff text.reverse = (text ++ ' ' :: word).reverse := by
        simp [running]
      rw [List.flatMap_cons,
        joinPieces_wordPieces (plain word List.mem_cons_self) (areWords word List.mem_cons_self),
        joined, ih (by simp) (fun later among => areWords later (List.mem_cons_of_mem _ among))
          fun later among => plain later (List.mem_cons_of_mem _ among)]
      cases rest <;> simp [List.intercalate_cons_cons]

theorem takeModifiers_of_plain {text : String} (plain : IsPlainText cache text) :
    takeModifiers text.toList = ([], trimStart text.toList) := by
  apply takeModifiers_of_unmarked
  intro word tail cut
  obtain ⟨head, found, rfl⟩ := exists_splitOnce_of_trimStart (by decide) cut
  exact plain.unmarked head tail found

/-- The fragments of a plain text. -/
theorem tokenize_plain {text : String} (plain : IsPlainText cache text) :
    tokenize cache text =
      if words text.toList = [] then []
      else [.plain .text ([' '].intercalate (words text.toList))] := by
  have areWords : ∀ word ∈ words text.toList, IsWord word := fun _ => isWord_of_mem_words
  have noCommand := plain.noCommand
  rw [commandWord?] at noCommand
  rw [tokenize_eq, takeModifiers_of_plain plain, List.flatMap_nil, List.nil_append,
    words_trimStart]
  cases cut : words text.toList with
  | nil => rfl
  | cons first others =>
      rw [cut, List.head?_cons, Option.filter_eq_none_iff] at noCommand
      have command : ¬ (([] : List Modifier).isEmpty && isCommandWord first) = true :=
        noCommand first rfl
      have word {part : List Char} (among : part ∈ first :: others) : IsWord part :=
        areWords part (cut ▸ among)
      have plainWord {part : List Char} (among : part ∈ first :: others) :
          IsPlainWord cache part := plain.plain part (cut ▸ among)
      have opening := word List.mem_cons_self
      rw [wordFragments, if_neg command, if_neg (List.cons_ne_nil _ _), bodyFragments,
        List.flatMap_cons, joinPieces_wordPieces (plainWord List.mem_cons_self) opening]
      have start : setOff [] = [] := rfl
      rw [start, List.append_nil]
      exact joinPieces_plain opening.nonempty (fun _ later => word (List.mem_cons_of_mem _ later))
        fun _ later => plainWord (List.mem_cons_of_mem _ later)

end Plain

/-- **Only words count.** Texts with the same words are cut into the same fragments. A text that has
no markup, no command and no pictures gives one text, which is its words with single spaces between
them, and nothing if it has no words. -/
theorem tokenize_of_words (cache : EmoteCache) {text other : String}
    (same : words other.toList = words text.toList) :
    tokenize cache other = tokenize cache text ∧
      (IsPlainText cache text →
        tokenize cache text =
          if words text.toList = [] then []
          else [.plain .text ([' '].intercalate (words text.toList))]) := by
  refine ⟨?_, tokenize_plain⟩
  obtain ⟨markup, behind⟩ := takeModifiers_of_words same
  rw [tokenize_eq, tokenize_eq, markup, behind]

/-- With colons in its words, and with an emote in the cache that is a part of both. -/
theorem tokenize_of_words_colons :
    let cache := EmoteCache.empty.insert { Emote.empty with name := ":b" }
    words " a:b\t :c".toList = words "a:b :c".toList ∧ IsPlainText cache "a:b :c" ∧
      tokenize cache " a:b\t :c" = [.plain .text "a:b :c".toList] := by
  intro cache
  have same : words " a:b\t :c".toList = words "a:b :c".toList := by decide +kernel
  have listed : words "a:b :c".toList = [['a', ':', 'b'], [':', 'c']] := by decide +kernel
  have plain : IsPlainText cache "a:b :c" := by
    refine ⟨?_, by decide +kernel, ?_⟩
    · intro head tail cut
      have first : splitOnce ':' "a:b :c".toList = some (['a'], "b :c".toList) := by decide +kernel
      rw [first] at cut
      cases cut
      decide +kernel
    · rw [listed, List.forall_mem_cons, List.forall_mem_singleton]
      exact ⟨⟨by decide +kernel, by decide +kernel⟩, ⟨by decide +kernel, by decide +kernel⟩⟩
  obtain ⟨cut, single⟩ := tokenize_of_words cache same
  refine ⟨same, plain, ?_⟩
  rw [cut, single plain, listed]
  rfl

end LiveChat.Chat
