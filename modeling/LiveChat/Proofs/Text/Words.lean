import LiveChat.Proofs.Text.Blanks

/-!
# Where words end

The first word of a text goes up to the first blank behind it (`words_of_solid`). A text can be cut
inside a word, too: if two texts have the same words and one of them begins with some characters of a
word, the other one does so as well, and what is left of both has the same words
(`exists_tail_of_words`). So both are cut alike at a mark that ends a word (`splitOnce_of_words`).
-/

namespace LiveChat.Text

/-- A character of a word. -/
def isSolid (char : Char) : Bool := !isBlank char

theorem isSolid_iff {char : Char} : isSolid char = true ↔ isBlank char = false := by
  rw [isSolid, Bool.not_eq_true']

theorem words_of_blank {char : Char} (blank : isBlank char = true) (rest : List Char) :
    words (char :: rest) = words rest := by
  conv => lhs; unfold words
  exact if_pos blank

/-- The first word goes up to the first blank. -/
theorem words_of_solid {char : Char} (solid : isSolid char = true) (rest : List Char) :
    words (char :: rest) =
      (char :: rest.takeWhile isSolid) :: words (rest.dropWhile isSolid) := by
  have apart {char : Char} (solid : isSolid char = true) : ¬ isBlank char = true :=
    Bool.eq_false_iff.mp (isSolid_iff.mp solid)
  induction rest generalizing char with
  | nil =>
      unfold words
      exact if_neg (apart solid)
  | cons next tail ih =>
      conv => lhs; unfold words
      rw [if_neg (apart solid)]
      by_cases inside : isSolid next = true
      · rw [List.takeWhile_cons_of_pos inside, List.dropWhile_cons_of_pos inside, ih inside]
        exact if_neg (apart inside)
      · have blank : isBlank next = true := by rwa [isSolid_iff, Bool.not_eq_false] at inside
        rw [List.takeWhile_cons_of_neg inside, List.dropWhile_cons_of_neg inside]
        cases words (next :: tail) with
        | nil => rfl
        | cons first others => exact if_pos blank

theorem isSolid_of_mem {word : List Char} (isWord : IsWord word) :
    ∀ char ∈ word, isSolid char = true :=
  fun char member => isSolid_iff.mpr (isWord.solid char member)

/-- In front of some text, a word goes on up to the first blank. -/
theorem words_append {word : List Char} (isWord : IsWord word) (tail : List Char) :
    words (word ++ tail) =
      (word ++ tail.takeWhile isSolid) :: words (tail.dropWhile isSolid) := by
  have solid := isSolid_of_mem isWord
  obtain ⟨first, others, rfl⟩ := List.exists_cons_of_ne_nil isWord.nonempty
  rw [List.cons_append, words_of_solid (solid first List.mem_cons_self),
    List.takeWhile_append_of_pos fun char member => solid char (List.mem_cons_of_mem _ member),
    List.dropWhile_append_of_pos fun char member => solid char (List.mem_cons_of_mem _ member),
    List.cons_append]

/-- Only the words of what stands behind the end of a word count. -/
theorem words_append_dropWhile {piece first second : List Char}
    (solid : ∀ char ∈ piece, isSolid char = true)
    (same : words (first.dropWhile isSolid) = words (second.dropWhile isSolid)) :
    words (piece ++ first.dropWhile isSolid) = words (piece ++ second.dropWhile isSolid) := by
  have ends (text : List Char) : (text.dropWhile isSolid).takeWhile isSolid = [] := by
    have whole := List.takeWhile_append_dropWhile (p := isSolid) (l := text.dropWhile isSolid)
    rwa [List.dropWhile_idempotent, List.append_left_eq_self] at whole
  by_cases empty : piece = []
  · rwa [empty, List.nil_append, List.nil_append]
  · have isWord : IsWord piece :=
      ⟨empty, fun char member => isSolid_iff.mp (solid char member)⟩
    rw [words_append isWord, words_append isWord, ends, ends, List.dropWhile_idempotent,
      List.dropWhile_idempotent, same]

theorem words_trimStart (text : List Char) : words (trimStart text) = words text := by
  induction text with
  | nil => rfl
  | cons char rest ih =>
      by_cases blank : isBlank char = true
      · rw [trimStart, List.dropWhile_cons_of_pos blank, ← trimStart, ih, words_of_blank blank]
      · rw [trimStart, List.dropWhile_cons_of_neg blank]

/-- Behind its blanks, a text that has words begins with the first one. -/
theorem exists_of_words_cons {text first : List Char} {rest : List (List Char)}
    (cut : words text = first :: rest) :
    ∃ char others, trimStart text = char :: others ∧
      first = char :: others.takeWhile isSolid ∧ rest = words (others.dropWhile isSolid) := by
  rw [← words_trimStart] at cut
  cases behind : trimStart text with
  | nil =>
      rw [behind] at cut
      cases cut
  | cons char others =>
      have solid : isSolid char = true :=
        isSolid_iff.mpr (solid_of_mem_head?_trimStart (by rw [behind]; rfl))
      rw [behind, words_of_solid solid] at cut
      cases cut
      exact ⟨char, others, rfl, rfl, rfl⟩

/-- The first word of a text begins as the text does behind its blanks. -/
theorem head?_of_words {text first : List Char} {rest : List (List Char)}
    (cut : words text = first :: rest) : first.head? = (trimStart text).head? := by
  obtain ⟨char, others, behind, rfl, -⟩ := exists_of_words_cons cut
  rw [behind]
  rfl

section SameWords

variable {text other front tail : List Char}

/-- If a text begins inside a word, so does every other text with the same words, and both go on
with the same words. -/
theorem exists_tail_of_words (same : words other = words text) (isWord : IsWord front)
    (begins : trimStart text = front ++ tail) :
    ∃ rest, trimStart other = front ++ rest ∧ words rest = words tail := by
  rw [← words_trimStart text, begins, words_append isWord] at same
  obtain ⟨char, others, behind, first, later⟩ := exists_of_words_cons same
  refine ⟨tail.takeWhile isSolid ++ others.dropWhile isSolid, ?_, ?_⟩
  · rw [behind, ← List.append_assoc, first, List.cons_append, List.takeWhile_append_dropWhile]
  · conv => rhs; rw [← List.takeWhile_append_dropWhile (p := isSolid) (l := tail)]
    exact words_append_dropWhile (fun _ => List.mem_takeWhile_imp) later.symm

/-- If a mark ends a word at the front of a text, it does so in every other text with the same
words. -/
theorem splitOnce_of_words {mark : Char} {word : List Char} (same : words other = words text)
    (solid : isBlank mark = false) (isWord : IsWord word)
    (cut : splitOnce mark (trimStart text) = some (word, tail)) :
    ∃ rest, splitOnce mark (trimStart other) = some (word, rest) ∧ words rest = words tail := by
  obtain ⟨begins, absent⟩ := splitOnce_eq_some_iff.mp cut
  have marked : IsWord (word ++ [mark]) :=
    isWord.append ⟨List.cons_ne_nil _ _, fun char member => List.mem_singleton.mp member ▸ solid⟩
  rw [List.append_cons] at begins
  obtain ⟨rest, behind, later⟩ := exists_tail_of_words same marked begins
  rw [← List.append_cons] at behind
  exact ⟨rest, splitOnce_eq_some_iff.mpr ⟨behind, absent⟩, later⟩

end SameWords

end LiveChat.Text
