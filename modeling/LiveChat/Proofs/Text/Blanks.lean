import LiveChat.Text.Blank
import Mathlib.Data.List.DropRight
import Mathlib.Data.List.TakeWhile

/-!
# Texts and their blanks

Words hold no blanks, and all that is no blank is in some word (`flatten_words`). A text of words
joined by single spaces remains one when a word is put behind it, with a space or without
(`IsSpaced.join`, `IsSpaced.glue`). Cutting a text at a mark leaves the parts on both sides of the
first one (`splitOnce_eq_some_iff`). Trimming a text a second time changes nothing (`trim_trim`).
-/

namespace LiveChat.Text

theorem isBlank_of_isAlphanum {char : Char} (letter : char.isAlphanum = true) :
    isBlank char = false := by
  change ((decide (65 ≤ char.val ∧ char.val ≤ 90) ||
    (decide (97 ≤ char.val) && decide (char.val ≤ 122))) ||
    (decide (48 ≤ char.val) && decide (char.val ≤ 57))) = true at letter
  simp only [Bool.or_eq_true, Bool.and_eq_true, decide_eq_true_eq, UInt32.le_iff_toNat_le]
    at letter
  change ((65 ≤ char.toNat ∧ char.toNat ≤ 90) ∨ (97 ≤ char.toNat ∧ char.toNat ≤ 122)) ∨
    (48 ≤ char.toNat ∧ char.toNat ≤ 57) at letter
  simp only [isBlank, inRanges, blankRanges, List.any_cons, List.any_nil, Bool.or_false,
    Bool.or_eq_false_iff, Bool.and_eq_false_iff, decide_eq_false_iff_not]
  omega

/-- A run of characters that are no blanks. -/
structure IsWord (text : List Char) : Prop where
  nonempty : text ≠ []
  solid : ∀ char ∈ text, isBlank char = false

def withoutBlanks (text : List Char) : List Char := text.filter fun char => !isBlank char

theorem withoutBlanks_append (first second : List Char) :
    withoutBlanks (first ++ second) = withoutBlanks first ++ withoutBlanks second :=
  List.filter_append _ _

theorem withoutBlanks_cons (char : Char) (rest : List Char) :
    withoutBlanks (char :: rest) =
      if isBlank char then withoutBlanks rest else char :: withoutBlanks rest := by
  unfold withoutBlanks
  rw [List.filter_cons]
  cases isBlank char <;> rfl

theorem withoutBlanks_of_solid {text : List Char} (solid : ∀ char ∈ text, isBlank char = false) :
    withoutBlanks text = text := by
  refine List.filter_eq_self.mpr fun char member => ?_
  rw [solid char member]
  rfl

theorem withoutBlanks_of_blank {text : List Char} (blank : ∀ char ∈ text, isBlank char = true) :
    withoutBlanks text = [] := by
  refine List.filter_eq_nil_iff.mpr fun char member => ?_
  rw [blank char member]
  exact Bool.false_ne_true

theorem isWord_of_mem_words {text word : List Char} (member : word ∈ words text) :
    IsWord word := by
  induction text generalizing word with
  | nil => cases member
  | cons char rest ih =>
      have single : isBlank char = false → IsWord [char] := by
        intro solid
        refine ⟨List.cons_ne_nil _ _, fun other same => ?_⟩
        rw [List.mem_singleton.mp same]
        exact solid
      unfold words at member
      split at member
      · exact ih member
      · rename_i solid
        rw [Bool.not_eq_true] at solid
        split at member
        · rename_i next tail first others found
          split at member
          · rcases List.mem_cons.mp member with rfl | member
            · exact single solid
            · exact ih (found ▸ member)
          · rcases List.mem_cons.mp member with rfl | member
            · refine ⟨List.cons_ne_nil _ _, fun other inside => ?_⟩
              rcases List.mem_cons.mp inside with rfl | inside
              · exact solid
              · exact (ih (found ▸ List.mem_cons_self)).solid other inside
            · exact ih (found ▸ List.mem_cons_of_mem _ member)
        · rcases List.mem_cons.mp member with rfl | member
          · exact single solid
          · exact ih member

/-- The words of a text hold all of it but its blanks. -/
theorem flatten_words (text : List Char) : (words text).flatten = withoutBlanks text := by
  induction text with
  | nil => rfl
  | cons char rest ih =>
      unfold words
      by_cases blank : isBlank char = true
      · rw [if_pos blank, ih, withoutBlanks_cons, if_pos blank]
      · rw [if_neg blank, withoutBlanks_cons, if_neg blank, ← ih]
        split
        · rename_i next tail first others found
          rw [found]
          split <;> rfl
        · rfl

/-- A text of words joined by single spaces. -/
def IsSpaced (text : List Char) : Prop :=
  ∃ parts, parts ≠ [] ∧ (∀ part ∈ parts, IsWord part) ∧ text = [' '].intercalate parts

theorem intercalate_concat {separator last : List Char} {parts : List (List Char)}
    (several : parts ≠ []) :
    separator.intercalate (parts ++ [last]) = separator.intercalate parts ++ separator ++ last := by
  induction parts with
  | nil => exact absurd rfl several
  | cons first rest ih =>
      cases rest with
      | nil => rw [List.singleton_append, List.intercalate_cons_cons, List.intercalate_singleton,
          List.intercalate_singleton]
      | cons second others =>
          have later := ih (List.cons_ne_nil _ _)
          rw [List.cons_append] at later
          rw [List.cons_append, List.cons_append, List.intercalate_cons_cons, later,
            List.intercalate_cons_cons]
          simp only [List.append_assoc]

theorem IsWord.isSpaced {word : List Char} (isWord : IsWord word) : IsSpaced word := by
  refine ⟨[word], List.cons_ne_nil _ _, ?_, List.intercalate_singleton.symm⟩
  intro part same
  rw [List.mem_singleton.mp same]
  exact isWord

theorem IsWord.append {first second : List Char} (left : IsWord first) (right : IsWord second) :
    IsWord (first ++ second) where
  nonempty := List.append_ne_nil_of_left_ne_nil left.nonempty _
  solid char member := (List.mem_append.mp member).elim (left.solid char) (right.solid char)

namespace IsSpaced

variable {text word : List Char}

theorem join (spaced : IsSpaced text) (isWord : IsWord word) : IsSpaced (text ++ ' ' :: word) := by
  obtain ⟨parts, several, areWords, rfl⟩ := spaced
  refine ⟨parts ++ [word], List.append_ne_nil_of_left_ne_nil several _, ?_, ?_⟩
  · intro part member
    rcases List.mem_append.mp member with old | new
    · exact areWords part old
    · rw [List.mem_singleton.mp new]
      exact isWord
  · rw [intercalate_concat several, List.append_assoc]
    rfl

theorem glue (spaced : IsSpaced text) (isWord : IsWord word) : IsSpaced (text ++ word) := by
  obtain ⟨parts, several, areWords, rfl⟩ := spaced
  obtain ⟨earlier, last, split⟩ := (List.eq_nil_or_concat parts).resolve_left several
  obtain rfl : parts = earlier ++ [last] := split.trans List.concat_eq_append
  have lastWord := areWords last (List.mem_append_right _ (List.mem_singleton_self _))
  have glued := lastWord.append isWord
  by_cases only : earlier = []
  · subst only
    rw [List.nil_append, List.intercalate_singleton]
    exact glued.isSpaced
  · rw [intercalate_concat only, List.append_assoc, List.append_assoc]
    refine join ⟨earlier, only, ?_, rfl⟩ glued
    exact fun part member => areWords part (List.mem_append_left _ member)

end IsSpaced

/-- A cut at a mark is at the first one. -/
theorem splitOnce_eq_some_iff {mark : Char} {text head tail : List Char} :
    splitOnce mark text = some (head, tail) ↔ text = head ++ mark :: tail ∧ mark ∉ head := by
  induction text generalizing head with
  | nil =>
      constructor
      · intro found
        cases found
      · rintro ⟨same, -⟩
        cases head <;> cases same
  | cons char rest ih =>
      unfold splitOnce
      by_cases marked : char = mark
      · rw [if_pos marked, marked]
        constructor
        · intro found
          cases found
          exact ⟨rfl, List.not_mem_nil⟩
        · rintro ⟨same, absent⟩
          cases head with
          | nil =>
              cases same
              rfl
          | cons first others =>
              rw [List.cons_append, List.cons.injEq] at same
              exact absurd (same.1 ▸ List.mem_cons_self) absent
      · rw [if_neg marked, Option.map_eq_some_iff]
        constructor
        · rintro ⟨⟨first, second⟩, found, same⟩
          cases same
          obtain ⟨same, absent⟩ := ih.mp found
          refine ⟨congrArg _ same, ?_⟩
          rw [List.mem_cons, not_or]
          exact ⟨Ne.symm marked, absent⟩
        · rintro ⟨same, absent⟩
          cases head with
          | nil =>
              rw [List.nil_append, List.cons.injEq] at same
              exact absurd same.1 marked
          | cons first others =>
              rw [List.cons_append, List.cons.injEq] at same
              rw [List.mem_cons, not_or] at absent
              exact ⟨(others, tail), ih.mpr ⟨same.2, absent.2⟩, by rw [same.1]⟩

theorem splitOnce_eq_none_iff {mark : Char} {text : List Char} :
    splitOnce mark text = none ↔ mark ∉ text := by
  induction text with
  | nil => exact ⟨fun _ => List.not_mem_nil, fun _ => rfl⟩
  | cons char rest ih =>
      unfold splitOnce
      rw [List.mem_cons, not_or]
      by_cases marked : char = mark
      · rw [if_pos marked]
        exact ⟨fun found => absurd found (Option.some_ne_none _),
          fun absent => absurd marked.symm absent.1⟩
      · rw [if_neg marked, Option.map_eq_none_iff, ih]
        exact ⟨fun absent => ⟨Ne.symm marked, absent⟩, And.right⟩

theorem exists_trimStart (text : List Char) :
    ∃ blanks, (∀ char ∈ blanks, isBlank char = true) ∧ text = blanks ++ trimStart text :=
  ⟨text.takeWhile isBlank, fun _ member => List.mem_takeWhile_imp member,
    List.takeWhile_append_dropWhile.symm⟩

theorem withoutBlanks_trimStart (text : List Char) :
    withoutBlanks (trimStart text) = withoutBlanks text := by
  obtain ⟨blanks, blank, split⟩ := exists_trimStart text
  conv => rhs; rw [split, withoutBlanks_append, withoutBlanks_of_blank blank, List.nil_append]

section Trimming

theorem trimStart_eq_self {text : List Char}
    (solid : ∀ char ∈ text.head?, isBlank char = false) : trimStart text = text := by
  cases text with
  | nil => rfl
  | cons char rest =>
      exact List.dropWhile_cons_of_neg (by rw [solid char rfl]; exact Bool.false_ne_true)

theorem trimEnd_eq_rdropWhile (text : List Char) : trimEnd text = text.rdropWhile isBlank := rfl

theorem solid_of_mem_head?_trimStart {text : List Char} {char : Char}
    (first : char ∈ (trimStart text).head?) : isBlank char = false := by
  rw [trimStart, ← List.find?_not_eq_head?_dropWhile] at first
  have solid := List.find?_some (p := fun char => !isBlank char) first
  rwa [Bool.not_eq_true'] at solid

/-- A cut of a text without the blanks in front is a cut of the text. -/
theorem exists_splitOnce_of_trimStart {mark : Char} {text word tail : List Char}
    (solid : isBlank mark = false) (cut : splitOnce mark (trimStart text) = some (word, tail)) :
    ∃ head, splitOnce mark text = some (head, tail) ∧ trimStart head = word := by
  obtain ⟨blanks, blank, split⟩ := exists_trimStart text
  obtain ⟨behind, absent⟩ := splitOnce_eq_some_iff.mp cut
  refine ⟨blanks ++ word, splitOnce_eq_some_iff.mpr ⟨?_, ?_⟩, ?_⟩
  · rw [List.append_assoc, ← behind, ← split]
  · intro member
    rcases List.mem_append.mp member with inside | inside
    · rw [blank mark inside] at solid
      cases solid
    · exact absent inside
  · rw [trimStart, List.dropWhile_append_of_pos blank]
    apply trimStart_eq_self
    intro char first
    apply solid_of_mem_head?_trimStart
    rw [behind, List.head?_append, Option.mem_def.mp first]
    rfl

/-- What is left of a text is the front of what is left when only its front is trimmed, so that it
begins with no blank. -/
theorem solid_of_mem_head?_trim {text : List Char} {char : Char}
    (first : char ∈ (trim text).head?) : isBlank char = false := by
  obtain ⟨cut, split⟩ := List.rdropWhile_prefix isBlank (trimStart text)
  have inside : char ∈ (trimStart text).head? := by
    rw [← split, ← trimEnd_eq_rdropWhile, ← trim, List.head?_append, Option.mem_def.mp first]
    rfl
  exact solid_of_mem_head?_trimStart inside

theorem solid_of_mem_getLast?_trim {text : List Char} {char : Char}
    (last : char ∈ (trim text).getLast?) : isBlank char = false := by
  obtain ⟨nonempty, rfl⟩ := List.mem_getLast?_eq_getLast last
  exact Bool.eq_false_iff.mpr (List.rdropWhile_last_not isBlank (trimStart text) nonempty)

theorem trim_eq_self {text : List Char} (opens : ∀ char ∈ text.head?, isBlank char = false)
    (ends : ∀ char ∈ text.getLast?, isBlank char = false) : trim text = text := by
  rw [trim, trimStart_eq_self opens, trimEnd_eq_rdropWhile, List.rdropWhile_eq_self_iff]
  intro nonempty
  rw [ends _ (List.getLast_mem_getLast? nonempty)]
  exact Bool.false_ne_true

theorem length_trim_le (text : List Char) : (trim text).length ≤ text.length :=
  (List.rdropWhile_prefix isBlank (trimStart text)).length_le.trans
    (List.dropWhile_suffix isBlank).length_le

/-- Trimming once is enough. -/
theorem trim_trim (text : List Char) : trim (trim text) = trim text := by
  rw [trim, trimStart_eq_self fun _ => solid_of_mem_head?_trim, trim, trimEnd_eq_rdropWhile,
    trimEnd_eq_rdropWhile, List.rdropWhile_idempotent]

/-- A text without blanks around it. -/
def IsTrimmed (text : String) : Prop := trimmed text = text

theorem IsTrimmed.trim_toList {text : String} (clean : IsTrimmed text) :
    trim text.toList = text.toList := by
  have same := congrArg String.toList clean
  rwa [trimmed, String.toList_ofList] at same

theorem isTrimmed_ofList_trim (text : List Char) : IsTrimmed (String.ofList (trim text)) := by
  rw [IsTrimmed, trimmed, String.toList_ofList, trim_trim]

theorem isTrimmed_trimmed (text : String) : IsTrimmed (trimmed text) :=
  isTrimmed_ofList_trim text.toList

theorem trim_of_solid {text : List Char} (solid : ∀ char ∈ text, isBlank char = false) :
    trim text = text :=
  trim_eq_self (fun char first => solid char (List.mem_of_head? first))
    fun char last => solid char (List.mem_of_getLast? last)

theorem isTrimmed_of_solid {text : List Char} (solid : ∀ char ∈ text, isBlank char = false) :
    IsTrimmed (String.ofList text) := by
  rw [IsTrimmed, trimmed, String.toList_ofList, trim_of_solid solid]

end Trimming

end LiveChat.Text
