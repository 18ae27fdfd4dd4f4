import LiveChat.Chat.Markup
import LiveChat.Proofs.Text.Blanks

/-!
# What counts as markup

A word of markup consists of letters and digits (`Modifier.alphanumeric_of_known`). `takeModifiers`
takes the longest chain of such words off the front of a text: what it takes is markup, and what it
leaves does not begin with markup (`takeModifiers_spec`).
-/

namespace LiveChat.Text

theorem eq_append_of_dropBeginning? {beginning text rest : List Char}
    (found : dropBeginning? beginning text = some rest) : text = beginning ++ rest := by
  induction beginning generalizing text with
  | nil =>
      cases found
      rfl
  | cons first others ih =>
      cases text with
      | nil => cases found
      | cons char chars =>
          unfold dropBeginning? at found
          split at found
          · rename_i same
            rw [same, ih found]
            rfl
          · cases found

end LiveChat.Text

namespace LiveChat.Chat

open LiveChat.Text

namespace Modifier

theorem alphanumeric_of_known {word : List Char} {modifier : Modifier}
    (known : ofWord? word = some modifier) :
    word ≠ [] ∧ ∀ char ∈ word, char.isAlphanum = true := by
  have checked : ((colourWords ++ effectWords).all fun entry =>
      !entry.toList.isEmpty && entry.toList.all Char.isAlphanum) = true := by
    decide +kernel
  have listed : ∀ entry ∈ colourWords ++ effectWords,
      entry.toList ≠ [] ∧ ∀ char ∈ entry.toList, char.isAlphanum = true := by
    intro entry member
    have both := List.all_eq_true.mp checked entry member
    rw [Bool.and_eq_true, Bool.not_eq_true', List.isEmpty_eq_false_iff, List.all_eq_true] at both
    exact both
  have spelled {entries : List String} (among : entries ⊆ colourWords ++ effectWords)
      (found : entries.contains (String.ofList word) = true) :
      word ≠ [] ∧ ∀ char ∈ word, char.isAlphanum = true := by
    have entry := listed _ (among (List.contains_iff_mem.mp found))
    rwa [String.toList_ofList] at entry
  unfold ofWord? at known
  split at known
  · rename_i colour
    exact spelled (List.subset_append_left _ _) colour
  · split at known
    · rename_i effect
      exact spelled (List.subset_append_right _ _) effect
    · split at known
      · cases known
      · rename_i slots found
        have split := eq_append_of_dropBeginning? found
        have letters : ∀ char ∈ slots, char.isAlphanum = true := by
          intro char member
          split at known
          · rename_i bare
            rw [bare] at member
            cases member
          · split at known
            · rename_i pattern
              rw [isPattern, Bool.and_eq_true, List.all_eq_true] at pattern
              exact pattern.2 char member
            · cases known
        have opening : "pattern".toList.all Char.isAlphanum = true := by decide +kernel
        rw [List.all_eq_true] at opening
        rw [split]
        refine ⟨List.append_ne_nil_of_left_ne_nil (by decide +kernel) _, ?_⟩
        intro char member
        exact (List.mem_append.mp member).elim (opening char) (letters char)

theorem isWord_of_known {word : List Char} {modifier : Modifier}
    (known : ofWord? word = some modifier) : IsWord word where
  nonempty := (alphanumeric_of_known known).1
  solid char member := isBlank_of_isAlphanum ((alphanumeric_of_known known).2 char member)

theorem not_mem_colon_of_known {word : List Char} {modifier : Modifier}
    (known : ofWord? word = some modifier) : ':' ∉ word := by
  intro member
  have letter := (alphanumeric_of_known known).2 ':' member
  revert letter
  decide

/-- The fragment of a modifier is a plain one, of a kind of its own. -/
theorem fragment_of_known {word : List Char} {modifier : Modifier}
    (known : ofWord? word = some modifier) {fragment : Fragment}
    (shown : fragment ∈ modifier.fragments) :
    fragment.kind ∈ [.colour, .effect, .pattern] ∧ fragment.emote = none := by
  have plain (kind : FragmentKind) (text : List Char)
      (same : Modifier.shown kind text = modifier) (among : kind ∈ [.colour, .effect, .pattern]) :
      fragment.kind ∈ [.colour, .effect, .pattern] ∧ fragment.emote = none := by
    subst same
    rw [fragments, List.mem_singleton] at shown
    subst shown
    exact ⟨among, rfl⟩
  unfold ofWord? at known
  split at known
  · exact plain _ _ (Option.some.inj known) (by decide)
  · split at known
    · exact plain _ _ (Option.some.inj known) (by decide)
    · split at known
      · cases known
      · split at known
        · cases known
          cases shown
        · split at known
          · exact plain _ _ (Option.some.inj known) (by decide)
          · cases known

end Modifier

theorem takeModifiers_of_known {text word tail : List Char} {modifier : Modifier}
    (cut : splitOnce ':' (trimStart text) = some (word, tail))
    (known : Modifier.ofWord? word = some modifier) :
    takeModifiers text = (modifier :: (takeModifiers tail).1, (takeModifiers tail).2) := by
  rw [takeModifiers]
  split
  · rename_i uncut
    rw [cut] at uncut
    cases uncut
  · rename_i found
    rw [cut] at found
    cases found
    rw [known]

theorem takeModifiers_of_unmarked {text : List Char}
    (unmarked : ∀ word tail, splitOnce ':' (trimStart text) = some (word, tail) →
      Modifier.ofWord? word = none) :
    takeModifiers text = ([], trimStart text) := by
  rw [takeModifiers]
  split
  · rfl
  · rename_i word tail cut
    rw [unmarked word tail cut]

/-- The text of a chain of modifiers: words of markup, each with a colon behind it, and blanks where
they please before it. -/
inductive Markup : List Modifier → List Char → Prop
  | nothing : Markup [] []
  | word {blanks word text : List Char} {modifier : Modifier} {modifiers : List Modifier}
      (blank : ∀ char ∈ blanks, isBlank char = true)
      (known : Modifier.ofWord? word = some modifier) (more : Markup modifiers text) :
      Markup (modifier :: modifiers) (blanks ++ (word ++ ':' :: text))

theorem Markup.known {modifiers : List Modifier} {text : List Char}
    (markup : Markup modifiers text) {modifier : Modifier} (among : modifier ∈ modifiers) :
    ∃ word, Modifier.ofWord? word = some modifier := by
  induction markup with
  | nothing => cases among
  | @word _ word _ _ _ _ known _ ih =>
      rcases List.mem_cons.mp among with rfl | later
      · exact ⟨word, known⟩
      · exact ih later

/-- A text that begins with a modifier. -/
def BeginsWithMarkup (text : List Char) : Prop :=
  ∃ modifier taken left, Markup [modifier] taken ∧ text = taken ++ left

theorem Markup.splitOnce {modifier : Modifier} {taken : List Char}
    (markup : Markup [modifier] taken) (left : List Char) :
    ∃ word, Modifier.ofWord? word = some modifier ∧
      splitOnce ':' (trimStart (taken ++ left)) = some (word, left) := by
  cases markup with
  | @word blanks word text modifier modifiers blank known more =>
      cases more
      refine ⟨word, known, ?_⟩
      have isWord := Modifier.isWord_of_known known
      have trimmed : trimStart (blanks ++ (word ++ [':']) ++ left) = word ++ ':' :: left := by
        obtain ⟨first, others, rfl⟩ := List.exists_cons_of_ne_nil isWord.nonempty
        have solid := isWord.solid first List.mem_cons_self
        rw [trimStart, List.append_assoc, List.dropWhile_append_of_pos blank, List.cons_append,
          List.cons_append, List.dropWhile_cons_of_neg (by rw [solid]; exact Bool.false_ne_true)]
        simp only [List.append_assoc, List.nil_append, List.cons_append]
      rw [trimmed, splitOnce_eq_some_iff]
      exact ⟨rfl, Modifier.not_mem_colon_of_known known⟩

/-- **The longest markup.** The modifiers at the front of a text are the markup that it begins with,
and the body is what is left, which begins with none. -/
theorem takeModifiers_spec (text : List Char) :
    ∃ taken left, text = taken ++ left ∧ Markup (takeModifiers text).1 taken ∧
      (takeModifiers text).2 = trimStart left ∧ ¬ BeginsWithMarkup left := by
  fun_induction takeModifiers text with
  | case1 text uncut =>
      refine ⟨[], text, rfl, .nothing, rfl, ?_⟩
      rintro ⟨modifier, taken, left, markup, rfl⟩
      obtain ⟨word, -, cut⟩ := markup.splitOnce left
      rw [uncut] at cut
      cases cut
  | case2 text word tail cut unknown =>
      refine ⟨[], text, rfl, .nothing, rfl, ?_⟩
      rintro ⟨modifier, taken, left, markup, rfl⟩
      obtain ⟨other, known, same⟩ := markup.splitOnce left
      rw [cut] at same
      cases same
      rw [unknown] at known
      cases known
  | case3 text word tail cut modifier known modifiers body found ih =>
      obtain ⟨taken, left, split, markup, rest, bare⟩ := ih
      obtain ⟨blanks, blank, text_eq⟩ := exists_trimStart text
      have cut := (splitOnce_eq_some_iff.mp cut).1
      rw [found] at markup rest
      refine ⟨blanks ++ (word ++ ':' :: taken), left, ?_, .word blank known markup, rest, bare⟩
      rw [text_eq, cut, split]
      simp only [List.append_assoc, List.cons_append]

end LiveChat.Chat
