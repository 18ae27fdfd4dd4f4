import LiveChat.Proofs.Chat.Grammar
import LiveChat.Proofs.Chat.Commands
import LiveChat.Proofs.Text.Words

/-!
# The command of a message

Whether a message has a command can be told from its first word alone: nothing becomes an
exclamation mark in lower case but itself (`eq_mark_of_lowerChar`), and no markup begins with one
(`takeModifiers_of_mark`). So the command of a message that was cut into fragments is its first word
if that is a command word (`CommandState.command?_of_tokenize`).
-/

namespace LiveChat

namespace Text

theorem toNat_ofNat {code : Nat} (valid : code.isValidChar) : (Char.ofNat code).toNat = code := by
  rw [Char.ofNat, dif_pos valid]
  rfl

/-- Nothing but an exclamation mark becomes one in lower case. -/
theorem eq_mark_of_lowerChar {char : Char} (mark : lowerChar char = '!') : char = '!' := by
  have beyond : ∀ run ∈ caseRuns, 34 ≤ (run.first : Int) + run.shift := by decide +kernel
  unfold lowerChar at mark
  dsimp only at mark
  split at mark
  · rename_i run found
    have within := List.find?_some found
    simp only [Bool.and_eq_true, decide_eq_true_eq] at within
    have high := beyond run (List.mem_of_find?_eq_some found)
    by_cases valid : ((char.toNat : Int) + run.shift).toNat.isValidChar
    · have code := toNat_ofNat valid
      rw [mark] at code
      change 33 = _ at code
      omega
    · rw [Char.ofNat, dif_neg valid] at mark
      cases mark
  · exact mark

end Text

namespace Chat

open LiveChat.Text

theorem takeModifiers_of_mark {text : List Char} (mark : (trimStart text).head? = some '!') :
    takeModifiers text = ([], trimStart text) := by
  apply takeModifiers_of_unmarked
  intro word tail cut
  cases known : Modifier.ofWord? word with
  | none => rfl
  | some modifier =>
      obtain ⟨nonempty, letters⟩ := Modifier.alphanumeric_of_known known
      obtain ⟨first, rest, rfl⟩ := List.exists_cons_of_ne_nil nonempty
      rw [(splitOnce_eq_some_iff.mp cut).1] at mark
      cases mark
      cases letters '!' List.mem_cons_self

theorem takeModifiers_of_nil {text : List Char} (bare : (takeModifiers text).1 = []) :
    (takeModifiers text).2 = trimStart text := by
  obtain ⟨taken, left, split, markup, behind, -⟩ := takeModifiers_spec text
  rw [bare] at markup
  cases markup
  rw [behind, split, List.nil_append]

/-- A word that is a command word in lower case is one. -/
theorem isCommandWord_of_lowercase {word : List Char}
    (command : isCommandWord (lowercase (String.ofList word)).toList = true) :
    isCommandWord word = true := by
  rw [lowercase, String.toList_ofList, String.toList_ofList] at command
  cases word with
  | nil => cases command
  | cons char rest =>
      rw [isCommandWord, Bool.and_eq_true, beq_iff_eq, decide_eq_true_eq] at command
      obtain ⟨mark, long⟩ := command
      have first : char = '!' := by
        unfold lowerAfter at mark
        dsimp only at mark
        split at mark
        · split at mark <;> cases mark
        · split at mark
          · cases mark
          · exact eq_mark_of_lowerChar (Option.some.inj mark)
      subst first
      cases rest with
      | nil => cases long with | step impossible => cases impossible
      | cons second others =>
          rw [isCommandWord, Bool.and_eq_true, decide_eq_true_eq]
          exact ⟨rfl, Nat.succ_lt_succ (Nat.succ_pos _)⟩

theorem IsBodyFragment.kind_ne_command {cache : EmoteCache} {fragment : Fragment}
    (shown : IsBodyFragment cache fragment) : fragment.kind ≠ .command := by
  cases shown <;> exact FragmentKind.noConfusion

/-- The first word of a text, if it is a command word. -/
def commandWord? (text : String) : Option (List Char) :=
  (words text.toList).head?.filter isCommandWord

/-- Only a text whose first word is a command word has a fragment for a command. -/
theorem kind_ne_command_of_tokenize {cache : EmoteCache} {text : String}
    (none : commandWord? text = none) {fragment : Fragment}
    (member : fragment ∈ tokenize cache text) : fragment.kind ≠ .command := by
  rw [tokenize_eq] at member
  rcases List.mem_append.mp member with markup | body
  · obtain ⟨modifier, among, shown⟩ := List.mem_flatMap.mp markup
    obtain ⟨taken, left, -, marked, -⟩ := takeModifiers_spec text.toList
    obtain ⟨word, known⟩ := marked.known among
    intro command
    have kinds := (Modifier.fragment_of_known known shown).1
    rw [command] at kinds
    revert kinds
    decide
  · have bare (words : List (List Char)) (areWords : ∀ word ∈ words, IsWord word)
        (inside : fragment ∈ bodyFragments cache words) : fragment.kind ≠ .command :=
      ((bodyFragments_spec cache areWords).1 fragment inside).kind_ne_command
    have areWords : ∀ word ∈ words (takeModifiers text.toList).2, IsWord word :=
      fun _ => isWord_of_mem_words
    unfold wordFragments at body
    split at body
    · cases body
    · rename_i first rest cut
      split at body
      · rename_i command
        rw [Bool.and_eq_true, List.isEmpty_iff] at command
        rw [takeModifiers_of_nil command.1, words_trimStart] at cut
        rw [commandWord?, cut, List.head?_cons, Option.filter_some, if_pos command.2] at none
        cases none
      · exact bare _ (cut ▸ areWords) body

/-- A text whose first word is a command word begins with no markup. -/
theorem takeModifiers_of_commandWord {text : String} {word : List Char}
    (found : commandWord? text = some word) :
    takeModifiers text.toList = ([], trimStart text.toList) := by
  obtain ⟨first, command⟩ := Option.filter_eq_some_iff.mp found
  obtain ⟨rest, cut⟩ := List.head?_eq_some_iff.mp first
  apply takeModifiers_of_mark
  rw [isCommandWord, Bool.and_eq_true, beq_iff_eq] at command
  rw [← head?_of_words cut]
  exact command.1

theorem tokenize_of_commandWord (cache : EmoteCache) {text : String} {word : List Char}
    (found : commandWord? text = some word) :
    ∃ rest, tokenize cache text = .plain .command word :: rest := by
  obtain ⟨first, command⟩ := Option.filter_eq_some_iff.mp found
  obtain ⟨rest, cut⟩ := List.head?_eq_some_iff.mp first
  refine ⟨bodyFragments cache rest, ?_⟩
  rw [tokenize_eq, takeModifiers_of_commandWord found, words_trimStart, cut, wordFragments,
    if_pos (by rw [command]; rfl)]
  rfl

/-- **The command of a message.** The first word of a message says which command it has. -/
theorem CommandState.command?_of_tokenize {cache : EmoteCache} {message : ChatMessage}
    (cut : message.fragments = tokenize cache message.message) :
    command? message =
      (commandWord? message.message).map fun word => lowercase (String.ofList word) := by
  unfold command?
  rw [cut]
  cases found : commandWord? message.message with
  | none =>
      cases fragments : tokenize cache message.message with
      | nil => rfl
      | cons first rest =>
          have kind : first.kind ≠ .command :=
            kind_ne_command_of_tokenize found (fragments ▸ List.mem_cons_self)
          exact if_neg kind
  | some word =>
      obtain ⟨rest, fragments⟩ := tokenize_of_commandWord cache found
      rw [fragments]
      rfl

end Chat

end LiveChat
