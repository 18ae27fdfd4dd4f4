import LiveChat.Proofs.Chat.CommandWord

/-!
# Markup in front of a text

The words of markup are the colours, the effects, and `pattern` with eight letters and digits behind
it or with nothing (`isMarkupWord_iff`). A chain of such words in front of a text is taken off it
and leaves the rest to be read as it is (`takeModifiers_append`), except that the rest may begin with
no command any more. So a text behind markup is cut as it would be alone, and a text that begins with
no markup shows none (`tokenize_behind_markup`).
-/

namespace LiveChat

namespace Text

theorem dropBeginning?_append_self (beginning rest : List Char) :
    dropBeginning? beginning (beginning ++ rest) = some rest := by
  induction beginning with
  | nil => rfl
  | cons first others ih =>
      rw [List.cons_append, dropBeginning?, if_pos rfl]
      exact ih

/-- A letter or digit takes one byte. -/
theorem byteLength_of_alphanumeric {text : List Char}
    (letters : ∀ char ∈ text, char.isAlphanum = true) : byteLength text = text.length := by
  induction text with
  | nil => rfl
  | cons char rest ih =>
      obtain ⟨letter, others⟩ := List.forall_mem_cons.mp letters
      have narrow : char.val ≤ 127 := by
        have kinds : (char.isUpper || char.isLower || char.isDigit) = true := letter
        rw [Bool.or_eq_true, Bool.or_eq_true] at kinds
        rcases kinds with (upper | lower) | digit
        · have bounds : 'A'.val ≤ char.val ∧ char.val ≤ 'Z'.val := of_decide_eq_true upper
          exact UInt32.le_trans bounds.2 (by decide)
        · have bounds : ('a'.val ≤ char.val && char.val ≤ 'z'.val) = true := lower
          exact UInt32.le_trans (of_decide_eq_true (Bool.and_eq_true_iff.mp bounds).2) (by decide)
        · have bounds : ('0'.val ≤ char.val && char.val ≤ '9'.val) = true := digit
          exact UInt32.le_trans (of_decide_eq_true (Bool.and_eq_true_iff.mp bounds).2) (by decide)
      change char.utf8Size + byteLength rest = rest.length + 1
      rw [Char.utf8Size_eq_one_iff.mpr narrow, ih others, Nat.add_comm]

end Text

namespace Chat

open LiveChat.Text

/-- The words of markup, each with the fragments that it shows. -/
inductive IsMarkupWord : String → List Fragment → Prop
  | colour {word : String} (listed : word ∈ colourWords) : IsMarkupWord word [⟨.colour, word, none⟩]
  | effect {word : String} (listed : word ∈ effectWords) : IsMarkupWord word [⟨.effect, word, none⟩]
  /-- Without its letters and digits, a pattern shows nothing. -/
  | bare : IsMarkupWord "pattern" []
  | pattern {slots : String} (count : slots.length = 8)
      (letters : ∀ slot ∈ slots.toList, slot.isAlphanum = true) :
      IsMarkupWord ("pattern" ++ slots) [⟨.pattern, slots, none⟩]

namespace Modifier

theorem isPattern_iff {slots : List Char} :
    isPattern slots = true ↔ slots.length = 8 ∧ ∀ slot ∈ slots, slot.isAlphanum = true := by
  rw [isPattern, Bool.and_eq_true, beq_iff_eq, List.all_eq_true]
  apply and_congr_left
  intro letters
  rw [byteLength_of_alphanumeric letters]

/-- No colour and no effect begins like a pattern. -/
theorem ofWord?_pattern (slots : List Char) :
    ofWord? ("pattern".toList ++ slots) =
      if slots = [] then some .silent
      else if isPattern slots then some (.shown .pattern slots)
      else none := by
  have apart : ∀ entry ∈ colourWords ++ effectWords,
      dropBeginning? "pattern".toList entry.toList = none := by decide +kernel
  have unlisted {entries : List String} (among : entries ⊆ colourWords ++ effectWords) :
      ¬ entries.contains (String.ofList ("pattern".toList ++ slots)) = true := by
    intro listed
    have other := apart _ (among (List.contains_iff_mem.mp listed))
    rw [@String.toList_ofList ("pattern".toList ++ slots), dropBeginning?_append_self] at other
    cases other
  rw [ofWord?, if_neg (unlisted (List.subset_append_left _ _)),
    if_neg (unlisted (List.subset_append_right _ _)), dropBeginning?_append_self]

theorem isMarkupWord_of_known {word : String} {modifier : Modifier}
    (known : ofWord? word.toList = some modifier) : IsMarkupWord word modifier.fragments := by
  unfold ofWord? at known
  rw [String.ofList_toList] at known
  split at known
  · rename_i colour
    cases known
    rw [fragments, Fragment.plain, String.ofList_toList]
    exact .colour (List.contains_iff_mem.mp colour)
  · split at known
    · rename_i effect
      cases known
      rw [fragments, Fragment.plain, String.ofList_toList]
      exact .effect (List.contains_iff_mem.mp effect)
    · split at known
      · cases known
      · rename_i slots found
        have spelled : word = "pattern" ++ String.ofList slots := by
          rw [← String.toList_inj, String.toList_append, @String.toList_ofList slots]
          exact eq_append_of_dropBeginning? found
        rw [spelled]
        split at known
        · rename_i empty
          cases known
          rw [empty]
          exact .bare
        · split at known
          · rename_i pattern
            cases known
            obtain ⟨count, letters⟩ := isPattern_iff.mp pattern
            refine .pattern ?_ ?_
            · rw [String.length_ofList, count]
            · rwa [String.toList_ofList]
          · cases known

end Modifier

/-- What is read as markup are the words of markup, and they show what they are to show. -/
theorem isMarkupWord_iff {word : String} {shown : List Fragment} :
    IsMarkupWord word shown ↔
      ∃ modifier, Modifier.ofWord? word.toList = some modifier ∧ modifier.fragments = shown := by
  constructor
  · rintro (@⟨word, listed⟩ | @⟨word, listed⟩ | _ | @⟨slots, count, letters⟩)
    · refine ⟨.shown .colour word.toList, ?_, ?_⟩
      · rw [Modifier.ofWord?, String.ofList_toList, if_pos (List.contains_iff_mem.mpr listed)]
      · rw [Modifier.fragments, Fragment.plain, String.ofList_toList]
    · have apart : ∀ entry ∈ effectWords, ¬ colourWords.contains entry = true := by decide +kernel
      refine ⟨.shown .effect word.toList, ?_, ?_⟩
      · rw [Modifier.ofWord?, String.ofList_toList, if_neg (apart word listed),
          if_pos (List.contains_iff_mem.mpr listed)]
      · rw [Modifier.fragments, Fragment.plain, String.ofList_toList]
    · exact ⟨.silent, Modifier.ofWord?_pattern [], rfl⟩
    · have several : slots.toList ≠ [] := by
        intro empty
        rw [← String.length_toList, empty] at count
        cases count
      have pattern : Modifier.isPattern slots.toList = true :=
        Modifier.isPattern_iff.mpr ⟨by rw [String.length_toList, count], letters⟩
      refine ⟨.shown .pattern slots.toList, ?_, ?_⟩
      · rw [String.toList_append, Modifier.ofWord?_pattern, if_neg several, if_pos pattern]
      · rw [Modifier.fragments, Fragment.plain, String.ofList_toList]
  · rintro ⟨modifier, known, rfl⟩
    exact Modifier.isMarkupWord_of_known known

/-- A chain of modifiers is taken off the front of a text, and the rest is read on. -/
theorem takeModifiers_append {modifiers : List Modifier} {taken : List Char}
    (markup : Markup modifiers taken) (rest : List Char) :
    takeModifiers (taken ++ rest) =
      (modifiers ++ (takeModifiers rest).1, (takeModifiers rest).2) := by
  induction markup with
  | nothing => rfl
  | @word blanks word text modifier modifiers blank known more ih =>
      have single : Markup [modifier] (blanks ++ (word ++ ':' :: [])) := .word blank known .nothing
      obtain ⟨head, same, cut⟩ := single.splitOnce (text ++ rest)
      have whole : blanks ++ (word ++ ':' :: text) ++ rest =
          blanks ++ (word ++ [':']) ++ (text ++ rest) := by
        simp only [List.append_assoc, List.cons_append, List.nil_append]
      rw [whole, takeModifiers_of_known cut same, ih, List.cons_append]

section Behind

variable {cache : EmoteCache} {text : String}

theorem wordFragments_false (cache : EmoteCache) (body : List (List Char)) :
    wordFragments cache false body = bodyFragments cache body := by
  cases body <;> rfl

/-- Where no command could be, it makes no difference whether one may be. -/
theorem wordFragments_of_noCommand (none : commandWord? text = none) (commandAllowed : Bool) :
    wordFragments cache commandAllowed (words text.toList) =
      bodyFragments cache (words text.toList) := by
  rw [commandWord?, Option.filter_eq_none_iff] at none
  cases cut : words text.toList with
  | nil => rfl
  | cons first rest =>
      rw [cut] at none
      rw [wordFragments, if_neg]
      rw [Bool.and_eq_true, not_and]
      exact fun _ => none first rfl

/-- The words of a text that begins with no markup are those of its body. -/
theorem tokenize_of_unmarked (bare : takeModifiers text.toList = ([], trimStart text.toList)) :
    tokenize cache text = wordFragments cache true (words text.toList) := by
  rw [tokenize_eq, bare, words_trimStart]
  rfl

/-- A text without markup of its own shows no markup. -/
theorem kind_of_unmarked (bare : takeModifiers text.toList = ([], trimStart text.toList))
    {fragment : Fragment} (member : fragment ∈ tokenize cache text) :
    fragment.kind ∉ [.colour, .effect, .pattern] := by
  have areWords : ∀ word ∈ words text.toList, IsWord word := fun _ => isWord_of_mem_words
  obtain ⟨command, body, cut, -, shown, -, -⟩ := wordFragments_spec cache true areWords
  rw [tokenize_of_unmarked bare, cut] at member
  rcases List.mem_append.mp member with opening | inside
  · obtain ⟨word, -, rfl⟩ := Option.map_eq_some_iff.mp (Option.mem_toList.mp opening)
    simp [Fragment.plain]
  · cases shown fragment inside with
    | text => simp
    | picture => simp

/-- The body of a text is the same behind more markup, but for a command in it. -/
theorem wordFragments_behind (cache : EmoteCache) (text : String) :
    (takeModifiers text.toList).1.flatMap Modifier.fragments ++
        wordFragments cache false (words (takeModifiers text.toList).2) =
      if (commandWord? text).isSome then bodyFragments cache (words text.toList)
      else tokenize cache text := by
  cases found : commandWord? text with
  | some word =>
      rw [takeModifiers_of_commandWord found, words_trimStart, wordFragments_false]
      rfl
  | none =>
      rw [Option.isSome_none, if_neg Bool.false_ne_true, tokenize_eq]
      cases bare : (takeModifiers text.toList).1 with
      | nil =>
          rw [takeModifiers_of_nil bare, words_trimStart, wordFragments_of_noCommand found,
            wordFragments_of_noCommand found]
      | cons modifier others => rfl

end Behind

/-- **Markup in front of a text.** Behind a word of markup and its colon, a text is cut into the
fragments that it has alone; only, what would be its command is a word like any other. The fragments
that the word of markup shows come first. A text that has no colon, or something else than a word of
markup in front of its first one, shows neither colours nor effects nor patterns. -/
theorem tokenize_behind_markup (cache : EmoteCache) (text : String) :
    (∀ (blanks word : String) (shown : List Fragment),
      (∀ char ∈ blanks.toList, isBlank char = true) → IsMarkupWord word shown →
        tokenize cache (blanks ++ word ++ ":" ++ text) =
          shown ++
            if (commandWord? text).isSome then bodyFragments cache (words text.toList)
            else tokenize cache text) ∧
    ((∀ head tail, splitOnce ':' text.toList = some (head, tail) →
        ∀ shown, ¬ IsMarkupWord (String.ofList (trimStart head)) shown) →
      ∀ fragment ∈ tokenize cache text, fragment.kind ∉ [.colour, .effect, .pattern]) := by
  constructor
  · intro blanks word shown blank known
    obtain ⟨modifier, read, rfl⟩ := isMarkupWord_iff.mp known
    have markup : Markup [modifier] (blanks.toList ++ (word.toList ++ ':' :: [])) :=
      .word blank read .nothing
    have whole : (blanks ++ word ++ ":" ++ text).toList =
        blanks.toList ++ (word.toList ++ ':' :: []) ++ text.toList := by
      simp [String.toList_append]
    rw [← wordFragments_behind, tokenize_eq, whole, takeModifiers_append markup,
      List.singleton_append, List.flatMap_cons, List.append_assoc]
    rfl
  · intro unmarked fragment
    apply kind_of_unmarked
    apply takeModifiers_of_unmarked
    intro word tail cut
    obtain ⟨head, first, same⟩ := exists_splitOnce_of_trimStart (by decide) cut
    cases read : Modifier.ofWord? word with
    | none => rfl
    | some modifier =>
        refine absurd ?_ (unmarked head tail first modifier.fragments)
        rw [same]
        apply Modifier.isMarkupWord_of_known
        rwa [String.toList_ofList]

/-- A pattern in front of more markup, a pattern in front of a command, and a text with a blank in
front of its colon. -/
theorem tokenize_behind_markup_pattern :
    let cache := EmoteCache.empty.insert { Emote.empty with name := ":b:" }
    let shown : List Fragment := [⟨.pattern, "Ab3dEf7h", none⟩]
    IsMarkupWord ("pattern" ++ "Ab3dEf7h") shown ∧
      tokenize cache ("\t " ++ ("pattern" ++ "Ab3dEf7h") ++ ":" ++ "wave: hi:b:") =
        shown ++ [⟨.effect, "wave", none⟩, ⟨.text, "hi", none⟩,
          .picture ":b:".toList { Emote.empty with name := ":b:" }] ∧
      tokenize cache ("\t " ++ ("pattern" ++ "Ab3dEf7h") ++ ":" ++ " !help me") =
        shown ++ [⟨.text, "!help me", none⟩] ∧
      ∀ fragment ∈ tokenize cache "red : hi", fragment.kind ∉ [.colour, .effect, .pattern] := by
  intro cache shown
  have known : IsMarkupWord ("pattern" ++ "Ab3dEf7h") shown :=
    .pattern (by decide +kernel) (List.all_eq_true.mp (by decide +kernel))
  have blank : ∀ char ∈ "\t ".toList, isBlank char = true :=
    List.all_eq_true.mp (by decide +kernel)
  have marked := (tokenize_behind_markup cache "wave: hi:b:").1 _ _ shown blank known
  have command := (tokenize_behind_markup cache " !help me").1 _ _ shown blank known
  refine ⟨known, marked.trans (by decide +kernel), command.trans (by decide +kernel),
    (tokenize_behind_markup cache "red : hi").2 ?_⟩
  intro head tail cut other impossible
  have first : splitOnce ':' "red : hi".toList = some ("red ".toList, " hi".toList) := by
    decide +kernel
  have unknown : Modifier.ofWord? (String.ofList (trimStart "red ".toList)).toList = none := by
    decide +kernel
  rw [first] at cut
  cases cut
  obtain ⟨modifier, read, -⟩ := isMarkupWord_iff.mp impossible
  rw [unknown] at read
  cases read

end Chat

end LiveChat
