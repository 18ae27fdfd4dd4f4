import LiveChat.Proofs.Json.ReaderBound

/-!
# White space around a text

White space may stand before and behind a JSON text, and it changes nothing in what the text says
(`Outline.read?_surrounded`, `read?_surrounded`). No part of the grammar can take up the white space
behind it: a string goes on to its closing quote, and words and numerals hold none
(`LeavesSpace`).
-/

namespace LiveChat.Json

open LiveChat.Text

def AllSpace (text : List Char) : Prop := ∀ char ∈ text, isSpace char = true

theorem isSpace_cases {char : Char} (space : isSpace char = true) :
    char = ' ' ∨ char = '\n' ∨ char = '\t' ∨ char = '\r' := by
  simpa [isSpace, or_assoc] using space

namespace AllSpace

variable {text : List Char}

theorem first {char : Char} (space : AllSpace (char :: text)) :
    char = ' ' ∨ char = '\n' ∨ char = '\t' ∨ char = '\r' :=
  isSpace_cases (space char List.mem_cons_self)

theorem behind {char : Char} (space : AllSpace (char :: text)) : AllSpace text :=
  fun other member => space other (List.mem_cons_of_mem _ member)

/-- White space behind a text stays behind what is left of the text, unless that is white space. -/
theorem skipSpace_append {tail : List Char} (space : AllSpace tail) (text : List Char) :
    skipSpace text = [] ∧ skipSpace (text ++ tail) = [] ∨
      ∃ char front, skipSpace text = char :: front ∧
        skipSpace (text ++ tail) = char :: (front ++ tail) := by
  have gone : tail.dropWhile isSpace = [] := List.dropWhile_eq_nil_iff.mpr space
  rw [skipSpace, skipSpace, List.dropWhile_append, gone]
  cases text.dropWhile isSpace with
  | nil => exact .inl ⟨rfl, rfl⟩
  | cons char front => exact .inr ⟨char, front, rfl, rfl⟩

theorem endsNumeral (space : AllSpace text) : EndsNumeral text := by
  intro char member
  rcases isSpace_cases (space char (List.mem_of_mem_head? member)) with rfl | rfl | rfl | rfl <;>
    decide

end AllSpace

/-- White space behind a text changes nothing in what is read of the text, and remains behind it. -/
def LeavesSpace {α : Type} (read : List Char → Option (α × List Char)) : Prop :=
  ∀ text tail, AllSpace tail →
    read (text ++ tail) = (read text).map fun found => (found.1, found.2 ++ tail)

theorem LeavesSpace.map {α β : Type} {read : List Char → Option (α × List Char)}
    (leaves : LeavesSpace read) (meaning : α → β) :
    LeavesSpace fun text => (read text).map fun found => (meaning found.1, found.2) := by
  intro text tail space
  simp only [leaves text tail space, Option.map_map, Function.comp_def]

section Strings

theorem takeUnits?_of_allSpace {tail : List Char} (space : AllSpace tail) :
    takeUnits? tail = none := by
  induction tail with
  | nil => rfl
  | cons char tail ih =>
      have later := ih space.behind
      rcases space.first with rfl | rfl | rfl | rfl <;> simp [takeUnits?, later]

theorem hexUnit?_of_isSpace {first second third fourth : Char} (space : isSpace fourth = true) :
    hexUnit? first second third fourth = none := by
  have nothing : hexValue? fourth = none := by
    rcases isSpace_cases space with rfl | rfl | rfl | rfl <;> decide
  simp only [hexUnit?, nothing, Option.bind_eq_bind, Option.bind_none, Option.bind_fun_none]

/-- No escape begins with white space. -/
theorem takeUnits?_of_lone_escape {tail : List Char} (space : AllSpace tail) :
    takeUnits? ('\\' :: tail) = none := by
  cases tail with
  | nil => rfl
  | cons letter tail =>
      rcases space.first with rfl | rfl | rfl | rfl <;> simp [takeUnits?, escaped?]

/-- The digits of a code do not go on behind white space. -/
theorem takeUnits?_of_short_code {behind tail : List Char} (space : AllSpace tail)
    (short : ∀ first second third fourth rest,
      behind ≠ first :: second :: third :: fourth :: rest) :
    takeUnits? ('\\' :: 'u' :: (behind ++ tail)) = none := by
  have few : behind.length ≤ 3 := by
    rcases behind with _ | ⟨first, _ | ⟨second, _ | ⟨third, _ | ⟨fourth, rest⟩⟩⟩⟩
    case cons.cons.cons.cons => exact (short _ _ _ _ _ rfl).elim
    all_goals simp
  generalize joined : behind ++ tail = all
  rcases all with _ | ⟨first, _ | ⟨second, _ | ⟨third, _ | ⟨fourth, rest⟩⟩⟩⟩
  case cons.cons.cons.cons =>
    have found : (behind ++ tail)[3]? = some fourth := by rw [joined]; rfl
    rw [List.getElem?_append_right few] at found
    simp [takeUnits?, hexUnit?_of_isSpace (space fourth (List.mem_of_getElem? found))]
  all_goals simp [takeUnits?, escaped?]

theorem takeUnits?_leavesSpace : LeavesSpace takeUnits? := by
  intro text tail space
  fun_induction takeUnits? text with
  | case1 => exact takeUnits?_of_allSpace space
  | case2 behind => rfl
  | case3 first second third fourth behind ih =>
      simp only [List.cons_append, takeUnits?, ih]
      cases hexUnit? first second third fourth <;> cases takeUnits? behind <;> rfl
  | case4 letter behind short ih =>
      by_cases code : letter = 'u'
      · subst code
        exact takeUnits?_of_short_code space fun _ _ _ _ _ => short _ _ _ _ _ rfl
      · simp only [List.cons_append]
        cases read : escaped? letter <;> cases rest : takeUnits? behind <;>
          simp [takeUnits?, read, code, ih, rest]
  | case5 char behind notQuote _ lone bad =>
      by_cases escape : char = '\\'
      · subst escape
        cases behind with
        | nil => exact takeUnits?_of_lone_escape space
        | cons letter behind => exact (lone letter behind rfl rfl).elim
      · have control := bad.resolve_right escape
        simp [takeUnits?, escape, control]
  | case6 char behind _ _ _ good ih =>
      obtain ⟨solid, plain⟩ := not_or.mp good
      cases rest : takeUnits? behind <;> simp [takeUnits?, solid, plain, ih, rest]

theorem takeString?_leavesSpace : LeavesSpace takeString? := by
  intro text tail space
  rw [takeString?, takeString?, takeUnits?_leavesSpace text tail space]
  cases takeUnits? text <;> rfl

end Strings

namespace Numeral

theorem takeWhile_append_of_ends {tail : List Char} (ends : EndsNumeral tail) (text : List Char) :
    (text ++ tail).takeWhile Char.isDigit = text.takeWhile Char.isDigit := by
  induction text with
  | nil => exact ends.takeWhile
  | cons char text ih => rw [List.cons_append, List.takeWhile_cons, List.takeWhile_cons, ih]

theorem dropWhile_append_of_ends {tail : List Char} (ends : EndsNumeral tail) (text : List Char) :
    (text ++ tail).dropWhile Char.isDigit = text.dropWhile Char.isDigit ++ tail := by
  induction text with
  | nil => exact ends.dropWhile
  | cons char text ih =>
      rw [List.cons_append, List.dropWhile_cons, List.dropWhile_cons, ih]
      split <;> rfl

theorem takeWhole?_leavesSpace : LeavesSpace takeWhole? := by
  intro text tail space
  have ends := space.endsNumeral
  rw [takeWhole?, takeWhole?, takeWhile_append_of_ends ends, dropWhile_append_of_ends ends]
  split <;> rfl

theorem takeFraction?_leavesSpace : LeavesSpace takeFraction? := by
  intro text tail space
  have ends := space.endsNumeral
  cases text with
  | nil => exact takeFraction?_of_ends ends
  | cons char text =>
      by_cases point : char = '.'
      · subst point
        simp only [List.cons_append, takeFraction?, takeWhile_append_of_ends ends,
          dropWhile_append_of_ends ends]
        split <;> rfl
      · simp [takeFraction?, point]

theorem takeSign_append {tail : List Char} (space : AllSpace tail) (text : List Char) :
    takeSign (text ++ tail) = ((takeSign text).1, (takeSign text).2 ++ tail) := by
  cases text with
  | nil =>
      cases tail with
      | nil => rfl
      | cons char tail => rcases space.first with rfl | rfl | rfl | rfl <;> rfl
  | cons char text =>
      by_cases plus : char = '+'
      · subst plus
        rfl
      by_cases minus : char = '-'
      · subst minus
        rfl
      · simp [takeSign, plus, minus]

theorem takeExponent?_leavesSpace : LeavesSpace takeExponent? := by
  intro text tail space
  have ends := space.endsNumeral
  cases text with
  | nil => exact takeExponent?_of_ends ends
  | cons mark text =>
      simp only [List.cons_append, takeExponent?, takeSign_append space,
        takeWhile_append_of_ends ends, dropWhile_append_of_ends ends]
      split
      · split <;> rfl
      · rfl

theorem takeUnsigned?_leavesSpace (negative : Bool) : LeavesSpace (takeUnsigned? negative) := by
  intro text tail space
  simp only [takeUnsigned?, takeWhole?_leavesSpace text tail space]
  cases takeWhole? text with
  | none => rfl
  | some found =>
      obtain ⟨whole, text⟩ := found
      simp only [Option.map_some, Option.bind_eq_bind, Option.bind_some,
        takeFraction?_leavesSpace text tail space]
      cases takeFraction? text with
      | none => rfl
      | some found =>
          obtain ⟨fraction, text⟩ := found
          simp only [Option.map_some, Option.bind_some, takeExponent?_leavesSpace text tail space]
          cases takeExponent? text <;> rfl

theorem take?_leavesSpace : LeavesSpace take? := by
  intro text tail space
  by_cases unsigned : text.head? ≠ some '-'
  · have behind : (text ++ tail).head? ≠ some '-' := by
      cases text with
      | nil =>
          intro minus
          obtain ⟨rest, rfl⟩ := List.head?_eq_some_iff.mp minus
          exact absurd (space '-' List.mem_cons_self) (by decide)
      | cons char text => exact unsigned
    rw [take?_eq_takeUnsigned? unsigned, take?_eq_takeUnsigned? behind]
    exact takeUnsigned?_leavesSpace false text tail space
  · obtain ⟨text, rfl⟩ := List.head?_eq_some_iff.mp (not_not.mp unsigned)
    rw [List.cons_append, take?_minus, take?_minus]
    exact takeUnsigned?_leavesSpace true text tail space

end Numeral

namespace Outline

theorem dropBeginning?_append {word tail : List Char}
    (solid : ∀ char ∈ word, isSpace char = false) (space : AllSpace tail) (text : List Char) :
    dropBeginning? word (text ++ tail) = (dropBeginning? word text).map (· ++ tail) := by
  fun_induction dropBeginning? word text with
  | case1 => rfl
  | case2 letter word =>
      cases tail with
      | nil => rfl
      | cons char tail =>
          have other : letter ≠ char := by
            rintro rfl
            exact absurd (space letter List.mem_cons_self)
              (by rw [solid letter List.mem_cons_self]; exact Bool.false_ne_true)
          simp [dropBeginning?, other]
  | case3 word char behind ih =>
      rw [List.cons_append, dropBeginning?, if_pos rfl]
      exact ih fun other member => solid other (List.mem_cons_of_mem _ member)
  | case4 letter word char behind other => simp [dropBeginning?, other]

theorem takeWord?_leavesSpace {word : List Char} (solid : ∀ char ∈ word, isSpace char = false)
    (meaning : Outline) : LeavesSpace (takeWord? word meaning) := by
  intro text tail space
  rw [takeWord?, takeWord?, dropBeginning?_append solid space, Option.map_map, Option.map_map]
  rfl

theorem takeItems?_nil (fuel : Nat) : takeItems? fuel [] = none := by
  cases fuel with
  | zero => rfl
  | succ fuel => cases fuel <;> rfl

theorem takeFields?_nil (fuel : Nat) : takeFields? fuel [] = none := by
  cases fuel <;> rfl

theorem array_leavesSpace {fuel : Nat} (items : LeavesSpace (takeItems? fuel)) :
    LeavesSpace fun text =>
      match skipSpace text with
      | ']' :: rest => some (array [], rest)
      | rest => (takeItems? fuel rest).map fun found => (array found.1, found.2) := by
  intro text tail space
  obtain ⟨nothing, joined⟩ | ⟨char, front, alone, joined⟩ := space.skipSpace_append text
  · simp only [nothing, joined, takeItems?_nil, Option.map_none]
  · simp only [alone, joined]
    by_cases closes : char = ']'
    · subst closes
      rfl
    · simpa [closes] using items.map array (char :: front) tail space

theorem object_leavesSpace {fuel : Nat} (fields : LeavesSpace (takeFields? fuel)) :
    LeavesSpace fun text =>
      match skipSpace text with
      | '\x7d' :: rest => some (object [], rest)
      | rest => (takeFields? fuel rest).map fun found => (object found.1, found.2) := by
  intro text tail space
  obtain ⟨nothing, joined⟩ | ⟨char, front, alone, joined⟩ := space.skipSpace_append text
  · simp only [nothing, joined, takeFields?_nil, Option.map_none]
  · simp only [alone, joined]
    by_cases closes : char = '\x7d'
    · subst closes
      rfl
    · simpa [closes] using fields.map object (char :: front) tail space

theorem moreItems_leavesSpace {fuel : Nat} (items : LeavesSpace (takeItems? fuel))
    (item : Outline) :
    LeavesSpace fun text =>
      match skipSpace text with
      | ']' :: rest => some ([item], rest)
      | ',' :: rest => (takeItems? fuel rest).map fun found => (item :: found.1, found.2)
      | _ => none := by
  intro text tail space
  obtain ⟨nothing, joined⟩ | ⟨char, front, alone, joined⟩ := space.skipSpace_append text
  · simp only [nothing, joined, Option.map_none]
  · simp only [alone, joined]
    by_cases closes : char = ']'
    · subst closes
      rfl
    by_cases separates : char = ','
    · subst separates
      exact items.map (item :: ·) front tail space
    · simp [closes, separates]

theorem moreFields_leavesSpace {fuel : Nat} (fields : LeavesSpace (takeFields? fuel))
    (name : Option String) (item : Outline) :
    LeavesSpace fun text =>
      match skipSpace text with
      | '\x7d' :: rest => some ([(name, item)], rest)
      | ',' :: rest => (takeFields? fuel rest).map fun found => ((name, item) :: found.1, found.2)
      | _ => none := by
  intro text tail space
  obtain ⟨nothing, joined⟩ | ⟨char, front, alone, joined⟩ := space.skipSpace_append text
  · simp only [nothing, joined, Option.map_none]
  · simp only [alone, joined]
    by_cases closes : char = '\x7d'
    · subst closes
      rfl
    by_cases separates : char = ','
    · subst separates
      exact fields.map ((name, item) :: ·) front tail space
    · simp [closes, separates]

theorem take?_leavesSpace {fuel : Nat} (items : LeavesSpace (takeItems? fuel))
    (fields : LeavesSpace (takeFields? fuel)) : LeavesSpace (take? (fuel + 1)) := by
  intro text tail space
  obtain ⟨nothing, joined⟩ | ⟨char, front, alone, joined⟩ := space.skipSpace_append text
  · simp only [take?, nothing, joined, Option.map_none]
  · simp only [take?, alone, joined]
    by_cases isArray : char = '['
    · subst isArray
      exact array_leavesSpace items front tail space
    by_cases isObject : char = '\x7b'
    · subst isObject
      exact object_leavesSpace fields front tail space
    by_cases isString : char = '"'
    · subst isString
      exact takeString?_leavesSpace.map string front tail space
    by_cases isNull : char = 'n'
    · subst isNull
      exact takeWord?_leavesSpace (by simp [isSpace]) _ front tail space
    by_cases isTrue : char = 't'
    · subst isTrue
      exact takeWord?_leavesSpace (by simp [isSpace]) _ front tail space
    by_cases isFalse : char = 'f'
    · subst isFalse
      exact takeWord?_leavesSpace (by simp [isSpace]) _ front tail space
    · have numeral := Numeral.take?_leavesSpace.map
        (fun found => number (Number.ofNumeral? found)) (char :: front) tail space
      simpa [isArray, isObject, isString, isNull, isTrue, isFalse] using numeral

theorem takeItems?_leavesSpace {fuel : Nat} (value : LeavesSpace (take? fuel))
    (items : LeavesSpace (takeItems? fuel)) : LeavesSpace (takeItems? (fuel + 1)) := by
  intro text tail space
  rw [takeItems?, takeItems?, value text tail space]
  cases take? fuel text with
  | none => rfl
  | some found => exact moreItems_leavesSpace items found.1 found.2 tail space

theorem takeFields?_leavesSpace {fuel : Nat} (value : LeavesSpace (take? fuel))
    (fields : LeavesSpace (takeFields? fuel)) : LeavesSpace (takeFields? (fuel + 1)) := by
  intro text tail space
  obtain ⟨nothing, joined⟩ | ⟨char, front, alone, joined⟩ := space.skipSpace_append text
  · simp only [takeFields?, nothing, joined, Option.map_none]
  · simp only [takeFields?, alone, joined]
    by_cases opens : char = '"'
    · subst opens
      simp only [takeString?_leavesSpace front tail space]
      cases takeString? front with
      | none => rfl
      | some named =>
          obtain ⟨name, text⟩ := named
          obtain ⟨nothing, joined⟩ | ⟨char, front, alone, joined⟩ := space.skipSpace_append text
          · simp only [Option.map_some, nothing, joined, Option.map_none]
          · simp only [Option.map_some, alone, joined]
            by_cases colon : char = ':'
            · subst colon
              simp only [value front tail space]
              cases take? fuel front with
              | none => rfl
              | some found =>
                  exact moreFields_leavesSpace fields name found.1 found.2 tail space
            · simp [colon]
    · simp [opens]

theorem readers_leaveSpace (fuel : Nat) :
    LeavesSpace (take? fuel) ∧ LeavesSpace (takeItems? fuel) ∧ LeavesSpace (takeFields? fuel) := by
  induction fuel with
  | zero => exact ⟨fun _ _ _ => rfl, fun _ _ _ => rfl, fun _ _ _ => rfl⟩
  | succ fuel ih =>
      obtain ⟨value, items, fields⟩ := ih
      exact ⟨take?_leavesSpace items fields, takeItems?_leavesSpace value items,
        takeFields?_leavesSpace value fields⟩

theorem take?_behindSpace {before : List Char} (space : AllSpace before) (fuel : Nat)
    (text : List Char) : take? fuel (before ++ text) = take? fuel text := by
  have skipped : skipSpace (before ++ text) = skipSpace text :=
    List.dropWhile_append_of_pos space
  cases fuel with
  | zero => rfl
  | succ fuel => rw [take?, take?, skipped]

theorem read?_surrounded {before after : List Char} (opening : AllSpace before)
    (closing : AllSpace after) (text : List Char) :
    read? (String.ofList (before ++ text ++ after)) = read? (String.ofList text) := by
  have same (fuel : Nat) (enough : 2 * text.length ≤ fuel) :
      take? fuel (before ++ text ++ after) =
        (take? (2 * text.length + 2) text).map fun found => (found.1, found.2 ++ after) := by
    rw [List.append_assoc, take?_behindSpace opening,
      (readers_leaveSpace fuel).1 text after closing,
      take?_bound enough (Nat.le_add_right _ 2)]
  simp only [read?, String.toList_ofList]
  rw [same _ (by simp only [List.length_append]; omega)]
  cases take? (2 * text.length + 2) text with
  | none => rfl
  | some found =>
      obtain ⟨outline, rest⟩ := found
      obtain ⟨nothing, joined⟩ | ⟨char, front, alone, joined⟩ := closing.skipSpace_append rest
      · simp only [Option.map_some, nothing, joined]
      · simp only [Option.map_some, alone, joined, reduceCtorEq, reduceIte]

end Outline

/-- **White space.** White space before and behind a text does not change its value. -/
theorem read?_surrounded {before after : List Char} (opening : AllSpace before)
    (closing : AllSpace after) (text : List Char) :
    read? (String.ofList (before ++ text ++ after)) = read? (String.ofList text) := by
  rw [read?, read?, Outline.read?_surrounded opening closing]

/-- White space is no value, nor is it with form feeds in it. -/
theorem read?_of_blank {text : String}
    (blank : ∀ char ∈ text.toList, isSpace char = true ∨ char = '\x0c') : read? text = none := by
  have nothing : Outline.read? text = none := by
    simp only [Outline.read?, Outline.take?]
    cases front : skipSpace text.toList with
    | nil => rfl
    | cons char rest =>
        have kept : skipSpace text.toList ⊆ text.toList := (List.dropWhile_sublist isSpace).subset
        have solid := List.head?_dropWhile_not isSpace text.toList
        rw [← skipSpace, front] at solid
        rcases blank char (kept (front ▸ List.mem_cons_self)) with space | rfl
        · exact absurd space (by rw [solid]; exact Bool.false_ne_true)
        · simp [Numeral.take?, Numeral.takeWhole?]
  rw [read?, nothing, Option.bind_none]

end LiveChat.Json
