import LiveChat.Proofs.Json.Scalars

/-!
# The bound of the reader

The reader of JSON texts counts down from a number that the length of the text gives. That number is
no limit to what is read: two for each character that a value takes are enough for it
(`Outline.suffices_readers`), so that all numbers from there on give the same (`Outline.take?_bound`).
-/

namespace LiveChat.Json

open LiveChat.Text

theorem length_skipSpace_le (text : List Char) : (skipSpace text).length ≤ text.length :=
  (List.dropWhile_suffix isSpace).length_le

/-- Whatever is read takes at least one character. -/
def Consumes {α : Type} (read : List Char → Option (α × List Char)) : Prop :=
  ∀ text found rest, read text = some (found, rest) → rest.length < text.length

theorem Consumes.map {α β : Type} {read : List Char → Option (α × List Char)}
    (consumes : Consumes read) (meaning : α → β) :
    Consumes fun text => (read text).map fun found => (meaning found.1, found.2) := by
  intro text found rest taken
  obtain ⟨⟨first, behind⟩, read, same⟩ := Option.map_eq_some_iff.mp taken
  cases same
  exact consumes text first behind read

theorem takeUnits?_consumes : Consumes takeUnits? := by
  intro text units rest taken
  fun_induction takeUnits? text generalizing units rest with
  | case1 => cases taken
  | case2 behind =>
      cases taken
      exact Nat.lt_succ_self _
  | case3 first second third fourth behind ih =>
      simp only [Option.bind_eq_bind, Option.pure_def, Option.bind_eq_some_iff] at taken
      obtain ⟨unit, -, ⟨units, rest⟩, later, same⟩ := taken
      cases same
      have shorter := ih units rest later
      simp only [List.length_cons]
      omega
  | case4 letter behind _ ih =>
      simp only [Option.bind_eq_bind, Option.pure_def, Option.bind_eq_some_iff] at taken
      obtain ⟨char, -, ⟨units, rest⟩, later, same⟩ := taken
      cases same
      have shorter := ih units rest later
      simp only [List.length_cons]
      omega
  | case5 => cases taken
  | case6 char behind _ _ _ _ ih =>
      simp only [Option.bind_eq_bind, Option.pure_def, Option.bind_eq_some_iff] at taken
      obtain ⟨⟨units, rest⟩, later, same⟩ := taken
      cases same
      have shorter := ih units rest later
      simp only [List.length_cons]
      omega

theorem takeString?_consumes : Consumes takeString? := by
  intro text found rest taken
  simp only [takeString?, Option.bind_eq_bind, Option.pure_def, Option.bind_eq_some_iff] at taken
  obtain ⟨⟨units, rest⟩, closed, same⟩ := taken
  cases same
  exact takeUnits?_consumes text units rest closed

namespace Numeral

theorem takeWhole?_consumes : Consumes takeWhole? := by
  intro text digits rest taken
  simp only [takeWhole?] at taken
  split at taken
  case isTrue => cases taken
  case isFalse proper =>
    cases taken
    have parts := congrArg List.length
      (List.takeWhile_append_dropWhile (p := Char.isDigit) (l := text))
    have some := List.length_pos_iff.mpr fun empty => proper (.inl empty)
    rw [List.length_append] at parts
    omega

theorem length_le_of_takeFraction? {text digits rest : List Char}
    (taken : takeFraction? text = some (digits, rest)) : rest.length ≤ text.length := by
  unfold takeFraction? at taken
  split at taken
  · rename_i behind
    dsimp only at taken
    split at taken
    · cases taken
    · cases taken
      exact Nat.le_succ_of_le (List.dropWhile_suffix _).length_le
  · cases taken
    exact Nat.le_refl _

theorem length_takeSign_le (text : List Char) : (takeSign text).2.length ≤ text.length := by
  unfold takeSign
  split
  · exact Nat.le_succ _
  · exact Nat.le_succ _
  · exact Nat.le_refl _

theorem length_le_of_takeExponent? {text rest : List Char} {exponent : Option (Bool × List Char)}
    (taken : takeExponent? text = some (exponent, rest)) : rest.length ≤ text.length := by
  unfold takeExponent? at taken
  split at taken
  · cases taken
    exact Nat.le_refl _
  · rename_i mark behind
    split at taken
    · dsimp only at taken
      split at taken
      · cases taken
      · cases taken
        exact Nat.le_succ_of_le
          ((List.dropWhile_suffix _).length_le.trans (length_takeSign_le behind))
    · cases taken
      exact Nat.le_refl _

/-- Reads the parts of a numeral behind its sign. -/
def takeUnsigned? (negative : Bool) (text : List Char) : Option (Numeral × List Char) := do
  let (whole, text) ← takeWhole? text
  let (fraction, text) ← takeFraction? text
  let (exponent, text) ← takeExponent? text
  return (⟨negative, whole, fraction, exponent⟩, text)

theorem take?_minus (text : List Char) : take? ('-' :: text) = takeUnsigned? true text := rfl

theorem take?_eq_takeUnsigned? {text : List Char} (unsigned : text.head? ≠ some '-') :
    take? text = takeUnsigned? false text := by
  unfold take?
  split
  rename_i negative behind same
  split at same
  · exact absurd rfl unsigned
  · cases same
    rfl

theorem takeUnsigned?_consumes (negative : Bool) : Consumes (takeUnsigned? negative) := by
  intro text numeral rest taken
  simp only [takeUnsigned?, Option.bind_eq_bind, Option.pure_def, Option.bind_eq_some_iff] at taken
  obtain ⟨⟨whole, behind⟩, first, ⟨fraction, more⟩, second, ⟨exponent, last⟩, third, same⟩ := taken
  cases same
  calc
    last.length ≤ more.length := length_le_of_takeExponent? third
    _ ≤ behind.length := length_le_of_takeFraction? second
    _ < text.length := takeWhole?_consumes _ _ _ first

theorem take?_consumes : Consumes take? := by
  intro text numeral rest taken
  by_cases unsigned : text.head? ≠ some '-'
  · rw [take?_eq_takeUnsigned? unsigned] at taken
    exact takeUnsigned?_consumes false text numeral rest taken
  · obtain ⟨behind, rfl⟩ := List.head?_eq_some_iff.mp (not_not.mp unsigned)
    rw [take?_minus] at taken
    exact Nat.lt_succ_of_lt (takeUnsigned?_consumes true behind numeral rest taken)

end Numeral

namespace Outline

theorem length_le_of_dropBeginning? {beginning text rest : List Char}
    (dropped : dropBeginning? beginning text = some rest) : rest.length ≤ text.length := by
  fun_induction dropBeginning? beginning text with
  | case1 => exact (Option.some.inj dropped).symm ▸ Nat.le_refl _
  | case2 => cases dropped
  | case3 beginning char behind ih => exact Nat.le_succ_of_le (ih dropped)
  | case4 => cases dropped

theorem length_le_of_takeWord? {word text rest : List Char} {meaning found : Outline}
    (taken : takeWord? word meaning text = some (found, rest)) : rest.length ≤ text.length := by
  obtain ⟨behind, dropped, same⟩ := Option.map_eq_some_iff.mp taken
  cases same
  exact length_le_of_dropBeginning? dropped

/-- What is read takes at least one character, and a number that is twice as large as what it takes
is enough to read it. -/
def Suffices {α : Type} (read : Nat → List Char → Option (α × List Char)) (fuel : Nat) : Prop :=
  ∀ text found rest, read fuel text = some (found, rest) →
    rest.length < text.length ∧
      ∀ other, 2 * (text.length - rest.length) ≤ other → read other text = some (found, rest)

theorem suffices_zero {α : Type} {read : Nat → List Char → Option (α × List Char)}
    (nothing : ∀ text, read 0 text = none) : Suffices read 0 := by
  intro text found rest taken
  rw [nothing] at taken
  cases taken

theorem suffices_succ {α : Type} {read : Nat → List Char → Option (α × List Char)} {fuel : Nat}
    (step : ∀ text found rest, read (fuel + 1) text = some (found, rest) →
      rest.length < text.length ∧ ∀ less, 2 * (text.length - rest.length) ≤ less + 1 →
        read (less + 1) text = some (found, rest)) : Suffices read (fuel + 1) := by
  intro text found rest taken
  obtain ⟨shorter, again⟩ := step text found rest taken
  refine ⟨shorter, fun other enough => ?_⟩
  obtain ⟨less, rfl⟩ : ∃ less, other = less + 1 := ⟨other - 1, by omega⟩
  exact again less enough

theorem Suffices.map {α β : Type} {read : Nat → List Char → Option (α × List Char)} {fuel : Nat}
    (enough : Suffices read fuel) (meaning : α → β) :
    Suffices (fun fuel text => (read fuel text).map fun found => (meaning found.1, found.2))
      fuel := by
  intro text found rest taken
  obtain ⟨⟨first, behind⟩, read, same⟩ := Option.map_eq_some_iff.mp taken
  cases same
  obtain ⟨shorter, again⟩ := enough text first behind read
  exact ⟨shorter, fun other more => Option.map_eq_some_iff.mpr ⟨_, again other more, rfl⟩⟩

/-- White space is read for nothing. -/
theorem Suffices.skipped {α : Type} {read : Nat → List Char → Option (α × List Char)} {fuel : Nat}
    (enough : Suffices read fuel) :
    Suffices (fun fuel text => read fuel (skipSpace text)) fuel := by
  intro text found rest taken
  have skipped := length_skipSpace_le text
  obtain ⟨shorter, again⟩ := enough _ found rest taken
  exact ⟨by omega, fun other more => again other (by omega)⟩

theorem suffices_array {fuel : Nat} (items : Suffices takeItems? fuel) :
    Suffices (fun fuel text =>
      match text with
      | ']' :: rest => some (array [], rest)
      | rest => (takeItems? fuel rest).map fun found => (array found.1, found.2)) fuel := by
  intro text found rest
  dsimp only
  split <;> intro taken
  · cases taken
    exact ⟨Nat.lt_succ_self _, fun _ _ => rfl⟩
  · exact items.map array _ _ _ taken

theorem suffices_object {fuel : Nat} (fields : Suffices takeFields? fuel) :
    Suffices (fun fuel text =>
      match text with
      | '\x7d' :: rest => some (object [], rest)
      | rest => (takeFields? fuel rest).map fun found => (object found.1, found.2)) fuel := by
  intro text found rest
  dsimp only
  split <;> intro taken
  · cases taken
    exact ⟨Nat.lt_succ_self _, fun _ _ => rfl⟩
  · exact fields.map object _ _ _ taken

theorem suffices_take? {fuel : Nat} (items : Suffices takeItems? fuel)
    (fields : Suffices takeFields? fuel) : Suffices take? (fuel + 1) := by
  refine suffices_succ fun text found rest taken => ?_
  have skipped := length_skipSpace_le text
  simp only [take?] at taken ⊢
  generalize skipSpace text = front at taken skipped ⊢
  revert taken
  split
  case h_1 => exact fun taken => nomatch taken
  case h_2 front =>
    intro taken
    obtain ⟨shorter, again⟩ := (suffices_array items).skipped _ _ _ taken
    rw [List.length_cons] at skipped
    exact ⟨by omega, fun less enough => again less (by omega)⟩
  case h_3 front =>
    intro taken
    obtain ⟨shorter, again⟩ := (suffices_object fields).skipped _ _ _ taken
    rw [List.length_cons] at skipped
    exact ⟨by omega, fun less enough => again less (by omega)⟩
  case h_4 front =>
    intro taken
    have shorter := takeString?_consumes.map string _ _ _ taken
    exact ⟨by rw [List.length_cons] at skipped; omega, fun _ _ => taken⟩
  case h_8 front _ _ _ _ _ _ _ =>
    intro taken
    have shorter := Numeral.take?_consumes.map
      (fun found => number (Number.ofNumeral? found)) _ _ _ taken
    exact ⟨by omega, fun _ _ => taken⟩
  all_goals
    intro taken
    have shorter := length_le_of_takeWord? taken
    exact ⟨by rw [List.length_cons] at skipped; omega, fun _ _ => taken⟩

theorem suffices_moreItems {fuel : Nat} (items : Suffices takeItems? fuel) (item : Outline) :
    Suffices (fun fuel text =>
      match text with
      | ']' :: rest => some ([item], rest)
      | ',' :: rest => (takeItems? fuel rest).map fun found => (item :: found.1, found.2)
      | _ => none) fuel := by
  intro text found rest
  dsimp only
  split <;> intro taken
  · cases taken
    exact ⟨Nat.lt_succ_self _, fun _ _ => rfl⟩
  · obtain ⟨shorter, again⟩ := items.map (item :: ·) _ _ _ taken
    exact ⟨Nat.lt_succ_of_lt shorter,
      fun other enough => again other (by rw [List.length_cons] at enough; omega)⟩
  · cases taken

theorem suffices_moreFields {fuel : Nat} (fields : Suffices takeFields? fuel)
    (name : Option String) (item : Outline) :
    Suffices (fun fuel text =>
      match text with
      | '\x7d' :: rest => some ([(name, item)], rest)
      | ',' :: rest => (takeFields? fuel rest).map fun found => ((name, item) :: found.1, found.2)
      | _ => none) fuel := by
  intro text found rest
  dsimp only
  split <;> intro taken
  · cases taken
    exact ⟨Nat.lt_succ_self _, fun _ _ => rfl⟩
  · obtain ⟨shorter, again⟩ := fields.map ((name, item) :: ·) _ _ _ taken
    exact ⟨Nat.lt_succ_of_lt shorter,
      fun other enough => again other (by rw [List.length_cons] at enough; omega)⟩
  · cases taken

/-- A reader goes on behind what another has read. Both take something, so that there is one to
spare. -/
theorem Suffices.andThen {α β : Type} {read : Nat → List Char → Option (α × List Char)}
    {next : Nat → List Char → Option (β × List Char)} {fuel : Nat} {text behind rest : List Char}
    {first : α} {second : β} (before : Suffices read fuel) (after : Suffices next fuel)
    (taken : read fuel text = some (first, behind))
    (more : next fuel behind = some (second, rest)) :
    rest.length < text.length ∧ ∀ less, 2 * (text.length - rest.length) ≤ less + 1 →
      read less text = some (first, behind) ∧ next less behind = some (second, rest) := by
  obtain ⟨shorter, again⟩ := before text first behind taken
  obtain ⟨last, moreAgain⟩ := after behind second rest more
  exact ⟨by omega, fun less enough => ⟨again less (by omega), moreAgain less (by omega)⟩⟩

theorem suffices_takeItems? {fuel : Nat} (value : Suffices take? fuel)
    (items : Suffices takeItems? fuel) : Suffices takeItems? (fuel + 1) := by
  refine suffices_succ fun text found rest taken => ?_
  simp only [takeItems?] at taken ⊢
  cases first : take? fuel text with
  | none =>
      rw [first] at taken
      cases taken
  | some pair =>
      obtain ⟨item, behind⟩ := pair
      rw [first] at taken
      obtain ⟨shorter, again⟩ := value.andThen (suffices_moreItems items item).skipped first taken
      refine ⟨shorter, fun less enough => ?_⟩
      rw [(again less enough).1]
      exact (again less enough).2

theorem suffices_takeFields? {fuel : Nat} (value : Suffices take? fuel)
    (fields : Suffices takeFields? fuel) : Suffices takeFields? (fuel + 1) := by
  refine suffices_succ fun text found rest taken => ?_
  have skipped := length_skipSpace_le text
  simp only [takeFields?] at taken ⊢
  generalize skipSpace text = front at taken skipped ⊢
  revert taken
  split
  case h_2 => exact fun taken => nomatch taken
  case h_1 front =>
    cases named : takeString? front with
    | none => exact fun taken => nomatch taken
    | some pair =>
        obtain ⟨name, behind⟩ := pair
        have shorter := takeString?_consumes _ _ _ named
        have skippedName := length_skipSpace_le behind
        dsimp only
        generalize skipSpace behind = more at skippedName ⊢
        split
        case h_2 => exact fun taken => nomatch taken
        case h_1 behind =>
          cases first : take? fuel behind with
          | none => exact fun taken => nomatch taken
          | some pair =>
              obtain ⟨item, behindItem⟩ := pair
              intro taken
              obtain ⟨last, again⟩ :=
                value.andThen (suffices_moreFields fields name item).skipped first taken
              rw [List.length_cons] at skipped skippedName
              refine ⟨by omega, fun less enough => ?_⟩
              rw [(again less (by omega)).1]
              exact (again less (by omega)).2

theorem suffices_readers (fuel : Nat) :
    Suffices take? fuel ∧ Suffices takeItems? fuel ∧ Suffices takeFields? fuel := by
  induction fuel with
  | zero =>
      exact ⟨suffices_zero fun _ => take?.eq_1 _, suffices_zero fun _ => takeItems?.eq_1 _,
        suffices_zero fun _ => takeFields?.eq_1 _⟩
  | succ fuel ih =>
      obtain ⟨value, items, fields⟩ := ih
      exact ⟨suffices_take? items fields, suffices_takeItems? value items,
        suffices_takeFields? value fields⟩

/-- **The bound is no limit.** From twice the length of the text on, all bounds give the same. -/
theorem take?_bound {text : List Char} {fuel other : Nat} (enough : 2 * text.length ≤ fuel)
    (more : 2 * text.length ≤ other) : take? fuel text = take? other text := by
  ext ⟨found, rest⟩
  constructor
  · exact fun taken => ((suffices_readers fuel).1 text found rest taken).2 other (by omega)
  · exact fun taken => ((suffices_readers other).1 text found rest taken).2 fuel (by omega)

end Outline

end LiveChat.Json
