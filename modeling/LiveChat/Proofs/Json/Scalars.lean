import LiveChat.Json.Printer
import LiveChat.Json.Reader
import Mathlib.Algebra.Group.Int.Defs
import Mathlib.Data.List.Basic
import Mathlib.Data.List.TakeWhile

/-!
# Strings and integers are read back

What is written for a string is read as that string, whatever characters it holds
(`takeString?_writtenString`), and what is written for an integer of 64 bits is read as that integer
(`take?_signedDecimal`, `Number.ofNumeral?_wholeNumeral`), if no part of a numeral stands behind it.
-/

namespace LiveChat.Json

open LiveChat.Text LiveChat.Decimal

section Strings

/-- The six characters that are written for a control are read as the control. -/
theorem hexUnit?_of_control {char : Char} (control : char.toNat < 0x20) :
    hexUnit? '0' '0' (Nat.digitChar (char.toNat / 16)) (Nat.digitChar (char.toNat % 16)) =
      some (.char char) := by
  have controls : ∀ code < 0x20,
      hexUnit? '0' '0' (Nat.digitChar (code / 16)) (Nat.digitChar (code % 16)) =
        some (.char (Char.ofNat code)) := by decide +kernel
  rw [controls char.toNat control, Char.ofNat_toNat]

theorem escaped?_of_escapeLetter? {char letter : Char} (known : escapeLetter? char = some letter) :
    escaped? letter = some char ∧ letter ≠ 'u' := by
  unfold escapeLetter? at known
  split at known
  all_goals first | (cases known; decide) | cases known

theorem takeUnits?_writtenChar (char : Char) (text : List Char) :
    takeUnits? (writtenChar char ++ text) =
      (takeUnits? text).map fun found => (.char char :: found.1, found.2) := by
  unfold writtenChar
  split
  · rename_i letter known
    obtain ⟨read, notCode⟩ := escaped?_of_escapeLetter? known
    cases rest : takeUnits? text <;> simp [takeUnits?, read, notCode, rest]
  · rename_i plain
    by_cases control : char.toNat < 0x20
    · rw [if_pos control]
      cases rest : takeUnits? text <;> simp [takeUnits?, hexUnit?_of_control control, rest]
    · have notQuote : char ≠ '"' := by
        rintro rfl
        cases plain
      have notEscape : char ≠ '\\' := by
        rintro rfl
        cases plain
      rw [if_neg control]
      cases rest : takeUnits? text <;> simp [takeUnits?, notEscape, control, rest]

theorem takeUnits?_written (chars rest : List Char) :
    takeUnits? (chars.flatMap writtenChar ++ '"' :: rest) = some (chars.map .char, rest) := by
  induction chars with
  | nil => rfl
  | cons char chars ih =>
      rw [List.flatMap_cons, List.append_assoc, takeUnits?_writtenChar, ih]
      rfl

theorem joinUnits?_map_char (chars : List Char) : joinUnits? (chars.map .char) = some chars := by
  induction chars with
  | nil => rfl
  | cons char chars ih =>
      rw [List.map_cons, joinUnits?, ih]
      rfl

theorem writtenString_append (text : String) (rest : List Char) :
    writtenString text ++ rest = '"' :: (text.toList.flatMap writtenChar ++ '"' :: rest) := by
  simp [writtenString]

/-- **Strings.** Behind the opening quote, the text written for a string is read as the string. -/
theorem takeString?_writtenString (text : String) (rest : List Char) :
    takeString? (text.toList.flatMap writtenChar ++ '"' :: rest) = some (some text, rest) := by
  rw [takeString?, takeUnits?_written]
  simp only [Option.bind_eq_bind, Option.bind_some, joinUnits?_map_char, Option.map_some,
    String.ofList_toList]
  rfl

end Strings

section Integers

theorem isDigit_of_mem_decimal {value : Nat} {char : Char} (member : char ∈ decimal value) :
    char.isDigit = true :=
  Nat.isDigit_of_mem_toDigits (by decide) (by decide) member

theorem decimal_of_ten_le {value : Nat} (large : 10 ≤ value) :
    decimal value = decimal (value / 10) ++ [Nat.digitChar (value % 10)] :=
  Nat.toDigits_of_base_le (by decide) large

theorem head?_decimal_append (value : Nat) (text : List Char) :
    (decimal value ++ text).head? = (decimal value).head? :=
  List.head?_append_of_ne_nil _ Nat.toDigits_ne_nil

/-- No numeral of a positive number begins with a zero. -/
theorem head?_decimal_ne_zero {value : Nat} (positive : 0 < value) :
    (decimal value).head? ≠ some '0' := by
  induction value using Nat.strong_induction_on with
  | _ value ih =>
      by_cases small : value < 10
      · have digits : ∀ digit < 10, 0 < digit → (decimal digit).head? ≠ some '0' := by
          decide +kernel
        exact digits value small positive
      · rw [decimal_of_ten_le (by omega), head?_decimal_append]
        exact ih (value / 10) (by omega) (by omega)

/-- Nothing at the front of a text would go on with a numeral. -/
def EndsNumeral (text : List Char) : Prop :=
  ∀ char ∈ text.head?, char.isDigit = false ∧ char ≠ '.' ∧ char ≠ 'e' ∧ char ≠ 'E'

theorem endsNumeral_nil : EndsNumeral [] := by
  intro char member
  cases member

theorem endsNumeral_cons {char : Char} (rest : List Char) (close : char ∈ [',', ']', '\x7d']) :
    EndsNumeral (char :: rest) := by
  intro other same
  cases same
  revert close
  simp only [List.mem_cons, List.not_mem_nil, or_false]
  rintro (rfl | rfl | rfl) <;> decide

variable {rest : List Char}

theorem EndsNumeral.takeWhile (ends : EndsNumeral rest) : rest.takeWhile Char.isDigit = [] := by
  cases rest with
  | nil => rfl
  | cons char rest => exact List.takeWhile_cons_of_neg (by simp [(ends char rfl).1])

theorem EndsNumeral.dropWhile (ends : EndsNumeral rest) : rest.dropWhile Char.isDigit = rest := by
  cases rest with
  | nil => rfl
  | cons char rest => exact List.dropWhile_cons_of_neg (by simp [(ends char rfl).1])

theorem takeWhole?_decimal (value : Nat) (ends : EndsNumeral rest) :
    Numeral.takeWhole? (decimal value ++ rest) = some (decimal value, rest) := by
  have digits : ∀ char ∈ decimal value, char.isDigit = true := fun _ => isDigit_of_mem_decimal
  have proper : ¬ (decimal value = [] ∨
      ((decimal value).head? = some '0' ∧ (decimal value).length ≠ 1)) := by
    rintro (empty | ⟨zero, long⟩)
    · exact Nat.toDigits_ne_nil empty
    · by_cases positive : 0 < value
      · exact head?_decimal_ne_zero positive zero
      · obtain rfl : value = 0 := by omega
        exact long rfl
  rw [Numeral.takeWhole?, List.takeWhile_append_of_pos digits, List.dropWhile_append_of_pos digits,
    ends.takeWhile, ends.dropWhile, List.append_nil, if_neg proper]

theorem takeFraction?_of_ends (ends : EndsNumeral rest) :
    Numeral.takeFraction? rest = some ([], rest) := by
  unfold Numeral.takeFraction?
  split
  · exact absurd rfl (ends '.' rfl).2.1
  · rfl

theorem takeExponent?_of_ends (ends : EndsNumeral rest) :
    Numeral.takeExponent? rest = some (none, rest) := by
  unfold Numeral.takeExponent?
  split
  · rfl
  · rename_i mark rest
    obtain ⟨-, -, small, capital⟩ := ends mark rfl
    rw [if_neg (by simp [small, capital])]

/-- The numeral of an integer. -/
def wholeNumeral (value : Int) : Numeral := ⟨value < 0, decimal value.natAbs, [], none⟩

theorem take?_signedDecimal (value : Int) (ends : EndsNumeral rest) :
    Numeral.take? (signedDecimal value ++ rest) = some (wholeNumeral value, rest) := by
  unfold signedDecimal wholeNumeral
  by_cases negative : value < 0
  · simp [Numeral.take?, negative, takeWhole?_decimal _ ends, takeFraction?_of_ends ends,
      takeExponent?_of_ends ends]
  · have unsigned : ∀ other, decimal value.natAbs ++ rest ≠ '-' :: other := by
      intro other same
      have first := head?_decimal_append value.natAbs rest
      rw [same, List.head?_cons] at first
      have digit := isDigit_of_mem_decimal (List.mem_of_head? first.symm)
      revert digit
      decide
    simp [Numeral.take?, negative, takeWhole?_decimal _ ends, takeFraction?_of_ends ends,
      takeExponent?_of_ends ends]

theorem le_foldl_digits (digits : List Char) (start : Nat) :
    start ≤ digits.foldl (fun value digit => value * 10 + (digit.toNat - 48)) start := by
  induction digits generalizing start with
  | nil => exact Nat.le_refl start
  | cons digit digits ih =>
      have later := ih (start * 10 + (digit.toNat - 48))
      rw [List.foldl_cons]
      omega

theorem gather_of_lt {digits : List Char} {start : Nat}
    (fits : digits.foldl (fun value digit => value * 10 + (digit.toNat - 48)) start <
      UInt64.size) :
    gather start digits =
      (digits.foldl (fun value digit => value * 10 + (digit.toNat - 48)) start, []) := by
  induction digits generalizing start with
  | nil => rfl
  | cons digit digits ih =>
      rw [List.foldl_cons] at fits ⊢
      have next := Nat.lt_of_le_of_lt (le_foldl_digits digits _) fits
      rw [gather]
      simp only [if_pos next]
      exact ih fits

theorem foldl_decimal (value : Nat) :
    (decimal value).foldl (fun value digit => value * 10 + (digit.toNat - 48)) 0 = value := by
  have read : Nat.ofDigitChars 10 (decimal value) 0 = value := Nat.ofDigitChars_ten_toDigits
  simp only [Nat.mul_comm _ 10]
  exact read

/-- An integer that a numeral can hold: one of 64 bits, signed or unsigned. -/
def FitsNumeral (value : Int) : Prop := -2 ^ 63 ≤ value ∧ value < 2 ^ 64

/-- **Integers.** The numeral of an integer of 64 bits has the integer as its value. -/
theorem ofNumeral?_wholeNumeral {value : Int} (fits : FitsNumeral value) :
    Number.ofNumeral? (wholeNumeral value) = some (.integer value) := by
  obtain ⟨low, high⟩ := fits
  have bound : value.natAbs < UInt64.size := by
    rw [UInt64.size]
    omega
  have gathered : gather 0 (decimal value.natAbs) = (value.natAbs, []) := by
    rw [gather_of_lt (by rw [foldl_decimal]; exact bound), foldl_decimal]
  unfold Number.ofNumeral? wholeNumeral
  simp only [gathered, gather, ne_eq, not_true_eq_false, or_self, ↓reduceIte]
  by_cases negative : value < 0
  · have size : 0 < value.natAbs ∧ value.natAbs ≤ Nat.pow 2 63 := by
      rw [Nat.pow_eq]
      omega
    simp only [negative, decide_true, Bool.not_true, Bool.false_eq_true, ↓reduceIte, if_pos size]
    congr 2
    omega
  · simp only [negative, decide_false, Bool.not_false, ↓reduceIte]
    congr 2
    omega

end Integers

end LiveChat.Json
