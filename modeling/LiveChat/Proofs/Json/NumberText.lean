import LiveChat.Proofs.Json.Scalars
import LiveChat.Proofs.Text.Blanks

/-!
# Of what numbers are written

Digits, a point, signs and the mark of an exponent are all that the text of a number is made of
(`allNumeric_text`), so that it holds no blanks (`Number.solid_of_mem_text`).
-/

namespace LiveChat.Json

open LiveChat.Text LiveChat.Decimal

/-- A character of which numbers are written. -/
def IsNumeric (char : Char) : Prop := char.isDigit = true ∨ char ∈ ['.', '-', '+', 'e']

theorem IsNumeric.solid {char : Char} (numeric : IsNumeric char) : isBlank char = false := by
  rcases numeric with digit | mark
  · exact isBlank_of_isAlphanum (by simp [Char.isAlphanum, digit])
  · revert mark
    simp only [List.mem_cons, List.not_mem_nil, or_false]
    rintro (rfl | rfl | rfl | rfl) <;> decide

def AllNumeric (text : List Char) : Prop := ∀ char ∈ text, IsNumeric char

namespace AllNumeric

variable {text : List Char}

theorem point : IsNumeric '.' := .inr (by decide)

theorem zero : IsNumeric '0' := .inl (by decide)

theorem nil : AllNumeric [] := nofun

theorem cons {char : Char} (first : IsNumeric char) (rest : AllNumeric text) :
    AllNumeric (char :: text) :=
  List.forall_mem_cons.mpr ⟨first, rest⟩

theorem append {other : List Char} (front : AllNumeric text) (back : AllNumeric other) :
    AllNumeric (text ++ other) :=
  List.forall_mem_append.mpr ⟨front, back⟩

theorem take (all : AllNumeric text) (count : Nat) : AllNumeric (text.take count) :=
  fun char member => all char (List.mem_of_mem_take member)

theorem drop (all : AllNumeric text) (count : Nat) : AllNumeric (text.drop count) :=
  fun char member => all char (List.mem_of_mem_drop member)

theorem digits (value : Nat) : AllNumeric (Nat.toDigits 10 value) :=
  fun _ member => .inl (isDigit_of_mem_decimal member)

theorem zeros (count : Nat) : AllNumeric (List.replicate count '0') := by
  intro char member
  rw [List.eq_of_mem_replicate member]
  exact zero

end AllNumeric

open AllNumeric in
theorem allNumeric_text (value : Binary) : AllNumeric value.text := by
  unfold Binary.text
  split
  · exact cons zero (cons point (cons zero nil))
  · -- which digits they are does not matter
    generalize value.shortest = decimal
    dsimp only
    have all := digits decimal.digits
    split
    · exact (all.append (zeros _)).append (cons point (cons zero nil))
    · split
      · exact (all.take _).append (cons point (all.drop _))
      · split
        · exact (cons zero (cons point (zeros _))).append all
        · refine ((all.take _).append ?_).append (cons (.inr (by decide)) (cons ?_ (digits _)))
          · split
            · exact nil
            · exact cons point (all.drop _)
          · split <;> exact .inr (by decide)

theorem allNumeric_signedDecimal (value : Int) : AllNumeric (signedDecimal value) := by
  unfold signedDecimal
  split
  · exact .cons (.inr (by decide)) (.digits _)
  · exact .digits _

/-- The text of a number has no blanks. -/
theorem Number.solid_of_mem_text {value : Number} {char : Char}
    (member : char ∈ value.text) : isBlank char = false := by
  apply IsNumeric.solid
  cases value with
  | integer value => exact allNumeric_signedDecimal value char member
  | fraction negative size =>
      rw [Number.text] at member
      split at member
      · exact AllNumeric.cons (.inr (by decide)) (allNumeric_text size) char member
      · exact allNumeric_text size char member

end LiveChat.Json
