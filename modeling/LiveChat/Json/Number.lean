import LiveChat.Decimal.Shortest
import LiveChat.Text.Ascii

/-!
# Numbers of a JSON text

A numeral without fraction and exponent is an integer as long as it fits 64 bits, signed or
unsigned; all other numerals are binary fractions. A numeral whose value is too large for a fraction
has no value at all, although its form is in order.
-/

namespace LiveChat.Json

open LiveChat.Text LiveChat.Decimal

inductive Number where
  /-- An integer from `-2 ^ 63` to below `2 ^ 64`. -/
  | integer (value : Int)
  /-- A binary fraction with its sign, which zero has too. -/
  | fraction (negative : Bool) (size : Binary)
deriving DecidableEq, Repr

structure Numeral where
  negative : Bool
  whole : List Char
  /-- The digits behind the point; there is no point without digits. -/
  fraction : List Char
  /-- The sign of the exponent and its digits. -/
  exponent : Option (Bool × List Char)
deriving DecidableEq, Repr

namespace Numeral

/-- The whole part: a lone zero, or digits that do not start with one. -/
def takeWhole? (text : List Char) : Option (List Char × List Char) :=
  let digits := text.takeWhile Char.isDigit
  if digits = [] ∨ (digits.head? = some '0' ∧ digits.length ≠ 1) then none
  else some (digits, text.dropWhile Char.isDigit)

/-- The digits behind a point, where there is one. -/
def takeFraction? : List Char → Option (List Char × List Char)
  | '.' :: rest =>
      let digits := rest.takeWhile Char.isDigit
      if digits = [] then none else some (digits, rest.dropWhile Char.isDigit)
  | text => some ([], text)

/-- The sign in front of an exponent; none means plus. -/
def takeSign : List Char → Bool × List Char
  | '+' :: rest => (false, rest)
  | '-' :: rest => (true, rest)
  | text => (false, text)

/-- The exponent behind its mark, where there is one. -/
def takeExponent? : List Char → Option (Option (Bool × List Char) × List Char)
  | [] => some (none, [])
  | mark :: rest =>
      if mark = 'e' ∨ mark = 'E' then
        let (negative, text) := takeSign rest
        let digits := text.takeWhile Char.isDigit
        if digits = [] then none
        else some (some (negative, digits), text.dropWhile Char.isDigit)
      else some (none, mark :: rest)

/-- Reads a numeral at the front of a text and returns it with the rest. -/
def take? (text : List Char) : Option (Numeral × List Char) := do
  let (negative, text) :=
    match text with
    | '-' :: rest => (true, rest)
    | _ => (false, text)
  let (whole, text) ← takeWhole? text
  let (fraction, text) ← takeFraction? text
  let (exponent, text) ← takeExponent? text
  return (⟨negative, whole, fraction, exponent⟩, text)

end Numeral

/-- Appends decimal digits to a number for as long as the result is below `2 ^ 64`, and returns it
with the digits that no longer fit. -/
def gather : Nat → List Char → Nat × List Char
  | value, [] => (value, [])
  | value, digit :: rest =>
      let next := value * 10 + (digit.toNat - 48)
      if next < UInt64.size then gather next rest else (value, digit :: rest)

namespace Number

def ofScaled? (negative : Bool) (significand : Nat) (power : Int) : Option Number := do
  let start ← Binary.ofQuotient? significand 1
  let size ← start.scaleByTen? power
  return .fraction negative size

/-- The value of a numeral. Digits beyond the first `2 ^ 64` only shift the scale; an exponent
beyond `2 ^ 31` gives zero or no value. -/
def ofNumeral? (numeral : Numeral) : Option Number :=
  let (whole, dropped) := gather 0 numeral.whole
  let (significand, ignored) := gather whole numeral.fraction
  let power : Int := (dropped.length : Int) - (numeral.fraction.length - ignored.length : Nat)
  match numeral.exponent with
  | some (negative, digits) =>
      let shift := (naturalOf? digits).getD 0
      if shift ≥ Nat.pow 2 31 then
        if significand ≠ 0 ∧ !negative then none
        else some (.fraction numeral.negative .zero)
      else
        ofScaled? numeral.negative significand (if negative then power - shift else power + shift)
  | none =>
      if numeral.fraction ≠ [] ∨ dropped ≠ [] then ofScaled? numeral.negative significand power
      else if !numeral.negative then some (.integer significand)
      else if 0 < significand ∧ significand ≤ Nat.pow 2 63 then some (.integer (-significand))
      else ofScaled? true significand 0

def text : Number → List Char
  | .integer value => signedDecimal value
  | .fraction negative size => if negative then '-' :: size.text else size.text

end Number

end LiveChat.Json
