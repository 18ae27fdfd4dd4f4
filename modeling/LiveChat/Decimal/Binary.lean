/-!
# Binary fractions of 64 bits

The non-negative finite values of the 64-bit binary format, each as `significand * 2 ^ exponent`,
with exact rounding from quotients of natural numbers. Nothing here uses machine floats, so that
every result can be computed and reasoned about in the arithmetic of natural numbers.
-/

namespace LiveChat.Decimal

/-- A non-negative finite value `significand * 2 ^ exponent`. The values built here have a
significand below `2 ^ 53` and, unless it has all of its 53 bits, the exponent `-1074`. -/
structure Binary where
  significand : Nat
  exponent : Int
deriving DecidableEq, Repr

/-- The quotient rounded to the nearest natural number; a tie goes to the even neighbour. -/
def roundQuotient (numerator denominator : Nat) : Nat :=
  let quotient := numerator / denominator
  let remainder := numerator % denominator
  match compare (2 * remainder) denominator with
  | .lt => quotient
  | .gt => quotient + 1
  | .eq => if quotient % 2 == 0 then quotient else quotient + 1

/-- The greatest `e` with `2 ^ e ≤ numerator / denominator`, for a positive quotient. -/
def binaryScale (numerator denominator : Nat) : Int :=
  let estimate : Int := (numerator.log2 : Int) - denominator.log2
  if numerator * Nat.pow 2 (-estimate).toNat < denominator * Nat.pow 2 estimate.toNat then
    estimate - 1
  else estimate

namespace Binary

def zero : Binary := ⟨0, -1074⟩

def isZero (value : Binary) : Bool := value.significand == 0

/-- The value nearest to a quotient, ties to the even significand. Nothing is returned for a
quotient that rounds beyond the greatest finite value. -/
def ofQuotient? (numerator denominator : Nat) : Option Binary :=
  if numerator = 0 then some zero
  else
    let exponent := max (binaryScale numerator denominator - 52) (-1074)
    let significand :=
      roundQuotient (numerator * Nat.pow 2 (-exponent).toNat)
        (denominator * Nat.pow 2 exponent.toNat)
    let rounded : Binary :=
      if significand = Nat.pow 2 53 then ⟨Nat.pow 2 52, exponent + 1⟩ else ⟨significand, exponent⟩
    if rounded.exponent > 971 then none else some rounded

def numerator (value : Binary) : Nat := value.significand * Nat.pow 2 value.exponent.toNat

def denominator (value : Binary) : Nat := Nat.pow 2 (-value.exponent).toNat

def mul? (left right : Binary) : Option Binary :=
  ofQuotient? (left.numerator * right.numerator) (left.denominator * right.denominator)

def div? (left right : Binary) : Option Binary :=
  ofQuotient? (left.numerator * right.denominator) (left.denominator * right.numerator)

/-- The value nearest to a power of ten up to `10 ^ 308`. -/
def powerOfTen (power : Nat) : Binary := (ofQuotient? (Nat.pow 10 power) 1).getD zero

/-- Divides by `10 ^ 308` a number of times, and stops at zero. -/
def scaleDown? : Nat → Binary → Option Binary
  | 0, value => some value
  | steps + 1, value =>
      if value.isZero then some value
      else (value.div? (powerOfTen 308)).bind (scaleDown? steps)

/-- Scales by a power of ten with one multiplication or division by a stored power. Where the scale
is smaller than the least stored one, divisions by `10 ^ 308` come first. Nothing is returned beyond
the finite values. -/
def scaleByTen? (value : Binary) (power : Int) : Option Binary :=
  if power.natAbs ≤ 308 then
    if 0 ≤ power then value.mul? (powerOfTen power.natAbs)
    else value.div? (powerOfTen power.natAbs)
  else if 0 ≤ power then
    if value.isZero then some value else none
  else
    let steps := (power.natAbs - 1) / 308
    (scaleDown? steps value).bind fun smaller =>
      smaller.div? (powerOfTen (power.natAbs - 308 * steps))

end Binary

end LiveChat.Decimal
