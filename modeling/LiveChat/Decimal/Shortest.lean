import LiveChat.Decimal.Binary

/-!
# The shortest decimal of a binary fraction

A value is written with the fewest digits that round back to it, and with the nearest such digits
where there is a choice. The search runs through the grids of one, two, … seventeen digits and tests
the two neighbours of the value on each of them by exact comparison.
-/

namespace LiveChat.Decimal

structure Scientific where
  digits : Nat
  exponent : Int
deriving DecidableEq, Repr

def compareScaled (digits : Nat) (power : Int) (count : Nat) (exponent : Int) : Ordering :=
  compare (digits * Nat.pow 10 power.toNat * Nat.pow 2 (-exponent).toNat)
    (count * Nat.pow 2 exponent.toNat * Nat.pow 10 (-power).toNat)

namespace Binary

/-- A decimal lies among the reals that round to the value: between the two midpoints to its
neighbours, which belong to it if its significand is even. Below a power of two the lower neighbour
is at half the distance. -/
def readsBack (value : Binary) (decimal : Scientific) : Bool :=
  let lower :=
    if value.significand = Nat.pow 2 52 ∧ value.exponent > -1074 then 4 * value.significand - 1
    else 4 * value.significand - 2
  let upper := 4 * value.significand + 2
  let closed := value.significand % 2 == 0
  let above := compareScaled decimal.digits decimal.exponent lower (value.exponent - 2)
  let below := compareScaled decimal.digits decimal.exponent upper (value.exponent - 2)
  (above == .gt || (closed && above == .eq)) && (below == .lt || (closed && below == .eq))

/-- The least `k` with `value < 10 ^ k`, for a positive value. -/
def decimalScale (value : Binary) : Int :=
  ((Nat.toDigits 10 (value.numerator * Nat.pow 10 340 / value.denominator)).length : Int) - 340

/-- The neighbour of the value on the grid of the multiples of `10 ^ power` that rounds back to it;
of two such neighbours the nearer one, and the even one if both are equally near. -/
def onGrid? (value : Binary) (power : Int) : Option Scientific :=
  let scaled := value.numerator * Nat.pow 10 (-power).toNat
  let unit := value.denominator * Nat.pow 10 power.toNat
  let lower : Scientific := ⟨scaled / unit, power⟩
  let upper : Scientific := ⟨scaled / unit + 1, power⟩
  match value.readsBack lower, value.readsBack upper with
  | true, false => some lower
  | false, true => some upper
  | false, false => none
  | true, true => some ⟨roundQuotient scaled unit, power⟩

/-- Moves trailing zeros of the digits into the exponent. -/
def dropZeros : Nat → Scientific → Scientific
  | 0, decimal => decimal
  | steps + 1, decimal =>
      if decimal.digits % 10 == 0 then dropZeros steps ⟨decimal.digits / 10, decimal.exponent + 1⟩
      else decimal

/-- The shortest decimal that rounds back to a positive value. -/
def shortest (value : Binary) : Scientific :=
  let scale := value.decimalScale
  match (List.range 17).findSome? fun (count : Nat) => value.onGrid? (scale - (count + 1)) with
  | some decimal => dropZeros 20 decimal
  | none =>
      ⟨value.significand * Nat.pow 5 (-value.exponent).toNat * Nat.pow 2 value.exponent.toNat,
        min value.exponent 0⟩

/-- Numbers in payloads are written positionally from `0.00001` to below `10 ^ 16`, always with a
point; others have one digit before the point and a signed exponent. -/
def text (value : Binary) : List Char :=
  if value.isZero then ['0', '.', '0']
  else
    let decimal := value.shortest
    let digits := Nat.toDigits 10 decimal.digits
    let point : Int := digits.length + decimal.exponent
    if 0 ≤ decimal.exponent ∧ point ≤ 16 then
      digits ++ List.replicate decimal.exponent.toNat '0' ++ ['.', '0']
    else if 0 < point ∧ point ≤ 16 then
      digits.take point.toNat ++ '.' :: digits.drop point.toNat
    else if -5 < point ∧ point ≤ 0 then
      '0' :: '.' :: List.replicate (-point).toNat '0' ++ digits
    else
      let sign := if point - 1 < 0 then '-' else '+'
      let fraction := if digits.length = 1 then [] else '.' :: digits.drop 1
      digits.take 1 ++ fraction ++ 'e' :: sign :: Nat.toDigits 10 (point - 1).natAbs

end Binary

end LiveChat.Decimal
