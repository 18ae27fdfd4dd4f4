/-!
# ASCII letters and digits

Labels, keywords and colours compare by ASCII letters only: `É` and `é` stay different.
`Char.toLower`, `Char.isAlphanum` and `Char.isDigit` of core are exactly the ASCII functions.
-/

namespace LiveChat.Text

/-- The text with its ASCII capitals made small. -/
def asciiLower (text : String) : String := String.ofList (text.toList.map Char.toLower)

/-- Equality of two texts up to the case of ASCII letters. -/
def sameIgnoringCase (left right : String) : Bool :=
  left.toList.map Char.toLower == right.toList.map Char.toLower

theorem sameIgnoringCase_self (text : String) : sameIgnoringCase text text = true :=
  beq_self_eq_true _

/-- Texts that are the same up to case are the same as the same texts. -/
theorem sameIgnoringCase_congr {left right : String} (same : sameIgnoringCase left right = true) :
    sameIgnoringCase left = sameIgnoringCase right := by
  rw [sameIgnoringCase, beq_iff_eq] at same
  funext other
  rw [sameIgnoringCase, sameIgnoringCase, same]

def isHexDigit (char : Char) : Bool :=
  char.isDigit || ('a' ≤ char && char ≤ 'f') || ('A' ≤ char && char ≤ 'F')

/-- The value of a hexadecimal digit, and nothing for any other character. -/
def hexValue? (char : Char) : Option Nat :=
  if char.isDigit then some (char.toNat - 48)
  else if 'a' ≤ char && char ≤ 'f' then some (char.toNat - 87)
  else if 'A' ≤ char && char ≤ 'F' then some (char.toNat - 55)
  else none

def valueInBase (base : Nat) (digits : List Char) : Nat :=
  digits.foldl (fun value digit => value * base + (hexValue? digit).getD 0) 0

def byteLength (text : List Char) : Nat :=
  text.foldr (fun char length => char.utf8Size + length) 0

/-- The rest of a text behind a given beginning. -/
def dropBeginning? : List Char → List Char → Option (List Char)
  | [], text => some text
  | _ :: _, [] => none
  | head :: beginning, char :: rest =>
      if head = char then dropBeginning? beginning rest else none

def occursIn (piece text : List Char) : Bool :=
  (dropBeginning? piece text).isSome ||
    match text with
    | [] => false
    | _ :: rest => occursIn piece rest

/-- The value of a run of decimal digits; the empty run has none. -/
def naturalOf? (digits : List Char) : Option Nat :=
  if digits.isEmpty || !digits.all Char.isDigit then none
  else some (digits.foldl (fun value digit => value * 10 + (digit.toNat - 48)) 0)

def decimal (value : Nat) : List Char := Nat.toDigits 10 value

/-- The decimal digits of an integer, behind a minus sign where it is negative. -/
def signedDecimal (value : Int) : List Char :=
  if value < 0 then '-' :: decimal value.natAbs else decimal value.natAbs

/-- A number padded with zeros at the front to a least width. -/
def padded (width value : Nat) : List Char :=
  let digits := decimal value
  List.replicate (width - digits.length) '0' ++ digits

end LiveChat.Text
