import LiveChat.Text.Ascii

/-!
# How the store reads a setting

A setting has a name, and its value is a name or a number, perhaps behind a minus sign. The words by
which statements of the store are told apart are no names. Behind the value two hyphens may begin a
comment. A value of digits counts as far as the digits go, and the rest of it is passed over.
-/

namespace LiveChat.Store.Pragma

open LiveChat.Text

/-- The words that are neither names nor values. -/
def reservedWords : List String :=
  ["add", "all", "alter", "and", "as", "autoincrement", "between", "case", "check", "collate",
   "commit", "constraint", "create", "deferrable", "distinct", "drop", "else", "escape", "except",
   "exists", "foreign", "from", "group", "having", "in", "index", "insert", "intersect", "into",
   "is", "isnull", "join", "limit", "not", "nothing", "notnull", "null", "or", "order", "primary",
   "references", "returning", "select", "set", "table", "then", "to", "transaction", "union",
   "unique", "update", "using", "values", "when", "where"]

/-- The words that are values but no names. -/
def valueWords : List String := ["default", "delete", "on"]

def isNameStart (char : Char) : Bool := char.isAlpha || char = '_'

def isNameChar (char : Char) : Bool := char.isAlphanum || char = '_'

def isFreeWord (word : List Char) : Bool :=
  word.head?.any isNameStart && word.all isNameChar &&
    !reservedWords.contains (asciiLower (String.ofList word))

def isName (text : String) : Bool :=
  isFreeWord text.toList && !valueWords.contains (asciiLower text)

/-- The exponent at the front of a text, and the text behind it. Without digits it is none. -/
def splitExponent (text : List Char) : List Char × List Char :=
  match text with
  | mark :: rest =>
      let sign := rest.take 1 |>.filter fun char => char = '-' || char = '+'
      let digits := (rest.drop sign.length).takeWhile Char.isDigit
      if (mark = 'e' ∨ mark = 'E') ∧ digits ≠ [] then
        (mark :: (sign ++ digits), (rest.drop sign.length).dropWhile Char.isDigit)
      else ([], text)
  | [] => ([], [])

def splitDecimal (text : List Char) : List Char × List Char :=
  let whole := text.takeWhile Char.isDigit
  let (fraction, rest) : List Char × List Char :=
    match text.dropWhile Char.isDigit with
    | '.' :: rest => ('.' :: rest.takeWhile Char.isDigit, rest.dropWhile Char.isDigit)
    | rest => ([], rest)
  if whole = [] ∧ fraction.length ≤ 1 then ([], text)
  else
    let (exponent, rest) := splitExponent rest
    (whole ++ fraction ++ exponent, rest)

/-- The number at the front of a text, in decimal or hexadecimal digits, and the text behind it. -/
def splitNumber (text : List Char) : List Char × List Char :=
  match text with
  | '0' :: mark :: rest =>
      if (mark = 'x' ∨ mark = 'X') ∧ rest.head?.any isHexDigit then
        ('0' :: mark :: rest.takeWhile isHexDigit, rest.dropWhile isHexDigit)
      else splitDecimal text
  | _ => splitDecimal text

/-- The number that is all of a text but for a comment. -/
def number? (text : List Char) : Option (List Char) :=
  match splitNumber text with
  | ([], _) => none
  | (number, []) => some number
  | (number, '-' :: '-' :: _) => some number
  | _ => none

/-- The free word that is all of a text but for a comment. -/
def word? (text : List Char) : Option (List Char) :=
  let word := text.takeWhile isNameChar
  if !isFreeWord word then none
  else
    match text.dropWhile isNameChar with
    | [] => some word
    | '-' :: '-' :: _ => some word
    | _ => none

def value? (text : String) : Option (List Char) :=
  match text.toList with
  | '-' :: rest => (number? rest).map ('-' :: ·)
  | chars => (number? chars).or (word? chars)

/-- The digits at the front of a value as a number of 32 bits with a sign. -/
def integer32? (value : List Char) : Option Int :=
  let hexadecimal (digits : List Char) : Option Int :=
    let significant := (digits.takeWhile isHexDigit).dropWhile (· = '0')
    let magnitude := valueInBase 16 significant
    if significant.length ≤ 8 ∧ magnitude < Nat.pow 2 31 then some magnitude else none
  let signed (negative : Bool) (digits : List Char) : Option Int :=
    (naturalOf? (digits.takeWhile Char.isDigit)).bind fun magnitude =>
      if magnitude < Nat.pow 2 31 then some (if negative then -magnitude else magnitude)
      else if negative ∧ magnitude = Nat.pow 2 31 then some (-magnitude)
      else none
  match value with
  | '-' :: digits => signed true digits
  | '0' :: 'x' :: digits => hexadecimal digits
  | '0' :: 'X' :: digits => hexadecimal digits
  | digits => signed false digits

/-- The digits at the front of a value as a number, and zero where there is none. -/
def integer32 (value : List Char) : Int := (integer32? value).getD 0

/-- A value that is a positive number of 64 bits from end to end. -/
def positive64? (value : List Char) : Option Nat :=
  let magnitude :=
    match value with
    | '0' :: 'x' :: digits => some (valueInBase 16 digits)
    | '0' :: 'X' :: digits => some (valueInBase 16 digits)
    | digits => naturalOf? digits
  magnitude.filter fun magnitude => 0 < magnitude && magnitude < Nat.pow 2 63

end LiveChat.Store.Pragma
