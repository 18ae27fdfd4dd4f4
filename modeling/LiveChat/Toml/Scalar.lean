import LiveChat.Text.Ascii
import LiveChat.Time.Calendar
import LiveChat.Toml.Basic

/-!
# Scalars of TOML

Strings in their four notations, integers in four bases, other numbers, truth values and dates.
-/

namespace LiveChat.Toml

open LiveChat.Text LiveChat.Time

/-- Characters that may stand for themselves in a string or comment. -/
def isPrintableChar (char : Char) : Bool :=
  char = '\t' || (0x20 ≤ char.toNat && char.toNat ≠ 0x7F)

/-- White space within a line. -/
def isLineSpace (char : Char) : Bool := char = ' ' || char = '\t'

def takeNewline? : List Char → Option (List Char)
  | '\n' :: rest => some rest
  | '\r' :: '\n' :: rest => some rest
  | _ => none

/-- The character behind a backslash, for the escapes of a single letter. -/
def escaped? : Char → Option Char
  | 'b' => some '\x08'
  | 't' => some '\t'
  | 'n' => some '\n'
  | 'f' => some '\x0c'
  | 'r' => some '\r'
  | '"' => some '"'
  | '\\' => some '\\'
  | _ => none

def scalarOfHex? (digits : List Char) : Option Char := do
  let values ← digits.mapM hexValue?
  let point := values.foldl (fun value digit => value * 16 + digit) 0
  if point < 0xD800 ∨ (0xE000 ≤ point ∧ point < 0x110000) then return Char.ofNat point
  else none

def takeEscape? : List Char → Option (Char × List Char)
  | 'u' :: a :: b :: c :: d :: rest => (scalarOfHex? [a, b, c, d]).map fun char => (char, rest)
  | 'U' :: a :: b :: c :: d :: e :: f :: g :: h :: rest =>
      (scalarOfHex? [a, b, c, d, e, f, g, h]).map fun char => (char, rest)
  | letter :: rest => (escaped? letter).map fun char => (char, rest)
  | [] => none

theorem length_of_takeEscape {text rest : List Char} {char : Char}
    (taken : takeEscape? text = some (char, rest)) : rest.length < text.length := by
  unfold takeEscape? at taken
  split at taken
  · simp only [Option.map_eq_some_iff, Prod.mk.injEq] at taken
    obtain ⟨_, _, _, same⟩ := taken
    subst same
    simp only [List.length_cons]
    omega
  · simp only [Option.map_eq_some_iff, Prod.mk.injEq] at taken
    obtain ⟨_, _, _, same⟩ := taken
    subst same
    simp only [List.length_cons]
    omega
  · simp only [Option.map_eq_some_iff, Prod.mk.injEq] at taken
    obtain ⟨_, _, _, same⟩ := taken
    subst same
    simp
  · simp at taken

/-- The content of a string with escapes on one line, behind its opening quote. -/
def takeBasic? (text : List Char) : Option (List Char × List Char) :=
  match text with
  | [] => none
  | '"' :: rest => some ([], rest)
  | '\\' :: rest =>
      match _taken : takeEscape? rest with
      | none => none
      | some (char, rest) => (takeBasic? rest).map fun found => (char :: found.1, found.2)
  | char :: rest =>
      if isPrintableChar char then
        (takeBasic? rest).map fun found => (char :: found.1, found.2)
      else none
termination_by text.length
decreasing_by
  · have := length_of_takeEscape _taken
    simp only [List.length_cons]
    omega
  · simp

/-- A backslash at the end of a line joins it to the next text. -/
def endsLine (text : List Char) : Bool := (takeNewline? (text.dropWhile isLineSpace)).isSome

/-- The content of a string with escapes over several lines, behind its opening quotes. While
`joining`, white space and line breaks are passed over. -/
def takeMultiBasic? (joining : Bool) (text : List Char) : Option (List Char × List Char) :=
  match text with
  | [] => none
  | '"' :: '"' :: '"' :: '"' :: '"' :: rest => some (['"', '"'], rest)
  | '"' :: '"' :: '"' :: '"' :: rest => some (['"'], rest)
  | '"' :: '"' :: '"' :: rest => some ([], rest)
  | '\\' :: rest =>
      if endsLine rest then takeMultiBasic? true rest
      else
        match _taken : takeEscape? rest with
        | none => none
        | some (char, rest) =>
            (takeMultiBasic? false rest).map fun found => (char :: found.1, found.2)
  | '\r' :: '\n' :: rest =>
      if joining then takeMultiBasic? true rest
      else (takeMultiBasic? false rest).map fun found => ('\n' :: found.1, found.2)
  | char :: rest =>
      if joining ∧ (isLineSpace char ∨ char = '\n') then takeMultiBasic? true rest
      else if isPrintableChar char ∨ char = '\n' then
        (takeMultiBasic? false rest).map fun found => (char :: found.1, found.2)
      else none
termination_by text.length
decreasing_by
  · simp
  · have := length_of_takeEscape _taken
    simp only [List.length_cons]
    omega
  · simp only [List.length_cons]
    omega
  · simp only [List.length_cons]
    omega
  · simp
  · simp

/-- The content of a string without escapes on one line, behind its opening quote. -/
def takeLiteral? : List Char → Option (List Char × List Char)
  | [] => none
  | char :: rest =>
      if char = '\'' then some ([], rest)
      else if isPrintableChar char then
        (takeLiteral? rest).map fun found => (char :: found.1, found.2)
      else none

/-- The content of a string without escapes over several lines, behind its opening quotes. -/
def takeMultiLiteral? : List Char → Option (List Char × List Char)
  | [] => none
  | '\'' :: '\'' :: '\'' :: '\'' :: '\'' :: rest => some (['\'', '\''], rest)
  | '\'' :: '\'' :: '\'' :: '\'' :: rest => some (['\''], rest)
  | '\'' :: '\'' :: '\'' :: rest => some ([], rest)
  | '\r' :: '\n' :: rest =>
      (takeMultiLiteral? rest).map fun found => ('\n' :: found.1, found.2)
  | char :: rest =>
      if isPrintableChar char ∨ char = '\n' then
        (takeMultiLiteral? rest).map fun found => (char :: found.1, found.2)
      else none

def dropNewline (text : List Char) : List Char := (takeNewline? text).getD text

def takeString? : List Char → Option (List Char × List Char)
  | '"' :: '"' :: '"' :: rest => takeMultiBasic? false (dropNewline rest)
  | '"' :: rest => takeBasic? rest
  | '\'' :: '\'' :: '\'' :: rest => takeMultiLiteral? (dropNewline rest)
  | '\'' :: rest => takeLiteral? rest
  | _ => none

/-- Digits without the underscores that may stand between any two of them. -/
def cleanDigits? (isDigit : Char → Bool) : List Char → Option (List Char)
  | [] => none
  | [last] => if isDigit last then some [last] else none
  | first :: '_' :: rest =>
      if isDigit first then (cleanDigits? isDigit rest).map (first :: ·) else none
  | first :: rest =>
      if isDigit first then (cleanDigits? isDigit rest).map (first :: ·) else none

def splitSign : List Char → Bool × List Char
  | '-' :: rest => (true, rest)
  | '+' :: rest => (false, rest)
  | text => (false, text)

/-- Decimal digits that do not start with a zero, or a lone zero. -/
def wholeDigits? (text : List Char) : Option (List Char) := do
  let digits ← cleanDigits? Char.isDigit text
  if text.head? = some '0' ∧ text.length ≠ 1 then none else return digits

/-- An integer that fits 64 bits with its sign. -/
def integer? (text : List Char) : Option Int := do
  let value ← match text with
    | '0' :: 'x' :: rest =>
        (cleanDigits? isHexDigit rest).map fun digits => (valueInBase 16 digits : Int)
    | '0' :: 'o' :: rest =>
        (cleanDigits? (fun char => '0' ≤ char && char ≤ '7') rest).map fun digits =>
          (valueInBase 8 digits : Int)
    | '0' :: 'b' :: rest =>
        (cleanDigits? (fun char => char = '0' || char = '1') rest).map fun digits =>
          (valueInBase 2 digits : Int)
    | _ =>
        let (negative, rest) := splitSign text
        (wholeDigits? rest).map fun digits =>
          if negative then -(valueInBase 10 digits : Int) else valueInBase 10 digits
  if -Nat.pow 2 63 ≤ value ∧ value < Nat.pow 2 63 then return value else none

/-- The digits of an exponent, which may have a sign and start with zeros. -/
def isExponent (text : List Char) : Bool :=
  (cleanDigits? Char.isDigit (splitSign text).2).isSome

def exponentOf (text : List Char) : Int :=
  let (negative, digits) := splitSign text
  let magnitude := valueInBase 10 (digits.filter Char.isDigit)
  if negative then -(magnitude : Int) else magnitude

/-- The numbers of 64 bits end below this number: everything from here on counts as infinite. -/
def infinityBound : Nat := Nat.pow 2 1024 - Nat.pow 2 970

/-- Whether digits with a power of ten behind them make an infinite number. Only with 309 places
does it take a comparison. -/
def isInfinite (digits : List Char) (exponent : Int) : Bool :=
  let significant := digits.dropWhile (· = '0')
  let places : Int := significant.length + exponent
  if significant = [] ∨ places < 309 then false
  else if 309 < places then true
  else
    infinityBound * Nat.pow 10 (-exponent).toNat ≤
      valueInBase 10 significant * Nat.pow 10 exponent.toNat

/-- A number with a fraction or an exponent, or one of the words for what is no number. A positive
number must not be infinite unless it is called so. -/
def isFraction (text : List Char) : Bool :=
  let (negative, unsigned) := splitSign text
  if unsigned = ['i', 'n', 'f'] ∨ unsigned = ['n', 'a', 'n'] then true
  else
    let isMark := fun char : Char => char = 'e' || char = 'E'
    let mantissa := unsigned.takeWhile fun char => !isMark char
    let exponent := unsigned.dropWhile fun char => !isMark char
    let whole := mantissa.takeWhile (· != '.')
    let fraction := mantissa.dropWhile (· != '.')
    let scale := exponentOf (exponent.drop 1) - (fraction.filter Char.isDigit).length
    (wholeDigits? whole).isSome &&
      (fraction = [] || (cleanDigits? Char.isDigit (fraction.drop 1)).isSome) &&
      (exponent = [] || isExponent (exponent.drop 1)) &&
      !(fraction = [] && exponent = []) &&
      (negative || !isInfinite (mantissa.filter Char.isDigit) scale)

/-- Two digits with a value between two bounds. -/
def isTwoDigits (lowest highest : Nat) (text : List Char) : Bool :=
  text.length = 2 &&
    match naturalOf? text with
    | some value => lowest ≤ value && value ≤ highest
    | none => false

def isDate (text : List Char) : Bool :=
  match text with
  | [y, z, v, w, '-', m, n, '-', d, e] =>
      match naturalOf? [y, z, v, w], naturalOf? [m, n], naturalOf? [d, e] with
      | some year, some month, some day => (Date.mk year month day).isValid
      | _, _, _ => false
  | _ => false

def isTime (text : List Char) : Bool :=
  isTwoDigits 0 23 (text.take 2) && (text.drop 2).head? = some ':' &&
    isTwoDigits 0 59 ((text.drop 3).take 2) && (text.drop 5).head? = some ':' &&
    isTwoDigits 0 60 ((text.drop 6).take 2) &&
    match text.drop 8 with
    | [] => true
    | '.' :: digits => digits ≠ [] && digits.all Char.isDigit
    | _ => false

/-- A time of day with its distance from universal time, which may be left out. -/
def isOffsetTime (text : List Char) : Bool :=
  match text.getLast? with
  | some 'Z' => isTime text.dropLast
  | some 'z' => isTime text.dropLast
  | _ =>
      isTime text ||
        let offset := text.drop (text.length - 6)
        isTime (text.take (text.length - 6)) &&
          (offset.head? = some '+' || offset.head? = some '-') &&
          isTwoDigits 0 23 ((offset.drop 1).take 2) && (offset.drop 3).head? = some ':' &&
          isTwoDigits 0 59 (offset.drop 4)

/-- A date, a time, or a date and a time with a letter between them. -/
def isDateTime (text : List Char) : Bool :=
  isTime text || isDate text ||
    (isDate (text.take 10) &&
      ((text.drop 10).head? = some 'T' || (text.drop 10).head? = some 't') &&
      isOffsetTime (text.drop 11))

/-- Characters of which a scalar without quotes is made. -/
def isScalarChar (char : Char) : Bool :=
  char.isAlphanum || char = '_' || char = '+' || char = '-' || char = '.' || char = ':'

/-- A date may be set off from its time by a blank. -/
def continuesDate (word rest : List Char) : Bool :=
  isDate word &&
    match rest with
    | ' ' :: first :: second :: ':' :: _ => first.isDigit && second.isDigit
    | _ => false

def scalarOf? (word : List Char) : Option Value :=
  if word = "true".toList then some (.bool true)
  else if word = "false".toList then some (.bool false)
  else
    match integer? word with
    | some value => some (.integer value)
    | none =>
        if isFraction word then some .fraction
        else if isDateTime word then some .date
        else none

def takeScalar? (text : List Char) : Option (Value × List Char) :=
  let word := text.takeWhile isScalarChar
  let rest := text.dropWhile isScalarChar
  if continuesDate word rest then
    let time := (rest.drop 1).takeWhile isScalarChar
    if isOffsetTime time then some (.date, (rest.drop 1).dropWhile isScalarChar) else none
  else (scalarOf? word).map fun value => (value, rest)

end LiveChat.Toml
