import LiveChat.Json.Basic

/-!
# Reading JSON texts

`Outline.read?` accepts the JSON grammar with nothing but white space around the value; `Json.read?`
also asks every part for its value. Reading is by recursive descent over the characters, bounded by
the length of the text.
-/

namespace LiveChat.Json

open LiveChat.Text

def isSpace (char : Char) : Bool := char = ' ' || char = '\n' || char = '\t' || char = '\r'

def skipSpace (text : List Char) : List Char := text.dropWhile isSpace

/-- One written element of a string: a character, or half of a surrogate pair. -/
inductive StringUnit where
  | char (value : Char)
  | surrogate (value : Nat)
deriving DecidableEq, Repr

/-- The character behind a backslash, for the escapes of a single letter. -/
def escaped? : Char → Option Char
  | '"' => some '"'
  | '\\' => some '\\'
  | '/' => some '/'
  | 'b' => some '\x08'
  | 'f' => some '\x0c'
  | 'n' => some '\n'
  | 'r' => some '\r'
  | 't' => some '\t'
  | _ => none

/-- The unit that four hexadecimal digits stand for. -/
def hexUnit? (first second third fourth : Char) : Option StringUnit := do
  let value := ((← hexValue? first) * 16 + (← hexValue? second)) * 256 +
    (← hexValue? third) * 16 + (← hexValue? fourth)
  if 0xD800 ≤ value ∧ value < 0xE000 then return .surrogate value
  else return .char (Char.ofNat value)

/-- The units of a string up to its closing quote, and the text behind it. -/
def takeUnits? : List Char → Option (List StringUnit × List Char)
  | [] => none
  | '"' :: rest => some ([], rest)
  | '\\' :: 'u' :: first :: second :: third :: fourth :: rest => do
      let unit ← hexUnit? first second third fourth
      let (units, rest) ← takeUnits? rest
      return (unit :: units, rest)
  | '\\' :: letter :: rest => do
      let char ← escaped? letter
      let (units, rest) ← takeUnits? rest
      return (.char char :: units, rest)
  | char :: rest =>
      if char.toNat < 0x20 ∨ char = '\\' then none
      else do
        let (units, rest) ← takeUnits? rest
        return (.char char :: units, rest)

/-- The text of a string whose surrogates come in pairs, the high half first. -/
def joinUnits? : List StringUnit → Option (List Char)
  | [] => some []
  | .char char :: rest => (joinUnits? rest).map (char :: ·)
  | .surrogate high :: .surrogate low :: rest =>
      if high < 0xDC00 ∧ 0xDC00 ≤ low then
        (joinUnits? rest).map (Char.ofNat (0x10000 + (high - 0xD800) * 0x400 + (low - 0xDC00)) :: ·)
      else none
  | .surrogate _ :: _ => none

def takeString? (text : List Char) : Option (Option String × List Char) := do
  let (units, rest) ← takeUnits? text
  return ((joinUnits? units).map String.ofList, rest)

namespace Outline

def takeWord? (word : List Char) (meaning : Outline) (text : List Char) :
    Option (Outline × List Char) :=
  (dropBeginning? word text).map fun rest => (meaning, rest)

mutual

/-- One value at the front of a text, which may begin with white space. -/
def take? : Nat → List Char → Option (Outline × List Char)
  | 0, _ => none
  | fuel + 1, text =>
      match skipSpace text with
      | [] => none
      | '[' :: rest =>
          match skipSpace rest with
          | ']' :: rest => some (.array [], rest)
          | rest => (takeItems? fuel rest).map fun found => (.array found.1, found.2)
      | '\x7b' :: rest =>
          match skipSpace rest with
          | '\x7d' :: rest => some (.object [], rest)
          | rest => (takeFields? fuel rest).map fun found => (.object found.1, found.2)
      | '"' :: rest => (takeString? rest).map fun found => (.string found.1, found.2)
      | 'n' :: rest => takeWord? ['u', 'l', 'l'] .null rest
      | 't' :: rest => takeWord? ['r', 'u', 'e'] (.bool true) rest
      | 'f' :: rest => takeWord? ['a', 'l', 's', 'e'] (.bool false) rest
      | text => (Numeral.take? text).map fun found => (.number (Number.ofNumeral? found.1), found.2)

def takeItems? : Nat → List Char → Option (List Outline × List Char)
  | 0, _ => none
  | fuel + 1, text =>
      match take? fuel text with
      | none => none
      | some (item, text) =>
          match skipSpace text with
          | ']' :: rest => some ([item], rest)
          | ',' :: rest => (takeItems? fuel rest).map fun found => (item :: found.1, found.2)
          | _ => none

def takeFields? : Nat → List Char → Option (List (Option String × Outline) × List Char)
  | 0, _ => none
  | fuel + 1, text =>
      match skipSpace text with
      | '"' :: rest =>
          match takeString? rest with
          | none => none
          | some (name, text) =>
              match skipSpace text with
              | ':' :: rest =>
                  match take? fuel rest with
                  | none => none
                  | some (item, text) =>
                      match skipSpace text with
                      | '\x7d' :: rest => some ([(name, item)], rest)
                      | ',' :: rest =>
                          (takeFields? fuel rest).map fun found =>
                            ((name, item) :: found.1, found.2)
                      | _ => none
              | _ => none
      | _ => none

end

def read? (text : String) : Option Outline :=
  let chars := text.toList
  match take? (2 * chars.length + 2) chars with
  | some (outline, rest) => if skipSpace rest = [] then some outline else none
  | none => none

end Outline

def read? (text : String) : Option Json := (Outline.read? text).bind (·.value? maxDepth)

end LiveChat.Json
