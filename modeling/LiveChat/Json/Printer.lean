import LiveChat.Json.Basic

/-!
# Writing JSON texts

Values are written without white space, the fields of an object in the order in which it holds them.
Inside strings only the quote, the backslash and the controls below U+0020 are escaped, with a
letter where there is one.
-/

namespace LiveChat.Json

open LiveChat.Text

/-- The letter of an escape, for the characters that have one. -/
def escapeLetter? : Char → Option Char
  | '"' => some '"'
  | '\\' => some '\\'
  | '\x08' => some 'b'
  | '\x0c' => some 'f'
  | '\n' => some 'n'
  | '\r' => some 'r'
  | '\t' => some 't'
  | _ => none

def writtenChar (char : Char) : List Char :=
  match escapeLetter? char with
  | some letter => ['\\', letter]
  | none =>
      if char.toNat < 0x20 then
        ['\\', 'u', '0', '0', Nat.digitChar (char.toNat / 16), Nat.digitChar (char.toNat % 16)]
      else [char]

def writtenString (text : String) : List Char := '"' :: text.toList.flatMap writtenChar ++ ['"']

mutual

def print : Json → List Char
  | .null => ['n', 'u', 'l', 'l']
  | .bool true => ['t', 'r', 'u', 'e']
  | .bool false => ['f', 'a', 'l', 's', 'e']
  | .number value => value.text
  | .string value => writtenString value
  | .array [] => ['[', ']']
  | .array (item :: rest) => '[' :: item.print ++ printItems rest
  | .object [] => ['\x7b', '\x7d']
  | .object ((name, value) :: rest) =>
      '\x7b' :: writtenString name ++ ':' :: value.print ++ printFields rest

/-- The items behind the first one, and the closing bracket. -/
def printItems : List Json → List Char
  | [] => [']']
  | item :: rest => ',' :: item.print ++ printItems rest

/-- The fields behind the first one, and the closing brace. -/
def printFields : List (String × Json) → List Char
  | [] => ['\x7d']
  | (name, value) :: rest =>
      ',' :: writtenString name ++ ':' :: value.print ++ printFields rest

end

def text (value : Json) : String := String.ofList value.print

end LiveChat.Json
