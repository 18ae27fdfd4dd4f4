import LiveChat.Toml.Scalar

/-!
# Reading TOML documents

A document is a row of lines, each of them blank, a header, or a key with its value. Reading the
lines gives statements, and carrying them out one after the other gives the tree of tables.
Recursion is bounded by the length of the text, and keys and values that are too deep are refused.
-/

namespace LiveChat.Toml

open LiveChat.Text

inductive Statement where
  | assign (path : List String) (key : String) (value : Value)
  | table (path : List String) (key : String)
  | element (path : List String) (key : String)

def skipLineSpace (text : List Char) : List Char := text.dropWhile isLineSpace

/-- The rest of a text behind a comment, which ends before the line break. -/
def skipComment? : List Char → Option (List Char)
  | [] => some []
  | '\n' :: rest => some ('\n' :: rest)
  | '\r' :: '\n' :: rest => some ('\r' :: '\n' :: rest)
  | char :: rest => if isPrintableChar char then skipComment? rest else none

/-- Skips blanks, comments and line breaks; `inComment` is where the text begins. -/
def skipTrivia? (inComment : Bool) : List Char → Option (List Char)
  | [] => some []
  | '\n' :: rest => skipTrivia? false rest
  | '\r' :: '\n' :: rest => skipTrivia? false rest
  | char :: rest =>
      if inComment then if isPrintableChar char then skipTrivia? true rest else none
      else if isLineSpace char then skipTrivia? false rest
      else if char = '#' then skipTrivia? true rest
      else some (char :: rest)

/-- The end of a line: perhaps a comment, then a line break or the end of the text. -/
def endLine? (text : List Char) : Option (List Char) := do
  let rest ← match skipLineSpace text with
    | '#' :: rest => skipComment? rest
    | rest => some rest
  match rest with
  | [] => return []
  | rest => takeNewline? rest

def isBareKeyChar (char : Char) : Bool := char.isAlphanum || char = '_' || char = '-'

def takeKeyPart? (text : List Char) : Option (String × List Char) :=
  match text with
  | '"' :: rest => (takeBasic? rest).map fun found => (String.ofList found.1, found.2)
  | '\'' :: rest => (takeLiteral? rest).map fun found => (String.ofList found.1, found.2)
  | _ =>
      let bare := text.takeWhile isBareKeyChar
      if bare = [] then none else some (String.ofList bare, text.dropWhile isBareKeyChar)

/-- Keys have fewer parts than this, and values fewer brackets and braces around each other. -/
def depthLimit : Nat := 80

/-- A key: the parts before the last dot, and the last part. The number bounds how many parts there
are in all. -/
def takeKey? : Nat → List Char → Option ((List String × String) × List Char)
  | 0, _ => none
  | fuel + 1, text => do
      let (part, text) ← takeKeyPart? (skipLineSpace text)
      match skipLineSpace text with
      | '.' :: rest =>
          let ((path, key), text) ← takeKey? fuel rest
          return ((part :: path, key), text)
      | rest => return (([], part), rest)

mutual

def takeValue? : Nat → List Char → Option (Value × List Char)
  | 0, _ => none
  | fuel + 1, text =>
      match text with
      | '"' :: _ => (takeString? text).map fun found => (.string (String.ofList found.1), found.2)
      | '\'' :: _ => (takeString? text).map fun found => (.string (String.ofList found.1), found.2)
      | '[' :: rest => (takeItems? fuel rest).map fun found => (.array found.1, found.2)
      | '\x7b' :: rest =>
          match skipLineSpace rest with
          | '\x7d' :: rest => some (.table .inline [], rest)
          | rest => (takeInline? fuel [] rest).map fun found => (.table .inline found.1, found.2)
      | _ => takeScalar? text

def takeItems? : Nat → List Char → Option (List Value × List Char)
  | 0, _ => none
  | fuel + 1, text => do
      match ← skipTrivia? false text with
      | ']' :: rest => return ([], rest)
      | text =>
          let (item, text) ← takeValue? fuel text
          match ← skipTrivia? false text with
          | ']' :: rest => return ([item], rest)
          | ',' :: rest =>
              let (items, text) ← takeItems? fuel rest
              return (item :: items, text)
          | _ => none

def takeInline? : Nat → Entries → List Char → Option (Entries × List Char)
  | 0, _, _ => none
  | fuel + 1, entries, text => do
      let ((path, key), text) ← takeKey? (depthLimit - 1) text
      match text with
      | '=' :: rest =>
          let (value, text) ← takeValue? fuel (skipLineSpace rest)
          let entries ← entries.assign path key value
          match skipLineSpace text with
          | '\x7d' :: rest => return (entries, rest)
          | ',' :: rest => takeInline? fuel entries rest
          | _ => none
      | _ => none

end

/-- The statement at the front of a text, up to the end of its line. The number bounds the value of
an assignment. -/
def takeStatement? (fuel : Nat) (text : List Char) : Option (Statement × List Char) := do
  match text with
  | '[' :: '[' :: rest =>
      let ((path, key), text) ← takeKey? (depthLimit - 1) rest
      match text with
      | ']' :: ']' :: rest => return (.element path key, ← endLine? rest)
      | _ => none
  | '[' :: rest =>
      let ((path, key), text) ← takeKey? (depthLimit - 1) rest
      match text with
      | ']' :: rest => return (.table path key, ← endLine? rest)
      | _ => none
  | _ =>
      let ((path, key), text) ← takeKey? (depthLimit - 1) text
      match text with
      | '=' :: rest =>
          let (value, text) ← takeValue? fuel (skipLineSpace rest)
          if depthLimit ≤ value.nesting then none
          else return (.assign path key value, ← endLine? text)
      | _ => none

/-- All statements of a text. Each takes at least one character, so that a number of twice as many
as there are is enough for the values of them all. -/
def takeStatements? : Nat → List Char → Option (List Statement)
  | 0, _ => none
  | fuel + 1, text => do
      match ← skipTrivia? false text with
      | [] => return []
      | text =>
          let (statement, rest) ← takeStatement? fuel text
          return statement :: (← takeStatements? fuel rest)

/-- Carries out statements; `current` is the path of the table that keys go to. -/
def build? : List Statement → List String → Entries → Option Entries
  | [], _, root => some root
  | .table path key :: rest, _, root => do
      build? rest (path ++ [key]) (← root.openTable path key)
  | .element path key :: rest, _, root => do
      build? rest (path ++ [key]) (← root.openElement path key)
  | .assign path key value :: rest, current, root => do
      let root ← root.alterAt false (fun _ table => table.assign path key value) .headed current
      build? rest current root

/-- The tree of a document. A byte order mark at its front is passed over. -/
def read? (text : String) : Option Entries := do
  let chars := match text.toList with
    | '\ufeff' :: rest => rest
    | chars => chars
  build? (← takeStatements? (2 * chars.length + 3) chars) [] []

end LiveChat.Toml
