import LiveChat.Text.Ascii
import LiveChat.Text.Blank

/-!
# Addresses of requests

An address is a path and perhaps a query of pairs, in which a plus stands for a blank and a percent
sign with two hexadecimal digits for a byte. Bytes that are no UTF-8 read as replacement characters.
A scheme and a host may stand in front of the path.
-/

namespace LiveChat.Serve

open LiveChat.Text

def isSchemeChar (char : Char) : Bool :=
  char.isAlphanum || char = '+' || char = '-' || char = '.'

/-- The part of an address behind the scheme, if it has one. -/
def afterScheme? (address : List Char) : Option (List Char) :=
  match address.dropWhile isSchemeChar with
  | ':' :: '/' :: '/' :: rest => some rest
  | _ => none

/-- The part of an address from the path on. One with a host and nothing else has no path. -/
def localPart (address : List Char) : List Char :=
  match address with
  | '/' :: _ => address
  | _ =>
      match afterScheme? address with
      | none => []
      | some rest =>
          match rest.dropWhile fun char => char ≠ '/' && char ≠ '?' && char ≠ '#' with
          | '/' :: path => '/' :: path
          | others => '/' :: others

/-- The path of an address and its query, without what follows a number sign. -/
def splitAddress (address : String) : String × Option String :=
  let text := (localPart address.toList).takeWhile (· ≠ '#')
  match splitOnce '?' text with
  | some (path, query) => (String.ofList path, some (String.ofList query))
  | none => (String.ofList text, none)

def decodeBytes : List UInt8 → List UInt8
  | [] => []
  | [byte] => [if byte = 43 then 32 else byte]
  | [byte, next] => (if byte = 43 then 32 else byte) :: decodeBytes [next]
  | byte :: first :: second :: rest =>
      if byte = 43 then 32 :: decodeBytes (first :: second :: rest)
      else if byte = 37 then
        match hexValue? (Char.ofNat first.toNat), hexValue? (Char.ofNat second.toNat) with
        | some high, some low => (high * 16 + low).toUInt8 :: decodeBytes rest
        | _, _ => byte :: decodeBytes (first :: second :: rest)
      else byte :: decodeBytes (first :: second :: rest)

/-- A continuation byte of UTF-8 within bounds. -/
def isContinuation (low high byte : UInt8) : Bool := low ≤ byte && byte ≤ high

/-- The lead of a character: how many bytes follow it, and the bounds of the first of them. -/
def leadOf? (byte : UInt8) : Option (Nat × UInt8 × UInt8) :=
  if byte < 0x80 then some (0, 0x80, 0xBF)
  else if 0xC2 ≤ byte && byte ≤ 0xDF then some (1, 0x80, 0xBF)
  else if byte = 0xE0 then some (2, 0xA0, 0xBF)
  else if byte = 0xED then some (2, 0x80, 0x9F)
  else if 0xE1 ≤ byte && byte ≤ 0xEF then some (2, 0x80, 0xBF)
  else if byte = 0xF0 then some (3, 0x90, 0xBF)
  else if 0xF1 ≤ byte && byte ≤ 0xF3 then some (3, 0x80, 0xBF)
  else if byte = 0xF4 then some (3, 0x80, 0x8F)
  else none

/-- The number of bytes behind a lead that belong to its character. -/
def followers (count : Nat) (low high : UInt8) (rest : List UInt8) : Nat :=
  match count, rest with
  | count + 1, byte :: rest =>
      if isContinuation low high byte then followers count 0x80 0xBF rest + 1 else 0
  | _, _ => 0

/-- The text of some bytes. Every longest piece that begins no character, or breaks off one, reads
as one replacement character. -/
def lossyText (bytes : List UInt8) : List Char :=
  go bytes.length bytes
where
  /-- At most as many characters as there are bytes. -/
  go : Nat → List UInt8 → List Char
    | 0, _ => []
    | _, [] => []
    | fuel + 1, byte :: rest =>
        match leadOf? byte with
        | none => '\uFFFD' :: go fuel rest
        | some (count, low, high) =>
            let found := followers count low high rest
            let piece := byte :: rest.take found
            let char? :=
              if found = count then (String.fromUTF8? ⟨piece.toArray⟩).bind (·.toList.head?)
              else none
            char?.getD '\uFFFD' :: go fuel (rest.drop found)

def decodePiece (piece : List Char) : String :=
  String.ofList (lossyText (decodeBytes (String.ofList piece).toUTF8.toList))

/-- The pairs of a query. A piece without an equals sign is a name with an empty value. -/
def queryPairs (query : String) : List (String × String) :=
  ((pieces '&' query.toList).filter (· ≠ [])).map fun piece =>
    match splitOnce '=' piece with
    | some (name, value) => (decodePiece name, decodePiece value)
    | none => (decodePiece piece, "")

def queryValues (query : Option String) (name : String) : List String :=
  ((queryPairs (query.getD "")).filter fun pair => pair.1 == name).map (·.2)

end LiveChat.Serve
