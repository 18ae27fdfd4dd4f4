/-!
# Blank characters, trimming, words and pieces

Text from a chat is cut at the characters that have the Unicode property White_Space: twenty-five
code points in ten ranges. Other text is cut at a mark. All functions work on lists of characters,
and `trimmed` lifts the most used one to strings.
-/

namespace LiveChat.Text

/-- The code points with the property White_Space, as closed ascending ranges. -/
def blankRanges : List (Nat × Nat) :=
  [(0x09, 0x0D), (0x20, 0x20), (0x85, 0x85), (0xA0, 0xA0), (0x1680, 0x1680), (0x2000, 0x200A),
   (0x2028, 0x2029), (0x202F, 0x202F), (0x205F, 0x205F), (0x3000, 0x3000)]

def inRanges (ranges : List (Nat × Nat)) (point : Nat) : Bool :=
  ranges.any fun range => range.1 ≤ point && point ≤ range.2

/-- A character that separates words and is cut off by trimming. -/
def isBlank (char : Char) : Bool := inRanges blankRanges char.toNat

def trimStart (text : List Char) : List Char := text.dropWhile isBlank

def trimEnd (text : List Char) : List Char := (text.reverse.dropWhile isBlank).reverse

def trim (text : List Char) : List Char := trimEnd (trimStart text)

def trimmed (text : String) : String := String.ofList (trim text.toList)

/-- A string that is empty or holds blanks only. -/
def isBlankText (text : String) : Bool := text.toList.all isBlank

def words : List Char → List (List Char)
  | [] => []
  | char :: rest =>
      if isBlank char then words rest
      else
        match rest, words rest with
        | next :: _, first :: others =>
            if isBlank next then [char] :: first :: others else (char :: first) :: others
        | _, found => [char] :: found

def wordsOf (text : String) : List String := (words text.toList).map String.ofList

/-- Cuts a text at the first occurrence of a character, which goes to neither part. -/
def splitOnce (mark : Char) : List Char → Option (List Char × List Char)
  | [] => none
  | char :: rest =>
      if char = mark then some ([], rest)
      else (splitOnce mark rest).map fun parts => (char :: parts.1, parts.2)

def pieces (mark : Char) (text : List Char) : List (List Char) :=
  text.foldr
    (fun char found =>
      if char = mark then [] :: found
      else
        match found with
        | piece :: rest => (char :: piece) :: rest
        | [] => [[char]])
    [[]]

end LiveChat.Text
