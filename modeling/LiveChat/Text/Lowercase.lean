import LiveChat.Text.CaseTable
import LiveChat.Text.Blank

/-!
# Lower case beyond ASCII

Names are compared in the full lower case of Unicode. Two characters need more than a table of
single letters: a capital I with a dot becomes two characters, and a capital sigma becomes the
final form at the end of a word.
-/

namespace LiveChat.Text

/-- The small counterpart of a single character, and the character itself where there is none. -/
def lowerChar (char : Char) : Char :=
  let point := char.toNat
  match caseRuns.find? fun run =>
      run.first ≤ point && point ≤ run.last && (point - run.first) % run.stride == 0 with
  | some run => Char.ofNat ((point : Int) + run.shift).toNat
  | none => char

/-- Whether the nearest character that is not skipped is a letter with case. -/
def meetsCased (text : List Char) : Bool :=
  match text.dropWhile fun char => inRanges caseIgnorableRanges char.toNat with
  | [] => false
  | char :: _ => inRanges casedRanges char.toNat

/-- Lowers a text whose characters before it are given, nearest first. -/
def lowerAfter (before : List Char) : List Char → List Char
  | [] => []
  | char :: rest =>
      let small :=
        if char = 'Σ' then
          if meetsCased before && !meetsCased rest then ['ς'] else ['σ']
        else if char = 'İ' then ['i', Char.ofNat 0x307]
        else [lowerChar char]
      small ++ lowerAfter (char :: before) rest

def lowercase (text : String) : String := String.ofList (lowerAfter [] text.toList)

/-- The key under which something is filed by a person's name: trimmed and in lower case. -/
def nameKey (name : String) : String := lowercase (trimmed name)

end LiveChat.Text
