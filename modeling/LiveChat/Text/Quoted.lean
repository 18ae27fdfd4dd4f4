import LiveChat.Text.Ascii
import LiveChat.Text.Blank
import LiveChat.Text.HiddenTable

/-!
# Quoted text in error messages

A message that shows a piece of foreign text puts it between double quotes. What could not be seen
or would break the line is written as an escape; all other characters stand for themselves.
-/

namespace LiveChat.Text

/-- The small hexadecimal digits of a number, without leading zeros. -/
def hexadecimal (value : Nat) : List Char := Nat.toDigits 16 value

def quotedChar (char : Char) : List Char :=
  match char with
  | '"' => ['\\', '"']
  | '\\' => ['\\', '\\']
  | '\n' => ['\\', 'n']
  | '\r' => ['\\', 'r']
  | '\t' => ['\\', 't']
  | '\x00' => ['\\', '0']
  | other =>
      if inRanges hiddenRanges other.toNat then
        ['\\', 'u', '\x7b'] ++ hexadecimal other.toNat ++ ['\x7d']
      else [other]

def quoted (text : String) : String :=
  String.ofList ('"' :: text.toList.flatMap quotedChar ++ ['"'])

end LiveChat.Text
