import FlexGrid.Text.Invisible
import FlexGrid.Text.Combining

/-! Texts and characters as an error message shows them: in quotation marks, with everything that a
reader could not see or could not tell apart written by its number. -/
namespace FlexGrid.Text

/-- The digits of `n` to base sixteen, in lower case. -/
def hexadecimal (n : Nat) : List Char :=
  Nat.toDigits 16 n

/-- A character by its number. -/
def numbered (c : Char) : List Char :=
  '\\' :: 'u' :: '\x7b' :: hexadecimal c.toNat ++ ['\x7d']

/-- One character between quotation marks `mark`. The other kind of mark is left alone. -/
def escape (mark c : Char) : List Char :=
  match c with
  | '\x00' => ['\\', '0']
  | '\t' => ['\\', 't']
  | '\n' => ['\\', 'n']
  | '\r' => ['\\', 'r']
  | '\\' => ['\\', '\\']
  | _ =>
      if c = mark then ['\\', c]
      else if isCombining c || isInvisible c then numbered c
      else [c]

def quoted (text : String) : String :=
  String.ofList ('\x22' :: text.toList.flatMap (escape '\x22') ++ ['\x22'])

def quotedChar (c : Char) : String :=
  String.ofList ('\x27' :: escape '\x27' c ++ ['\x27'])

end FlexGrid.Text
