import Storyboard.Text.Basic
import Storyboard.Text.Hidden

/-!
# Quoted text

The quoted form of a text stands in messages and reports. A tab, a line end, a carriage return, a
NUL, a double quote and a backslash have short escapes, a hidden character is written by its code
point in hexadecimal, and every other character stands for itself.
-/
namespace Storyboard.Text

/-- One character inside quotes. -/
def quotedChar (c : Char) : List Char :=
  match c with
  | '\t' => ['\\', 't']
  | '\r' => ['\\', 'r']
  | '\n' => ['\\', 'n']
  | '\x00' => ['\\', '0']
  | '"' => ['\\', '"']
  | '\\' => ['\\', '\\']
  | c =>
    if isHidden c then
      ['\\', 'u', '\x7b'] ++ Nat.toDigits 16 c.toNat ++ ['\x7d']
    else [c]

def quoted (text : String) : String :=
  String.ofList ('"' :: (text.toList.flatMap quotedChar ++ ['"']))

/-- Items between square brackets. -/
def bracketed (items : List String) : String :=
  "[" ++ joined ", " items ++ "]"

/-- A list of quoted texts. -/
def quotedList (texts : List String) : String :=
  bracketed (texts.map quoted)

end Storyboard.Text
