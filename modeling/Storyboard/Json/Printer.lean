import Storyboard.Json.Basic
import Storyboard.Number.Shortest

/-!
# JSON text of a value

The compact form has no blanks; the pretty form puts every item on a line of its own, indented by
two blanks for each level, and a blank behind each colon. Fields keep their order, real numbers
have their shortest text, and only quotes, backslashes and controls are escaped.
-/
namespace Storyboard.Json

/-- One character inside quotes. -/
def escapedChar (c : Char) : List Char :=
  match c with
  | '"' => ['\\', '"']
  | '\\' => ['\\', '\\']
  | '\x08' => ['\\', 'b']
  | '\x0c' => ['\\', 'f']
  | '\n' => ['\\', 'n']
  | '\r' => ['\\', 'r']
  | '\t' => ['\\', 't']
  | c =>
    if c.toNat < 0x20 then
      let digits := Nat.toDigits 16 c.toNat
      ['\\', 'u'] ++ List.replicate (4 - digits.length) '0' ++ digits
    else [c]

def quoted (text : String) : String :=
  String.ofList ('"' :: (text.toList.flatMap escapedChar ++ ['"']))

mutual

/-- The text without blanks. -/
def compact : Json → String
  | .null => "null"
  | .bool b => if b then "true" else "false"
  | .int n => toString n
  | .real x => x.render
  | .str s => quoted s
  | .arr items => "[" ++ compactItems items ++ "]"
  | .obj fields => "\x7b" ++ compactFields fields ++ "\x7d"

def compactItems : List Json → String
  | [] => ""
  | [item] => compact item
  | item :: rest => compact item ++ "," ++ compactItems rest

def compactFields : List (String × Json) → String
  | [] => ""
  | [field] => quoted field.1 ++ ":" ++ compact field.2
  | field :: rest => quoted field.1 ++ ":" ++ compact field.2 ++ "," ++ compactFields rest

end

/-- A new line at a level of nesting. -/
def lineBreak (level : Nat) : String := "\n" ++ String.ofList (List.replicate (2 * level) ' ')

mutual

/-- The text with a line for each item, at the given level of nesting. -/
def prettyAt (level : Nat) : Json → String
  | .arr [] => "[]"
  | .arr items =>
    "[" ++ lineBreak (level + 1) ++ prettyItems (level + 1) items ++ lineBreak level ++ "]"
  | .obj [] => "\x7b\x7d"
  | .obj fields =>
    "\x7b" ++ lineBreak (level + 1) ++ prettyFields (level + 1) fields ++ lineBreak level ++ "\x7d"
  | value => compact value

def prettyItems (level : Nat) : List Json → String
  | [] => ""
  | [item] => prettyAt level item
  | item :: rest => prettyAt level item ++ "," ++ lineBreak level ++ prettyItems level rest

def prettyFields (level : Nat) : List (String × Json) → String
  | [] => ""
  | [field] => quoted field.1 ++ ": " ++ prettyAt level field.2
  | field :: rest =>
    quoted field.1 ++ ": " ++ prettyAt level field.2 ++ "," ++ lineBreak level ++
      prettyFields level rest

end

def pretty (value : Json) : String := prettyAt 0 value

end Storyboard.Json
