import Storyboard.Json.Basic
import Storyboard.Number.Decimal

/-!
# Tokens of JSON text

A text is cut into tokens from left to right. A character that starts no token ends the list with
`bad`, so a reader that works through the tokens meets the first problem of the text first. A
number beyond the range of binary64 and a text with a lone surrogate are well formed but have no
value; they matter only to a reader that wants the value.
-/
namespace Storyboard.Json

inductive Token where
  | openArr
  | closeArr
  | openObj
  | closeObj
  | comma
  | colon
  | null
  | bool (b : Bool)
  | number (value : Option Json)
  | text (value : Option String)
  | bad

namespace Token

/-- The blanks that may stand between tokens. -/
def isBlank (c : Char) : Bool := c = ' ' || c = '\t' || c = '\n' || c = '\r'

/-! ## Texts -/

def hexDigit? (c : Char) : Option Nat :=
  if '0' ≤ c ∧ c ≤ '9' then some (c.toNat - '0'.toNat)
  else if 'a' ≤ c ∧ c ≤ 'f' then some (c.toNat - 'a'.toNat + 10)
  else if 'A' ≤ c ∧ c ≤ 'F' then some (c.toNat - 'A'.toNat + 10)
  else none

/-- The 16-bit unit of a `\u` escape. -/
def unit? (a b c d : Char) : Option Nat := do
  let a ← hexDigit? a
  let b ← hexDigit? b
  let c ← hexDigit? c
  let d ← hexDigit? d
  return ((a * 16 + b) * 16 + c) * 16 + d

/-- The character of a one-letter escape. -/
def escaped? (c : Char) : Option Char :=
  match c with
  | '"' => some '"'
  | '\\' => some '\\'
  | '/' => some '/'
  | 'b' => some '\x08'
  | 'f' => some '\x0c'
  | 'n' => some '\n'
  | 'r' => some '\r'
  | 't' => some '\t'
  | _ => none

/-- The code points up to the closing quote, the last one first, and what follows the quote. A `\u`
escape gives its unit as it stands, so halves of a pair are still apart. -/
def takeUnits (units : List Nat) : List Char → Option (List Nat × List Char)
  | [] => none
  | '"' :: rest => some (units, rest)
  | '\\' :: 'u' :: a :: b :: c :: d :: rest =>
    match unit? a b c d with
    | some unit => takeUnits (unit :: units) rest
    | none => none
  | '\\' :: c :: rest =>
    match escaped? c with
    | some c => takeUnits (c.toNat :: units) rest
    | none => none
  | c :: rest => if c.toNat < 0x20 then none else takeUnits (c.toNat :: units) rest

/-- Joins the halves of surrogate pairs; a half without its partner has no text. -/
def joinUnits : List Nat → Option (List Char)
  | [] => some []
  | unit :: rest =>
    if 0xdc00 ≤ unit ∧ unit ≤ 0xdfff then none
    else if 0xd800 ≤ unit ∧ unit ≤ 0xdbff then
      match rest with
      | low :: rest =>
        if 0xdc00 ≤ low ∧ low ≤ 0xdfff then
          (joinUnits rest).map
            (Char.ofNat (0x10000 + (unit - 0xd800) * 0x400 + (low - 0xdc00)) :: ·)
        else none
      | [] => none
    else (joinUnits rest).map (Char.ofNat unit :: ·)

/-! ## Numbers -/

/-- The value of a number without point and exponent. A negative zero is no integer. -/
def integer (negative : Bool) (size : Nat) : Option Json :=
  if negative && 0 < size && size ≤ 0x8000000000000000 then some (.int (-size))
  else if !negative && size < 0x10000000000000000 then some (.int size)
  else
    (Finite64.ofBinary? (Binary64.ofRatio negative (size * Nat.pow 2 1074) 1)).map .real

/-- The digits behind a point, if there is one; a point needs at least one. -/
def takeFraction? : List Char → Option (Option (List Char) × List Char)
  | '.' :: rest =>
    let (digits, rest) := Decimal.takeDigits rest
    if digits.isEmpty then none else some (some digits, rest)
  | rest => some (none, rest)

/-- The power of ten behind a number, if there is one. -/
def takeExponent? : List Char → Option (Option Int × List Char)
  | [] => some (none, [])
  | mark :: rest =>
    if mark = 'e' ∨ mark = 'E' then
      let (negative, rest) := Decimal.takeSign rest
      let (digits, rest) := Decimal.takeDigits rest
      if digits.isEmpty then none
      else
        let size : Int := Decimal.natOfDigits digits
        some (some (if negative then -size else size), rest)
    else some (none, mark :: rest)

/-- A number without its sign: no zero in front of other digits. -/
def takeNumber? (negative : Bool) (chars : List Char) : Option (Option Json × List Char) := do
  let (whole, rest) := Decimal.takeDigits chars
  if whole.isEmpty || (whole.head? == some '0' && 1 < whole.length) then none
  else
    let (fraction, rest) ← takeFraction? rest
    let (exponent, rest) ← takeExponent? rest
    match fraction, exponent with
    | none, none => some (integer negative (Decimal.natOfDigits whole), rest)
    | _, _ =>
      let decimal : Decimal := ⟨negative, whole, fraction.getD [], exponent.getD 0⟩
      some ((Finite64.ofBinary? decimal.toBinary).map .real, rest)

/-! ## All tokens -/

/-- The token that starts with a character, and what follows it. -/
def first (c : Char) (rest : List Char) : Token × List Char :=
  match c, rest with
  | '[', rest => (openArr, rest)
  | ']', rest => (closeArr, rest)
  | '\x7b', rest => (openObj, rest)
  | '\x7d', rest => (closeObj, rest)
  | ',', rest => (comma, rest)
  | ':', rest => (colon, rest)
  | 'n', 'u' :: 'l' :: 'l' :: rest => (null, rest)
  | 't', 'r' :: 'u' :: 'e' :: rest => (bool true, rest)
  | 'f', 'a' :: 'l' :: 's' :: 'e' :: rest => (bool false, rest)
  | '"', rest =>
    match takeUnits [] rest with
    | some (units, rest) => (text ((joinUnits units.reverse).map String.ofList), rest)
    | none => (bad, [])
  | c, rest =>
    let number? := if c = '-' then takeNumber? true rest else takeNumber? false (c :: rest)
    match number? with
    | some (value, rest) => (number value, rest)
    | none => (bad, [])

/-- The tokens of a text with room for `fuel` characters. -/
def scan : Nat → List Char → List Token
  | 0, _ | _, [] => []
  | fuel + 1, c :: rest =>
    if isBlank c then scan fuel rest
    else match first c rest with
      | (bad, _) => [bad]
      | (token, rest) => token :: scan fuel rest

/-- The tokens of a text. Each token takes at least one character. -/
def ofText (text : String) : List Token :=
  let chars := text.toList
  scan chars.length chars

end Token
end Storyboard.Json
