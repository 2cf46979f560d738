import Storyboard.Number.Rounding

/-!
# Reading decimal numbers

A decimal text is a sign, digits around an optional point, and an optional power of ten. The readers
here accept the generous form used inside time tokens: either side of the point may be empty but not
both, and the words `inf`, `infinity` and `nan` are numbers in any case. Every text that is read is
rounded once.
-/
namespace Storyboard

structure Decimal where
  negative : Bool
  /-- Digits before the point. -/
  whole : List Char
  /-- Digits behind the point. -/
  fraction : List Char
  exponent : Int
deriving DecidableEq, Repr

namespace Decimal

def digitValue (c : Char) : Nat := c.toNat - 48

def natOfDigits (digits : List Char) : Nat :=
  digits.foldl (fun n c => n * 10 + digitValue c) 0

/-- The nearest binary64 number, infinite beyond the range. -/
def toBinary (d : Decimal) : Binary64 :=
  let digits := d.whole ++ d.fraction
  Binary64.ofDecimal d.negative (natOfDigits digits) digits.length
    (d.exponent - d.fraction.length)

/-- An optional sign and what follows it. -/
def takeSign : List Char → Bool × List Char
  | '-' :: rest => (true, rest)
  | '+' :: rest => (false, rest)
  | rest => (false, rest)

/-- The leading ASCII digits and what follows them. -/
def takeDigits (text : List Char) : List Char × List Char :=
  (text.takeWhile Char.isDigit, text.dropWhile Char.isDigit)

/-- The power of ten behind a number: absent, or a mark and at least one digit, up to the end. -/
def readExponent? : List Char → Option Int
  | [] => some 0
  | mark :: rest =>
    if mark = 'e' ∨ mark = 'E' then
      let (negative, rest) := takeSign rest
      if rest.isEmpty || !rest.all Char.isDigit then none
      else some (if negative then -(natOfDigits rest : Int) else natOfDigits rest)
    else none

/-- A decimal number that fills the whole text; the sign has been read. -/
def ofUnsigned? (negative : Bool) (text : List Char) : Option Decimal :=
  let (whole, rest) := takeDigits text
  let (fraction, rest) := match rest with
    | '.' :: behind => takeDigits behind
    | _ => ([], rest)
  if whole.isEmpty && fraction.isEmpty then none
  else (readExponent? rest).map fun exponent => ⟨negative, whole, fraction, exponent⟩

end Decimal

/-- The number written by a text, in the form that time offsets use. -/
def Binary64.ofText? (text : List Char) : Option Binary64 :=
  let (negative, rest) := Decimal.takeSign text
  let word := rest.map Char.toLower
  if word = "inf".toList || word = "infinity".toList then some (infinity negative)
  else if word = "nan".toList then some (nan negative)
  else (Decimal.ofUnsigned? negative rest).map Decimal.toBinary

/-- The integer written by a text: an optional sign and at least one digit. -/
def intOfText? (text : List Char) : Option Int :=
  let (negative, digits) := Decimal.takeSign text
  if digits.isEmpty || !digits.all Char.isDigit then none
  else
    let size := Decimal.natOfDigits digits
    some (if negative then -(size : Int) else size)

/-- The integer written by a text, if it fits 32 bits. -/
def int32OfText? (text : List Char) : Option Int32 :=
  (intOfText? text).bind fun n =>
    if -0x80000000 ≤ n ∧ n < 0x80000000 then some (Int32.ofInt n) else none

end Storyboard
