import Storyboard.Number.Binary64

/-!
# Rounding to binary64

Every operation computes its exact result as a quotient of natural numbers and rounds once, to the
nearest number and, half way, to the even one. `magnitudeOfRatio` is that rounding: a quotient
with floor below `2 ^ 53` is its own scale, a larger one is cut to 53 significant bits. Rounding
up to the next power of two carries into the exponent field by plain addition.
-/
namespace Storyboard

/-- The integer nearest to the quotient; a half goes to the even neighbour. -/
def roundHalfEven (num den : Nat) : Nat :=
  let low := num / den
  let rest := num % den
  if 2 * rest < den then low
  else if den < 2 * rest then low + 1
  else low + low % 2

namespace Binary64

/-- The magnitude nearest to `num / den` multiples of `2 ^ -1074`, infinite from the overflow
threshold on. -/
def magnitudeOfRatio (num den : Nat) : Nat :=
  let shift := (num / den).log2 - 52
  min infinityMagnitude (shift * 0x10000000000000 + roundHalfEven num (den * Nat.pow 2 shift))

/-- The number of the given sign nearest to `num / den` multiples of `2 ^ -1074`. -/
def ofRatio (negative : Bool) (num den : Nat) : Binary64 :=
  ⟨negative, ⟨magnitudeOfRatio num den,
    Nat.lt_of_le_of_lt (Nat.min_le_left _ _) (by decide : infinityMagnitude < 0x8000000000000000)⟩⟩

/-- The number nearest to an integer. -/
def ofInt (n : Int) : Binary64 := ofRatio (n < 0) (n.natAbs * Nat.pow 2 1074) 1

/-- The number nearest to `digits * 10 ^ exponent`. Texts are read through this, so an exponent far
outside the range of binary64 is settled without computing the power: `digits < 10 ^ count` gives a
zero below `10 ^ -400` and a number of at least `10 ^ 400` is infinite. -/
def ofDecimal (negative : Bool) (digits count : Nat) (exponent : Int) : Binary64 :=
  if digits = 0 then zero negative
  else if exponent + count < -400 then zero negative
  else if 400 < exponent then infinity negative
  else if 0 ≤ exponent then ofRatio negative (digits * Nat.pow 10 exponent.toNat * Nat.pow 2 1074) 1
  else ofRatio negative (digits * Nat.pow 2 1074) (Nat.pow 10 (-exponent).toNat)

/-- Addition. A NaN operand is the result, and opposite infinities give the negative NaN. An exact
zero is negative only if both operands are. -/
def add (x y : Binary64) : Binary64 :=
  if x.isNaN then x
  else if y.isNaN then y
  else if x.isInfinite then
    if y.isInfinite && x.negative != y.negative then nan true else x
  else if y.isInfinite then y
  else
    let sum := x.units + y.units
    if sum = 0 then zero (x.negative && y.negative)
    else ofRatio (sum < 0) sum.natAbs 1

/-- Subtraction adds the negated operand; a NaN operand keeps its sign. -/
def sub (x y : Binary64) : Binary64 :=
  if y.isNaN then add x y else add x y.neg

/-- Multiplication. A NaN operand is the result, and zero times infinity gives the negative NaN. -/
def mul (x y : Binary64) : Binary64 :=
  let negative := x.negative != y.negative
  if x.isNaN then x
  else if y.isNaN then y
  else if x.isInfinite || y.isInfinite then
    if x.isZero || y.isZero then nan true else infinity negative
  else ofRatio negative (unitsOf x.magnitude.val * unitsOf y.magnitude.val) (Nat.pow 2 1074)

instance : Add Binary64 := ⟨add⟩
instance : Sub Binary64 := ⟨sub⟩
instance : Mul Binary64 := ⟨mul⟩

end Binary64
end Storyboard
