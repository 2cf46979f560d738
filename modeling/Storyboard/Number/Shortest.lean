import Storyboard.Number.Rounding

/-!
# Shortest decimal text

The text of a finite number has the fewest digits that read back as the number. The reals that
round to a number form an interval between the midpoints to its neighbours, with its ends when the
magnitude is even. For each count of digits the two neighbours of the value on that decimal grid
are tested; the first grid with a hit is taken, and of two hits the nearer one, a tie going to the
even digit.
-/
namespace Storyboard

/-- Digits without trailing zeros, and the place of the decimal point before the first of them. -/
structure ShortestDigits where
  digits : List Char
  point : Int
deriving DecidableEq, Repr

namespace ShortestDigits

/-- The number of decimal digits, none for zero. -/
def width (n : Nat) : Nat :=
  if n = 0 then 0 else (Nat.toDigits 10 n).length

/-- The least `k` with `num / den < 10 ^ k`, for a positive quotient. -/
def pointOf (num den : Nat) : Int :=
  if den ≤ num then width (num / den) else 1 - (width ((den - 1) / num) : Int)

/-- The interval of reals that round to a magnitude, in halves of `2 ^ -1074`. -/
structure Interval where
  low : Nat
  high : Nat
  closed : Bool

def Interval.of (magnitude : Nat) : Interval where
  low := Binary64.unitsOf (magnitude - 1) + Binary64.unitsOf magnitude
  high := Binary64.unitsOf magnitude + Binary64.unitsOf (magnitude + 1)
  closed := magnitude % 2 == 0

/-- Whether `num / den` halves of `2 ^ -1074` lie in the interval. -/
def Interval.contains (interval : Interval) (num den : Nat) : Bool :=
  if interval.closed then interval.low * den ≤ num && num ≤ interval.high * den
  else interval.low * den < num && num < interval.high * den

/-- The grid point `d * 10 ^ place` nearest to the value that lies in the interval, if either
neighbour does. -/
def hit? (magnitude : Nat) (place : Int) : Option Nat :=
  let value := Binary64.unitsOf magnitude
  let up := Nat.pow 10 place.toNat
  let down := Nat.pow 10 (-place).toNat
  -- one step of the grid is `step / down` multiples of `2 ^ -1074`
  let step := up * Nat.pow 2 1074
  let low := value * down / step
  let inside := fun d : Nat => (Interval.of magnitude).contains (2 * d * step) down
  match inside low, inside (low + 1) with
  | true, true => some (roundHalfEven (value * down) step)
  | true, false => some low
  | false, true => some (low + 1)
  | false, false => none

/-- Digits of `d * 10 ^ place` in normal form. -/
def ofGrid (d : Nat) (place : Int) : ShortestDigits :=
  let digits := Nat.toDigits 10 d
  ⟨(digits.reverse.dropWhile (· == '0')).reverse, place + digits.length⟩

/-- The first hit on grids of `count`, `count + 1`, … digits; seventeen digits always hit. -/
def search (magnitude : Nat) (point : Int) : Nat → Nat → ShortestDigits
  | 0, count =>
    let place := point - count
    let value := Binary64.unitsOf magnitude
    ofGrid (roundHalfEven (value * Nat.pow 10 (-place).toNat)
      (Nat.pow 10 place.toNat * Nat.pow 2 1074)) place
  | more + 1, count =>
    match hit? magnitude (point - count) with
    | some d => ofGrid d (point - count)
    | none => search magnitude point more (count + 1)

/-- The shortest digits of a positive finite magnitude. -/
def ofMagnitude (magnitude : Nat) : ShortestDigits :=
  search magnitude (pointOf (Binary64.unitsOf magnitude) (Nat.pow 2 1074)) 17 1

/-- Positional notation from `0.00001` up to sixteen digits before the point, always with a point;
otherwise an exponent with its sign. -/
def render (s : ShortestDigits) : String :=
  let count : Int := s.digits.length
  if -5 < s.point && s.point ≤ 16 then
    String.ofList <|
      if s.point ≤ 0 then '0' :: '.' :: (List.replicate (-s.point).toNat '0' ++ s.digits)
      else if s.point < count then
        s.digits.take s.point.toNat ++ '.' :: s.digits.drop s.point.toNat
      else s.digits ++ List.replicate (s.point - count).toNat '0' ++ ['.', '0']
  else
    let exponent := s.point - 1
    let mantissa := match s.digits with
      | [] => []
      | [d] => [d]
      | d :: rest => d :: '.' :: rest
    String.ofList (mantissa ++ ['e', if exponent < 0 then '-' else '+']) ++ toString exponent.natAbs

end ShortestDigits

/-- The shortest text of a number that reads back as it. -/
def Finite64.render (x : Finite64) : String :=
  let body :=
    if x.val.isZero then "0.0"
    else (ShortestDigits.ofMagnitude x.val.magnitude.val).render
  if x.val.negative then "-" ++ body else body

end Storyboard
