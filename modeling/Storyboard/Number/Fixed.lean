import Storyboard.Number.Rounding

/-!
# Decimal text with fixed places

The exact value is rounded to the given number of decimal places, a half going to the even digit.
The sign of a negative number is kept even when every digit is zero.
-/
namespace Storyboard

def Binary64.fixed (places : Nat) (x : Binary64) : String :=
  if x.isNaN then "NaN"
  else
    let sign := if x.negative then "-" else ""
    if x.isInfinite then sign ++ "inf"
    else
      let scaled := roundHalfEven (unitsOf x.magnitude.val * Nat.pow 10 places) (Nat.pow 2 1074)
      let whole := toString (scaled / Nat.pow 10 places)
      if places = 0 then sign ++ whole
      else
        let digits := Nat.toDigits 10 (scaled % Nat.pow 10 places)
        let fraction := String.ofList (List.replicate (places - digits.length) '0' ++ digits)
        sign ++ whole ++ "." ++ fraction

end Storyboard
