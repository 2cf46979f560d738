/-!
# Binary64 numbers

A floating-point number is a sign and a magnitude of 63 bits: the exponent field followed by the
fraction field. Reading the magnitude as a natural number orders the magnitudes by size, so the
total order of all numbers (negative NaN first, positive NaN last, `-0` before `+0`) is the order
of one integer key. Finite values are whole multiples of `2 ^ -1074`, and `units` counts them
exactly.
-/
namespace Storyboard

structure Binary64 where
  negative : Bool
  magnitude : Fin 0x8000000000000000
deriving DecidableEq, Repr

namespace Binary64

/-- The magnitude of the infinities. NaN has a larger magnitude, every finite number a smaller
one. -/
def infinityMagnitude : Nat := 0x7ff0000000000000

def isNaN (x : Binary64) : Bool := infinityMagnitude < x.magnitude.val

def isInfinite (x : Binary64) : Bool := x.magnitude.val == infinityMagnitude

def isFinite (x : Binary64) : Bool := x.magnitude.val < infinityMagnitude

def isZero (x : Binary64) : Bool := x.magnitude.val == 0

def zero (negative : Bool) : Binary64 := ⟨negative, 0⟩

def infinity (negative : Bool) : Binary64 := ⟨negative, ⟨infinityMagnitude, by decide⟩⟩

/-- The quiet NaN with an empty payload. -/
def nan (negative : Bool) : Binary64 := ⟨negative, ⟨0x7ff8000000000000, by decide⟩⟩

/-- The largest finite number. -/
def largest (negative : Bool) : Binary64 := ⟨negative, ⟨infinityMagnitude - 1, by decide⟩⟩

def neg (x : Binary64) : Binary64 := { x with negative := !x.negative }

/-- The 64 bits of the interchange format, sign first. -/
def bits (x : Binary64) : Nat :=
  (if x.negative then 0x8000000000000000 else 0) + x.magnitude.val

/-- Position in the total order. -/
def key (x : Binary64) : Int :=
  if x.negative then -(x.magnitude.val : Int) - 1 else x.magnitude.val

/-- The total order, in which both zeros and both signs of NaN have places of their own. -/
def totalLe (x y : Binary64) : Bool := x.key ≤ y.key

/-- Numeric comparison: false with a NaN on either side, and the two zeros are equal. -/
def le (x y : Binary64) : Bool :=
  !x.isNaN && !y.isNaN && ((x.isZero && y.isZero) || x.key ≤ y.key)

/-- The value of a finite magnitude as a multiple of `2 ^ -1074`. A zero exponent field marks the
subnormal numbers; the others carry a hidden leading bit. -/
def unitsOf (magnitude : Nat) : Nat :=
  let field := magnitude / 0x10000000000000
  let fraction := magnitude % 0x10000000000000
  if field = 0 then fraction else (0x10000000000000 + fraction) * Nat.pow 2 (field - 1)

/-- The exact value of a finite number as a multiple of `2 ^ -1074`. -/
def units (x : Binary64) : Int :=
  if x.negative then -(unitsOf x.magnitude.val : Int) else unitsOf x.magnitude.val

end Binary64

/-- A number that is neither infinite nor NaN. -/
def Finite64 : Type := { x : Binary64 // x.isFinite = true }

namespace Finite64

instance : DecidableEq Finite64 :=
  inferInstanceAs (DecidableEq { x : Binary64 // x.isFinite = true })

instance : Coe Finite64 Binary64 := ⟨Subtype.val⟩

def toBinary (x : Finite64) : Binary64 := x.val

/-- The number itself if it is finite. -/
def ofBinary? (x : Binary64) : Option Finite64 :=
  if h : x.isFinite = true then some ⟨x, h⟩ else none

def zero : Finite64 := ⟨Binary64.zero false, by decide⟩

instance : Inhabited Finite64 := ⟨zero⟩

end Finite64

end Storyboard
