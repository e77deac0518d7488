/-
The arithmetic in which every formula of this library is written.

Grids, statistics, geo-locations and acquisition times are computed with
the operations of the class `Scalar` and with nothing else. A run of the
library takes the 64-bit numbers (`Scalar.Double`); the same definitions
read over any other instance, the real numbers with their two infinities
and "not a number" among them, so that a formula can be studied without
its rounding.

# What is primitive and what is not

Comparisons follow the usual convention for a number system with NaN:
every comparison with NaN is false. Hence NaN is whatever is not below
itself (`isNaN`), and a finite number is one strictly between the two
infinities (`isFinite`); neither is a primitive. The two selections
`minimum` and `maximum` ignore a NaN operand.

`toNat` is the only way from a number to an index. It drops the fraction,
and it is total by saturation: NaN and everything below one go to zero,
everything too large to the top of the index range. The instances decide
where that top is; no caller relies on it, because each caller clamps to
the size of its own range.
-/

namespace EarthBins

/-- A number system with infinities and NaN in which the formulas of the
library are evaluated. -/
class Scalar (α : Type) extends
    Add α, Sub α, Mul α, Div α, Neg α, LT α, LE α where
  /-- Strict comparison is decided; it is false whenever NaN takes part. -/
  decidableLT : DecidableLT α
  /-- Comparison is decided; it is false whenever NaN takes part. -/
  decidableLE : DecidableLE α
  /-- The number nearest to a natural number. -/
  ofNat : Nat → α
  /-- The value that stands for "no data". -/
  nan : α
  /-- Above every finite number. -/
  infinity : α
  /-- Integer part of a nonnegative number, by saturation on all others:
  zero for NaN and for negative numbers. -/
  toNat : α → Nat
  /-- The remainder in `[0, y)` of a division by a positive `y`, up to the
  rounding of the number system. -/
  mod : α → α → α
  sqrt : α → α
  exp : α → α
  log : α → α
  pow : α → α → α
  pi : α
  sin : α → α
  cos : α → α
  atan : α → α
  /-- Angle of the point `(x, y)`, given as `atan2 y x`. -/
  atan2 : α → α → α
  /-- Length of the hypotenuse over two legs. -/
  hypot : α → α → α
  /-- A total order that refines `≤`; it is what lists are sorted by. -/
  totalLE : α → α → Bool

attribute [reducible] Scalar.decidableLT Scalar.decidableLE
attribute [instance] Scalar.decidableLT Scalar.decidableLE

namespace Scalar

variable {α : Type} [Scalar α]

/-- Numerals denote the nearest number. -/
instance (priority := low) instOfNat {n : Nat} : OfNat α n := ⟨ofNat n⟩

/-- One half. -/
def half : α := 1 / 2

/-- Whether a value is NaN: it is the only one not below itself. -/
def isNaN (x : α) : Bool := !decide (x ≤ x)

/-- Whether a value lies strictly between the two infinities. -/
def isFinite (x : α) : Bool := decide (-infinity < x) && decide (x < infinity)

/-- The smaller of two values, the other one if either is NaN. -/
def minimum (x y : α) : α :=
  if isNaN x then y else if y < x then y else x

/-- The larger of two values, the other one if either is NaN. -/
def maximum (x y : α) : α :=
  if isNaN x then y else if x < y then y else x

/-- The square of a number. -/
def square (x : α) : α := x * x

/-- Nearest natural number, halves upward; zero for NaN and for negative
numbers. -/
def roundNat (x : α) : Nat :=
  if half ≤ x - ofNat (toNat x) then toNat x + 1 else toNat x

/-- Nearest integer, halves away from zero; zero for NaN. -/
def roundInt (x : α) : Int :=
  if x < 0 then -(roundNat (-x) : Int) else roundNat x

/-- The number nearest to an integer. -/
def ofInt (n : Int) : α :=
  if n < 0 then -ofNat n.natAbs else ofNat n.natAbs

/-- Degrees to radians. -/
def toRadians (x : α) : α := x * (pi / 180)

/-- Radians to degrees. -/
def toDegrees (x : α) : α := x * (180 / pi)

end Scalar

end EarthBins
