/-
The 64-bit numbers as the number system of a run.

Every operation is the machine's own, except the four for which
`Scalar/Bits.lean` gives a definition that is exact, free of overflow or
explicit about its limits: the remainder, the total order, the hypotenuse
and the logarithm.
-/
import EarthBins.Scalar
import EarthBins.Scalar.Bits

namespace EarthBins

instance : Scalar Float where
  decidableLT := inferInstance
  decidableLE := inferInstance
  ofNat := Float.ofNat
  nan := Double.nan
  infinity := Double.infinity
  toNat x := x.toUInt64.toNat
  mod := Double.mod
  sqrt := Float.sqrt
  exp := Float.exp
  log := Double.log
  pow := Float.pow
  pi := 3.14159265358979323846
  sin := Float.sin
  cos := Float.cos
  atan := Float.atan
  atan2 := Float.atan2
  hypot := Double.hypot
  totalLE x y := decide (Double.rank x ≤ Double.rank y)

end EarthBins
