/-
Plain notation with a fixed number of fraction digits.

The digits are those of the number's exact binary value, correctly rounded
with halves to the even neighbour.
-/
import EarthBins.Decimal.Digits
import EarthBins.Scalar.Bits

namespace EarthBins.Decimal

/-- A finite number with `places` fraction digits, at least one of them.
Zero keeps its sign. -/
def fixed (places : Nat) (x : Float) : String :=
  let p := Double.parts x
  let (num, den) := binaryQuotient p.mantissa p.exponent
  let digits :=
    Nat.toDigits 10 (roundDiv .toEven (num * Nat.pow 10 places) den)
  let padded := List.replicate (places + 1 - digits.length) '0' ++ digits
  let whole := padded.length - places
  (if p.negative then "-" else "") ++ String.ofList (padded.take whole)
    ++ "." ++ String.ofList (padded.drop whole)

end EarthBins.Decimal
