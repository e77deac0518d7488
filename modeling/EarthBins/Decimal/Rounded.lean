/-
Scientific notation with a fixed number of fraction digits.

The digits are those of the number's exact binary value, correctly rounded
with halves to the even neighbour: one digit, a point, the fraction, and
an exponent without plus sign or padding. Without fraction digits there is
no point. Zero keeps its sign.
-/
import EarthBins.Decimal.Digits
import EarthBins.Scalar.Bits

namespace EarthBins.Decimal

/-- The first `places + 1` significant digits of a positive quotient, as a
natural number, with the exponent of the first one. A carry out of the
last digit can lengthen the digits by one, which moves the exponent. -/
def rounded (places num den : Nat) : Nat × Int :=
  let k := leadingExponent num den
  let (n, d) := scale ((places : Int) - k) num den
  let q := roundDiv .toEven n d
  if q = Nat.pow 10 (places + 1) then (Nat.pow 10 places, k + 1) else (q, k)

/-- Digits with a point after the first one. -/
def pointed (digits : List Char) : String :=
  match digits with
  | d :: e :: rest => String.ofList (d :: '.' :: e :: rest)
  | _ => String.ofList digits

/-- A 64-bit number in scientific notation with `places` fraction
digits. -/
def scientific (places : Nat) (x : Float) : String :=
  if x.isNaN then "NaN"
  else
    let sign := if Double.isNegative x then "-" else ""
    if !Double.isFinite x then sign ++ "inf"
    else
      let p := Double.parts x
      let (digits, exponent) :=
        if p.mantissa = 0 then (List.replicate (places + 1) '0', 0)
        else
          let (num, den) := binaryQuotient p.mantissa p.exponent
          let (q, k) := rounded places num den
          (Nat.toDigits 10 q, k)
      s!"{sign}{pointed digits}e{exponent}"

end EarthBins.Decimal
