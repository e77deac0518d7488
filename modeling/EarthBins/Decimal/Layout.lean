/-
How shortest digits are laid out as text.

A `Layout` is the part of a number format that is a matter of taste: for
which exponents the digits are written around a plain decimal point,
whether an integral number keeps a `.0`, how an exponent is signed, and
which of two equally near decimals is taken. The digits themselves come
from `Decimal/Shortest.lean`.
-/
import EarthBins.Decimal.Shortest

namespace EarthBins.Decimal

/-- The choices of a number format. -/
structure Layout where
  /-- Whether a number whose first digit has this exponent is written
  without exponent. -/
  positional : Int → Bool
  /-- Whether an integral number written without exponent ends in `.0`. -/
  pointZero : Bool
  /-- Whether a positive exponent carries a plus sign. -/
  plus : Bool
  /-- Where a number halfway between two shortest decimals goes. -/
  tie : Tie

/-- Digits around a plain decimal point. -/
def Layout.plain (l : Layout) (s : Significant) : String :=
  let tail := if l.pointZero then ".0" else ""
  if s.exponent < 0 then
    "0." ++ String.ofList
      (List.replicate ((-s.exponent).toNat - 1) '0' ++ s.digits)
  else
    let whole := s.exponent.toNat + 1
    if s.digits.length ≤ whole then
      String.ofList (s.digits
        ++ List.replicate (whole - s.digits.length) '0') ++ tail
    else
      String.ofList (s.digits.take whole) ++ "."
        ++ String.ofList (s.digits.drop whole)

/-- Digits with a point after the first and an exponent. -/
def Layout.exponential (l : Layout) (s : Significant) : String :=
  let mantissa := match s.digits with
    | d :: e :: rest => String.ofList (d :: '.' :: e :: rest)
    | digits => String.ofList digits
  let sign := if l.plus && decide (0 < s.exponent) then "+" else ""
  s!"{mantissa}e{sign}{s.exponent}"

/-- Digits in the form that the layout asks for. -/
def Layout.text (l : Layout) (s : Significant) : String :=
  if l.positional s.exponent then l.plain s else l.exponential s

/-- A finite number in the given layout. Zero keeps its sign. -/
def Layout.finite (l : Layout) (x : Float) : String :=
  let p := Double.parts x
  let sign := if p.negative then "-" else ""
  sign ++ l.text
    (if p.mantissa = 0 then ⟨['0'], 0⟩ else shortest l.tie p)

end EarthBins.Decimal
