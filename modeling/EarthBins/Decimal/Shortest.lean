/-
The fewest decimal digits that read back as the same 64-bit number.

A finite number `v = m · 2^e` is what every real between two midpoints
rounds to: the midpoint to its upper neighbour lies half a unit above, the
one to its lower neighbour half a unit below, or a quarter when `v` is a
power of two and the numbers below are denser. The midpoints themselves
round to `v` exactly when `m` is even.

For one digit, two digits, and so on, the two neighbours of `v` on the
grid of that many digits are tested against the interval. The first grid
with a hit gives the fewest digits, because a grid that has any point in
the interval has one of the two neighbours of `v` in it. Of two hits the
nearer one is taken, and on a tie the one that the format prefers.

All of it is natural-number arithmetic on quarters of a unit.
-/
import EarthBins.Decimal.Digits
import EarthBins.Scalar.Bits

namespace EarthBins.Decimal

/-- Decimal digits without trailing zeros, most significant first, and the
exponent of the first one. -/
structure Significant where
  digits : List Char
  exponent : Int
  deriving DecidableEq, Repr

/-- The reals that round to a number, in units of `num / den`: from `low`
to `high`, ends included or not. -/
structure Interval where
  low : Nat
  value : Nat
  high : Nat
  den : Nat
  closed : Bool

/-- The interval of a finite positive number. -/
def Interval.of (p : Double.Parts) : Interval :=
  let below :=
    if p.mantissa = Nat.pow 2 52 ∧ -1074 < p.exponent then 1 else 2
  let (unit, den) := binaryQuotient 1 (p.exponent - 2)
  { low := (4 * p.mantissa - below) * unit
    value := 4 * p.mantissa * unit
    high := (4 * p.mantissa + 2) * unit
    den := den
    closed := p.mantissa % 2 = 0 }

/-- Whether the decimal `q · 10^(-shift)` lies in the interval. -/
def Interval.contains (iv : Interval) (shift : Int) (q : Nat) : Bool :=
  let (low, den) := scale shift iv.low iv.den
  let (high, _) := scale shift iv.high iv.den
  if iv.closed then low ≤ q * den && q * den ≤ high
  else low < q * den && q * den < high

/-- The neighbour of the value on a decimal grid that lies in the
interval, the nearer one of two. -/
def Interval.onGrid? (iv : Interval) (tie : Tie) (shift : Int) :
    Option Nat :=
  let (n, d) := scale shift iv.value iv.den
  let down := n / d
  match iv.contains shift down, iv.contains shift (down + 1) with
  | true, true => some (roundDiv tie n d)
  | true, false => some down
  | false, true => some (down + 1)
  | false, false => none

/-- The first hit on the grids of `count`, `count + 1`, … digits. -/
def Interval.search (iv : Interval) (tie : Tie) (lead : Int)
    (count : Nat) : Nat → Option (Nat × Int)
  | 0 => none
  | tries + 1 =>
    let shift : Int := (count : Int) - 1 - lead
    match iv.onGrid? tie shift with
    | some q => some (q, shift)
    | none => iv.search tie lead (count + 1) tries

/-- Digits of a natural number without its trailing zeros. -/
def trimZeros (cs : List Char) : List Char :=
  (cs.reverse.dropWhile (· == '0')).reverse

/-- The shortest digits of a finite positive number. Seventeen digits
always suffice. -/
def shortest (tie : Tie) (p : Double.Parts) : Significant :=
  let iv := Interval.of p
  let lead := leadingExponent iv.value iv.den
  match iv.search tie lead 1 17 with
  | some (q, shift) =>
    let cs := Nat.toDigits 10 q
    ⟨trimZeros cs, (cs.length : Int) - 1 - shift⟩
  | none => ⟨['0'], 0⟩

end EarthBins.Decimal
