/-
The parts of a 64-bit number.

A finite number is `± m · 2^e` with natural `m` and integer `e`. `parts`
takes a number apart into that form and `ofParts` builds one from it; the
modules that need a number's exact value (its decimal digits, an exact
remainder) work on the parts in natural-number arithmetic and never on a
rounded quotient.
-/

namespace EarthBins.Double

/-- A finite number `± mantissa · 2^exponent`. The mantissa has at most 53
bits. -/
structure Parts where
  negative : Bool
  mantissa : Nat
  exponent : Int
  deriving DecidableEq, Repr

/-- The sign bit. -/
def isNegative (x : Float) : Bool := Nat.pow 2 63 ≤ x.toBits.toNat

/-- The magnitude bits: exponent and fraction fields without the sign. -/
def magnitude (x : Float) : Nat := x.toBits.toNat % Nat.pow 2 63

/-- Sign, mantissa and exponent of a finite number; for an infinity or NaN
the result has no meaning. -/
def parts (x : Float) : Parts :=
  let field : Nat := magnitude x / Nat.pow 2 52
  let fraction : Nat := magnitude x % Nat.pow 2 52
  if field = 0 then ⟨isNegative x, fraction, -1074⟩
  else ⟨isNegative x, fraction + Nat.pow 2 52, (field : Int) - 1075⟩

/-- Magnitude bits of `mantissa · 2^exponent`, exact whenever the product
is a finite 64-bit number. -/
def magnitudeOf (mantissa : Nat) (exponent : Int) : Nat :=
  if mantissa = 0 then 0
  else
    let top := exponent + mantissa.log2
    if -1022 ≤ top then
      let shift : Int := 52 - mantissa.log2
      let scaled :=
        if 0 ≤ shift then mantissa * Nat.pow 2 shift.toNat
        else mantissa / Nat.pow 2 (-shift).toNat
      (top + 1022).toNat * Nat.pow 2 52 + scaled
    else mantissa * Nat.pow 2 (exponent + 1074).toNat

/-- The number with the given parts. -/
def ofParts (p : Parts) : Float :=
  let sign := if p.negative then Nat.pow 2 63 else 0
  Float.ofBits (UInt64.ofNat (sign + magnitudeOf p.mantissa p.exponent))

/-- Whether a number is neither infinite nor NaN. -/
def isFinite (x : Float) : Bool := magnitude x < 0x7FF * Nat.pow 2 52

/-- Positive infinity. -/
def infinity : Float := 1 / 0

/-- Not a number. -/
def nan : Float := 0 / 0

/-- Negative zero. -/
def negativeZero : Float := -0

/-- Remainder of the division of `x` by `y` truncated toward zero, exact:
with both operands scaled to the smaller of their two exponents it is a
remainder of natural numbers. It takes the sign of `x`. -/
def truncatedRem (x y : Float) : Float :=
  if !isFinite x || y.isNaN || y == 0 then nan
  else if !isFinite y then x
  else
    let a := parts x
    let b := parts y
    let unit := min a.exponent b.exponent
    let dividend := a.mantissa * Nat.pow 2 (a.exponent - unit).toNat
    let divisor := b.mantissa * Nat.pow 2 (b.exponent - unit).toNat
    ofParts ⟨a.negative, dividend % divisor, unit⟩

/-- The remainder moved into `[0, |y|)` by one addition of `|y|` where the
truncated one is negative. That addition rounds, so the result can be
`|y|` itself for a negative `x` close to zero. -/
def mod (x y : Float) : Float :=
  let r := truncatedRem x y
  if r < 0 then r + y.abs else r

/-- Position in the total order of all 64-bit numbers: negative numbers
count downward from minus one, so negative zero precedes zero. -/
def rank (x : Float) : Int :=
  if isNegative x then -(magnitude x : Int) - 1 else magnitude x

/-- Natural logarithm. Only a positive finite number has a finite one; at
zero and at infinity stand the limits, and all other numbers have none. -/
def log (x : Float) : Float :=
  if 0 < x && x < infinity then x.log
  else if x == 0 then -infinity
  else if x == infinity then infinity
  else nan

/-- Hypotenuse over two legs, scaled by the longer leg so that no square
overflows. An infinite leg wins over NaN. -/
def hypot (x y : Float) : Float :=
  let a := x.abs
  let b := y.abs
  if a == infinity || b == infinity then infinity
  else
    let long := if a < b then b else a
    let short := if a < b then a else b
    if long == 0 then long
    else
      let ratio := short / long
      long * (1 + ratio * ratio).sqrt

end EarthBins.Double
