/-
Reading decimal text as 64-bit numbers.

`ofDecimal` is the nearest number to `m · 10^e`. Its two guards only keep
the exact arithmetic small: beyond them the result is infinite or zero
whatever the digits are.

`number?` accepts the free notation of tables and configuration values: an
optional sign; digits with a point before, between or after them; an
optional exponent; or one of the words `inf`, `infinity` and `nan` in any
letter case.
-/
import EarthBins.Decimal.Digits
import EarthBins.Scalar.Bits

namespace EarthBins.Decimal

/-- The number nearest to `± mantissa · 10^exponent`. -/
def ofDecimal (negative : Bool) (mantissa : Nat) (exponent : Int) : Float :=
  let size : Int := exponent + length mantissa
  let x :=
    if mantissa = 0 || decide (size < -330) then 0
    else if 310 < size then Double.infinity
    else Float.ofScientific mantissa (decide (exponent < 0)) exponent.natAbs
  if negative then -x else x

/-- The number nearest to an integer. -/
def ofInteger (n : Int) : Float := ofDecimal (decide (n < 0)) n.natAbs 0

/-- Sign in front of a text: whether it is a minus, and what follows. -/
def signed (cs : List Char) : Bool × List Char :=
  match cs with
  | '-' :: rest => (true, rest)
  | '+' :: rest => (false, rest)
  | _ => (false, cs)

/-- The exponent that ends a number, zero where there is none. -/
def exponent? (cs : List Char) : Option Int :=
  match cs with
  | [] => some 0
  | c :: rest =>
    if c == 'e' || c == 'E' then
      let (negative, digits) := signed rest
      (natural? digits).map fun n => if negative then -(n : Int) else n
    else none

/-- Digits, point and exponent of a number without its sign. -/
def unsigned? (negative : Bool) (cs : List Char) : Option Float := do
  let whole := cs.takeWhile Char.isDigit
  let (fraction, rest) := match cs.dropWhile Char.isDigit with
    | '.' :: rest =>
      (rest.takeWhile Char.isDigit, rest.dropWhile Char.isDigit)
    | rest => ([], rest)
  let mantissa ← natural? (whole ++ fraction)
  let exponent ← exponent? rest
  return ofDecimal negative mantissa (exponent - fraction.length)

/-- The number that a whole text denotes. -/
def number? (cs : List Char) : Option Float :=
  let (negative, rest) := signed cs
  let word := String.ofList (rest.map Char.toLower)
  if word == "inf" || word == "infinity" then
    some (if negative then -Double.infinity else Double.infinity)
  else if word == "nan" then some Double.nan
  else unsigned? negative rest

end EarthBins.Decimal
