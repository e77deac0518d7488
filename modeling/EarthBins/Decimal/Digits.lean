/-
Decimal digits of natural numbers and of quotients.

The decimal forms of this library are computed on a quotient of two
natural numbers, so that no step rounds unless the format says so. Two
facts about a quotient are needed: the exponent of its leading digit, and
the nearest natural number. Where a half goes is up to the format.
-/

namespace EarthBins.Decimal

/-- Number of decimal digits; zero has one. -/
def length (n : Nat) : Nat := (Nat.toDigits 10 n).length

/-- Which of its two neighbours a half goes to. -/
inductive Tie where
  | toEven
  | up
  deriving DecidableEq, Repr

/-- Whether the half above a natural number goes up. -/
def Tie.goesUp (tie : Tie) (q : Nat) : Bool :=
  match tie with
  | .toEven => q % 2 == 1
  | .up => true

/-- The quotient of two natural numbers rounded to the nearest one. -/
def roundDiv (tie : Tie) (num den : Nat) : Nat :=
  let q := num / den
  let twice := 2 * (num % den)
  if den < twice || (twice == den && tie.goesUp q) then q + 1 else q

/-- `num · 10^shift / den` as a pair of natural numbers. -/
def scale (shift : Int) (num den : Nat) : Nat × Nat :=
  if 0 ≤ shift then (num * Nat.pow 10 shift.toNat, den)
  else (num, den * Nat.pow 10 (-shift).toNat)

/-- The exponent `k` with `10^k ≤ num / den < 10^(k+1)`, for positive
operands. The two lengths leave two candidates, and one comparison
decides. -/
def leadingExponent (num den : Nat) : Int :=
  let k : Int := (length num : Int) - length den
  let (n, d) := scale (-k) num den
  if d ≤ n then k else k - 1

/-- A finite positive number `m · 2^e` as a quotient of natural numbers. -/
def binaryQuotient (mantissa : Nat) (exponent : Int) : Nat × Nat :=
  if 0 ≤ exponent then (mantissa * Nat.pow 2 exponent.toNat, 1)
  else (mantissa, Nat.pow 2 (-exponent).toNat)

/-- Decimal digit of a character. Only the ten ASCII digits count. -/
def digit? (c : Char) : Option Nat :=
  if c.isDigit then some (c.toNat - '0'.toNat) else none

/-- The natural number that a nonempty row of digits denotes. -/
def natural? (cs : List Char) : Option Nat :=
  if cs.isEmpty then none
  else cs.foldl (fun acc c => do return 10 * (← acc) + (← digit? c)) (some 0)

/-- An unsigned integer of at most 32 bits: digits after an optional plus
sign. -/
def word? (cs : List Char) : Option UInt32 := do
  let digits := match cs with
    | '+' :: rest => rest
    | _ => cs
  let n ← natural? digits
  if n < UInt32.size then some (UInt32.ofNat n) else none

end EarthBins.Decimal
