/-
Instants of universal time, to the microsecond.

An instant is a number of microseconds since the start of 1970. Its text
is the date of the Gregorian calendar, extended in both directions without
a gap, with the time of day and the zone:

    2024-01-15 12:00:00 UTC

A fraction of a second follows where there is one, with three digits when
they suffice and six otherwise. Years from 0 to 9999 have four digits;
all others carry a sign in front of at least four.

# From day number to date

Years are counted from the first of March, so that the leap day is the
last day of a year and the month lengths 31, 30, 31, 30, 31 repeat every
five months. A cycle of 400 such years has 146097 days; inside it the year
follows from the day by removing the leap days before it.
-/

namespace EarthBins

/-- Microseconds since the start of 1970. -/
structure Timestamp where
  micros : Int
  deriving DecidableEq, Repr

/-- A day of the Gregorian calendar. -/
structure CivilDate where
  year : Int
  month : Nat
  day : Nat
  deriving DecidableEq, Repr

namespace CivilDate

/-- Days from the first of March of year zero to the start of 1970. -/
def epochOffset : Int := 719468

/-- Days in 400 years. -/
def cycle : Int := 146097

/-- The date of a day counted from the start of 1970. -/
def ofDays (days : Int) : CivilDate :=
  let shifted := days + epochOffset
  let era := shifted / cycle
  let dayOfEra := (shifted % cycle).toNat
  let yearOfEra :=
    (dayOfEra - dayOfEra / 1460 + dayOfEra / 36524 - dayOfEra / 146096) / 365
  let dayOfYear :=
    dayOfEra - (365 * yearOfEra + yearOfEra / 4 - yearOfEra / 100)
  let fromMarch := (5 * dayOfYear + 2) / 153
  let day := dayOfYear - (153 * fromMarch + 2) / 5 + 1
  let month := if fromMarch < 10 then fromMarch + 3 else fromMarch - 9
  let year := era * 400 + yearOfEra
  ⟨if month ≤ 2 then year + 1 else year, month, day⟩

end CivilDate

namespace Timestamp

/-- Microseconds in a day. -/
def dayLength : Int := 86400000000

/-- Digits padded with zeros on the left. -/
def padded (width n : Nat) : String :=
  let digits := Nat.toDigits 10 n
  String.ofList (List.replicate (width - digits.length) '0' ++ digits)

/-- A year with four digits, signed outside the years 0 to 9999. -/
def yearText (year : Int) : String :=
  let sign := if year < 0 then "-" else if 9999 < year then "+" else ""
  sign ++ padded 4 year.natAbs

/-- The fraction of a second behind its point, nothing where it is zero. -/
def fractionText (micros : Nat) : String :=
  if micros = 0 then ""
  else if micros % 1000 = 0 then "." ++ padded 3 (micros / 1000)
  else "." ++ padded 6 micros

/-- Date, time of day and zone. -/
def text (t : Timestamp) : String :=
  let date := CivilDate.ofDays (t.micros / dayLength)
  let ofDay := (t.micros % dayLength).toNat
  let second := ofDay / 1000000
  yearText date.year ++ "-" ++ padded 2 date.month
    ++ "-" ++ padded 2 date.day
    ++ " " ++ padded 2 (second / 3600)
    ++ ":" ++ padded 2 (second / 60 % 60)
    ++ ":" ++ padded 2 (second % 60)
    ++ fractionText (ofDay % 1000000) ++ " UTC"

end Timestamp

end EarthBins
