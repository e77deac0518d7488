/-
Modified Julian days.

A modified Julian day counts the days since midnight of 17 November 1858;
the year 1970 begins with day 40587. The fraction of the day is the time
of day, so a day number is an instant to the precision of the number
system, and converting it back rounds to the nearest microsecond.
-/
import EarthBins.Calendar.Timestamp
import EarthBins.Scalar.Double

namespace EarthBins.Timestamp

open Scalar

/-- The modified Julian day on which 1970 begins. -/
def epochDay {α : Type} [Scalar α] : α := 40587

/-- Microseconds in a day, as a number. -/
def dayMicros {α : Type} [Scalar α] : α := 86400000000

/-- The modified Julian day of an instant. -/
def mjd {α : Type} [Scalar α] (t : Timestamp) : α :=
  epochDay + ofInt t.micros / dayMicros

/-- First and last instant that a date stands for: the years from -262143
to 262142. -/
def range : Int × Int := (-8334601228800000000, 8210266876799999999)

/-- The instant of a modified Julian day, if it lies in that range. -/
def ofMjd? (mjd : Float) : Option Timestamp :=
  if !Scalar.isFinite mjd then none
  else
    let micros := roundInt ((mjd - epochDay) * dayMicros)
    if range.1 ≤ micros ∧ micros ≤ range.2 then some ⟨micros⟩ else none

end EarthBins.Timestamp
