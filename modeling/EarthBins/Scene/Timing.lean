/-
When a scan line was acquired.

An image is taken line by line between a start and a stop, or its lines
share one time, or its product knows the time of each. Line coordinates
are continuous: zero is the upper edge of the first line, the number of
lines the lower edge of the last.
-/
import EarthBins.Calendar.JulianDay
import EarthBins.Error

namespace EarthBins

open Scalar

/-- Acquisition times of the lines of an image, in modified Julian days. -/
inductive Timing (α : Type) where
  /-- One time for the whole image. -/
  | constant (mjd : α)
  /-- Start and stop, and the number of lines between them. -/
  | linear (start stop lines : α)
  /-- The time of a line coordinate in any other way. -/
  | custom (mjd : α → α)

namespace Timing

variable {α : Type} [Scalar α]

/-- The timing of an image taken between two instants. -/
def between? (start stop : Timestamp) (lines : Nat) :
    Except Error (Timing α) :=
  if stop.micros < start.micros then
    .error (.input (.stopBeforeStart stop start))
  else if lines = 0 then .error (.input .noLines)
  else .ok (.linear start.mjd stop.mjd (ofNat lines))

/-- The time of a line coordinate. -/
def mjdAt (t : Timing α) (line : α) : α :=
  match t with
  | constant mjd => mjd
  | linear start stop lines => start + (stop - start) * (line / lines)
  | custom mjd => mjd line

end Timing

end EarthBins
