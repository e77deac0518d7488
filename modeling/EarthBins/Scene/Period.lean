/-
Periods of time that observations are selected by.

A period contains its start and not its end. Both are modified Julian
days, the length is in days; an endless period has an infinite length.
-/
import EarthBins.Error
import EarthBins.Scalar.Double

namespace EarthBins

open Scalar

/-- A half-open span of time. -/
structure Period (α : Type) where
  startMjd : α
  durationDays : α
  deriving Repr

namespace Period

variable {α : Type} [Scalar α]

/-- The first instant behind the period. -/
def endMjd (p : Period α) : α := p.startMjd + p.durationDays

/-- Whether a time falls into the period. -/
def contains (p : Period α) (mjd : α) : Bool :=
  decide (p.startMjd ≤ mjd) && decide (mjd < p.endMjd)

/-- A usable period starts at a finite time and has a positive length. -/
def check (p : Period Float) : Except Error Unit :=
  if !Scalar.isFinite p.startMjd then .error (.settings .periodStart)
  else if 0 < p.durationDays then .ok ()
  else .error (.settings (.periodDuration p.durationDays))

end Period

end EarthBins
