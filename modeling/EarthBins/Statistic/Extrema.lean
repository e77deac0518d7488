/-
Minimum and maximum.

Both phases keep the smallest and the largest value so far, starting from
the two infinities in the wrong order; NaN is passed over. If the two are
still in the wrong order at the end, no value came by.
-/
import EarthBins.Statistic.Phases

namespace EarthBins

open Scalar

/-- The extrema of one variable. -/
structure Extrema where
  source : String
  slot : Nat

namespace Extrema

/-- The names of the features. -/
def names (e : Extrema) : FeatureNames :=
  .ofSuffixes e.source ["min", "max"] ["min", "max"] ["min", "max"]

variable {α : Type} [Scalar α]

/-- No value yet. -/
def clear : FeatureVector α → Except Error (FeatureVector α)
  | _ :: _ :: rest => .ok (infinity :: -infinity :: rest)
  | _ => .error .outOfBounds

/-- Widen the range by a smallest and a largest value. -/
def widen (low high : α) : FeatureVector α → Except Error (FeatureVector α)
  | least :: greatest :: rest =>
    .ok (minimum least low :: maximum greatest high :: rest)
  | _ => .error .outOfBounds

/-- Fold the samples of one observation. -/
def observe (e : Extrema) (samples : List α) (v : FeatureVector α) :
    Except Error (FeatureVector α) := do
  let x ← FeatureVector.value samples e.slot
  widen x x v

/-- Fold a completed pass. -/
def addPass (pass v : FeatureVector α) : Except Error (FeatureVector α) :=
  match pass with
  | low :: high :: _ => widen low high v
  | _ => .error .outOfBounds

/-- The extrema, or no data. -/
def output : FeatureVector α → Except Error (FeatureVector α)
  | low :: high :: _ =>
    if high < low ∨ isNaN low then .ok (FeatureVector.empty 2)
    else .ok [low, high]
  | _ => .error .outOfBounds

/-- The phases of the extrema. -/
def phases (e : Extrema) : Phases α where
  initSpatial := .ofVector clear
  observe samples := .ofVector (e.observe samples)
  completeSpatial _ := .skip
  initTemporal := .ofVector clear
  addPass pass _ := .ofVector (addPass pass)
  completeTemporal _ := .skip
  output := output

end Extrema

end EarthBins
