/-
Weighted arithmetic mean and standard deviation.

A pass contributes the mean and the mean of squares of its samples, NaN
not counted. Passes are combined with the weight `n ^ c`, where `n` is the
number of samples that counted in the pass: `c = 0` gives every pass the
same weight, `c = 1` every sample. A pass without a sample that counts, or
whose mean is NaN, has no weight.

With `m` the weighted mean of the means and `q` that of the means of
squares the result is `m`, `√(q - m²)` and the number of samples. The
radicand cannot fall below zero but for rounding, and is kept from it.
-/
import EarthBins.Statistic.Moments

namespace EarthBins

open Scalar

/-- The average of one variable. -/
structure Average (α : Type) where
  source : String
  slot : Nat
  /-- Exponent of the pass weight. -/
  weightCoeff : α

namespace Average

variable {α : Type}

/-- The names of the features. -/
def names (a : Average α) : FeatureNames :=
  .ofSuffixes a.source ["sum", "sum_sq", "counts"]
    ["sum", "sum_sq", "weights", "counts"] ["mean", "sigma", "counts"]

variable [Scalar α]

/-- Fold the samples of one observation. -/
def observe (a : Average α) (samples : List α) (v : FeatureVector α) :
    Except Error (FeatureVector α) := do
  let x ← FeatureVector.value samples a.slot
  if isNaN x then return v
  Moments.add x v

/-- Turn the sums of a pass into means. -/
def completeSpatial : FeatureVector α → Except Error (FeatureVector α)
  | sum :: squares :: count :: rest =>
    if 0 < count then .ok (sum / count :: squares / count :: count :: rest)
    else .ok (nan :: nan :: count :: rest)
  | _ => .error .outOfBounds

/-- No pass yet. -/
def initTemporal : FeatureVector α → Except Error (FeatureVector α)
  | _ :: _ :: _ :: _ :: rest => .ok (0 :: 0 :: 0 :: 0 :: rest)
  | _ => .error .outOfBounds

/-- Add the weighted means of a pass. -/
def merge (a : Average α) (mean squares count : α) :
    FeatureVector α → Except Error (FeatureVector α)
  | sum :: sumSquares :: weights :: counts :: rest =>
    let weight := pow count a.weightCoeff
    .ok ((sum + mean * weight) :: (sumSquares + squares * weight)
      :: (weights + weight) :: (counts + count) :: rest)
  | _ => .error .outOfBounds

/-- Fold a completed pass. -/
def addPass (a : Average α) (pass v : FeatureVector α) :
    Except Error (FeatureVector α) :=
  match pass with
  | mean :: squares :: count :: _ =>
    if isNaN mean || !decide (0 < count) then .ok v
    else a.merge mean squares count v
  | _ => .error .outOfBounds

/-- Mean, standard deviation and number of samples. -/
def output (v : FeatureVector α) : Except Error (FeatureVector α) :=
  match v with
  | sum :: sumSquares :: weights :: rest =>
    if 0 < weights then do
      let counts ← FeatureVector.value rest 0
      let mean := sum / weights
      let variance := maximum (sumSquares / weights - mean * mean) 0
      return [mean, sqrt variance, counts]
    else .ok (FeatureVector.empty 3)
  | _ => .error .outOfBounds

/-- The phases of the average. -/
def phases (a : Average α) : Phases α where
  initSpatial := .ofVector Moments.clear
  observe samples := .ofVector (a.observe samples)
  completeSpatial _ := .ofVector completeSpatial
  initTemporal := .ofVector initTemporal
  addPass pass _ := .ofVector (a.addPass pass)
  completeTemporal _ := .skip
  output := output

end Average

end EarthBins
