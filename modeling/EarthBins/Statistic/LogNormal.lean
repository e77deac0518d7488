/-
Average of log-normally distributed samples.

A pass gathers the sum and the sum of squares of `ln x` over the `n`
samples that have a finite logarithm, and completes by dividing both by
`√n`. Passes are then merged by plain addition, which amounts to a mean of
the pass means with weight `√n`. With `μ` that mean and `σ²` the variance
in the domain of the logarithms the result is

    mean    exp (μ + σ² / 2)
    sigma   mean · √(exp σ² - 1)
    median  exp μ
    mode    exp (μ - σ²)
-/
import EarthBins.Statistic.Moments

namespace EarthBins

open Scalar

/-- The log-normal average of one variable. -/
structure LogNormal where
  source : String
  slot : Nat

namespace LogNormal

/-- The names of the features. -/
def names (a : LogNormal) : FeatureNames :=
  .ofSuffixes a.source ["sum", "sum_sq", "counts"]
    ["sum", "sum_sq", "weights"] ["mean", "sigma", "median", "mode"]

variable {α : Type} [Scalar α]

/-- Fold the samples of one observation. NaN, infinity and samples that are
not positive have no finite logarithm. -/
def observe (a : LogNormal) (samples : List α) (v : FeatureVector α) :
    Except Error (FeatureVector α) := do
  let x := log (← FeatureVector.value samples a.slot)
  if isFinite x then Moments.add x v else return v

/-- Scale the sums of a pass. -/
def completeSpatial : FeatureVector α → Except Error (FeatureVector α)
  | sum :: squares :: count :: rest =>
    if 0 < count then
      .ok (sum / sqrt count :: squares / sqrt count :: count :: rest)
    else .ok (sum :: squares :: count :: rest)
  | _ => .error .outOfBounds

/-- Add the scaled sums of a pass. -/
def merge (sum squares count : α) :
    FeatureVector α → Except Error (FeatureVector α)
  | sums :: sumSquares :: weights :: rest =>
    .ok ((sums + sum) :: (sumSquares + squares)
      :: (weights + sqrt count) :: rest)
  | _ => .error .outOfBounds

/-- Fold a completed pass. One without usable samples has no weight. -/
def addPass (pass v : FeatureVector α) :
    Except Error (FeatureVector α) :=
  match pass with
  | sum :: squares :: count :: _ =>
    if 0 < count then merge sum squares count v else .ok v
  | _ => .error .outOfBounds

/-- Mean, sigma, median and mode from the moments of the logarithms. -/
def ofMoments (mu variance : α) : FeatureVector α :=
  let mean := exp (mu + half * variance)
  [mean, mean * sqrt (exp variance - 1), exp mu, exp (mu - variance)]

/-- Mean, sigma, median and mode. -/
def output (v : FeatureVector α) : Except Error (FeatureVector α) :=
  match v with
  | sum :: squares :: weights :: _ =>
    if 0 < weights then
      let mu := sum / weights
      .ok (ofMoments mu (maximum (squares / weights - mu * mu) 0))
    else .ok (FeatureVector.empty 4)
  | _ => .error .outOfBounds

/-- The phases of the log-normal average. -/
def phases (a : LogNormal) : Phases α where
  initSpatial := .ofVector Moments.clear
  observe samples := .ofVector (a.observe samples)
  completeSpatial _ := .ofVector completeSpatial
  initTemporal := .ofVector Moments.clear
  addPass pass _ := .ofVector (addPass pass)
  completeTemporal _ := .skip
  output := output

end LogNormal

end EarthBins
