/-
Percentile of the pass means.

A pass contributes the mean of its samples, NaN not counted. Its sum is
kept in the spatial slot and the number of samples in the scratch storage.
The means of all passes are collected there as well; at the end they are
sorted and the percentile is read off.

The percentile `p` of `n` sorted values stands at the rank
`p / 100 · (n - 1) + 1`, counted from one. Between two ranks it is
interpolated linearly.
-/
import EarthBins.Statistic.Phases

namespace EarthBins

open Scalar

/-- The percentile of one variable. -/
structure Percentile where
  source : String
  slot : Nat
  percentage : Nat

/-- The percentile of a sorted list, NaN for an empty one. -/
def percentileOf {α : Type} [Scalar α] (percentage : Nat)
    (sorted : List α) : Except Error α :=
  let count := sorted.length
  if count = 0 then .ok nan
  else
    let rank : α := ofNat percentage / 100 * ofNat (count - 1) + 1
    if rank ≤ 1 then FeatureVector.value sorted 0
    else if ofNat count ≤ rank then FeatureVector.value sorted (count - 1)
    else do
      let whole := toNat rank
      let below ← FeatureVector.value sorted (whole - 1)
      let above ← FeatureVector.value sorted whole
      return below + (rank - ofNat whole) * (above - below)

namespace Percentile

/-- The percentage as names carry it. -/
def mark (p : Percentile) : String := s!"p{p.percentage}"

/-- The names of the features. -/
def names (p : Percentile) : FeatureNames :=
  .ofSuffixes p.source ["sum"] [p.mark] [p.mark]

/-- Storage name of the number of samples in the pass. -/
def countKey (p : Percentile) : String :=
  s!"percentile.{p.source}.{p.mark}.count"

/-- Storage name of the pass means. -/
def valuesKey (p : Percentile) : String :=
  s!"percentile.{p.source}.{p.mark}.values"

variable {α : Type} [Scalar α]

/-- Put a value into the first slot. -/
def store (x : α) : FeatureVector α → Except Error (FeatureVector α)
  | _ :: rest => .ok (x :: rest)
  | [] => .error .outOfBounds

/-- No sample yet. -/
def initSpatial (p : Percentile) : Phase α := fun scratch v =>
  return (scratch.put p.countKey (.count 0), ← store 0 v)

/-- Fold the samples of one observation. -/
def observe (p : Percentile) (samples : List α) : Phase α :=
  fun scratch v => do
    let x ← FeatureVector.value samples p.slot
    if isNaN x then return (scratch, v)
    let sum ← FeatureVector.value v 0
    return (scratch.increment p.countKey, ← store (sum + x) v)

/-- Turn the sum of a pass into its mean, NaN without a sample. -/
def completeSpatial (p : Percentile) : Phase α := fun scratch v => do
  let (count, scratch) := scratch.take? Entry.count? p.countKey
  let sum ← FeatureVector.value v 0
  let count := count.getD 0
  let mean := if count = 0 then nan else sum / ofNat count
  return (scratch, ← store mean v)

/-- No pass yet. -/
def initTemporal (p : Percentile) : Phase α := fun scratch v =>
  return (scratch.put p.valuesKey (.numbers #[]), ← store nan v)

/-- Collect the mean of a pass, unless it is NaN. -/
def addPass (p : Percentile) (pass : FeatureVector α) : Phase α :=
  fun scratch v => do
    let mean ← FeatureVector.value pass 0
    if isNaN mean then return (scratch, v)
    return (scratch.push p.valuesKey mean, v)

/-- The percentile of the means collected. -/
def completeTemporal (p : Percentile) : Phase α := fun scratch v => do
  let (means, scratch) := scratch.take? Entry.numbers? p.valuesKey
  let sorted := (means.getD #[]).toList.mergeSort totalLE
  return (scratch, ← store (← percentileOf p.percentage sorted) v)

/-- The percentile, or no data. -/
def output (v : FeatureVector α) : Except Error (FeatureVector α) := do
  let x ← FeatureVector.value v 0
  return [if isNaN x then nan else x]

/-- The phases of the percentile. -/
def phases (p : Percentile) : Phases α where
  initSpatial := p.initSpatial
  observe := p.observe
  completeSpatial _ := p.completeSpatial
  initTemporal := p.initTemporal
  addPass pass _ := p.addPass pass
  completeTemporal _ := p.completeTemporal
  output := output

end Percentile

end EarthBins
