/-
The extrema of a run are those of all its values.

Smallest and largest value are searched in each pass and then among the
passes, and the searches start from the two infinities in the wrong order.
A pass without a value hands the infinities on as they are, and they do not
widen any range. So a run is one search through the values of all passes
(`Extrema.ofRun_eq_ofPass`), however these are split.

# Infinite values

The infinities are values as well. A search that ends where it started has
seen no other value, for nothing else is as far out; if it has seen one at
all, the end of the range is a value nevertheless (`Extrema.isRange_ofPass`).
And the ends of the range of a value are never in the wrong order, so a run
without a value is the only one that is told from its ends.
-/
import EarthBins.Proofs.Statistic.Foremost
import EarthBins.Proofs.Statistic.Reductions

namespace EarthBins

open Scalar Outcome

namespace Extrema

variable {α : Type} [Scalar α]

/-- The values of a variable: its samples in all passes, from first to last,
without NaN. -/
def values (e : Extrema) (passes : List (PassSamples α)) : List α :=
  (passes.flatMap (·.samples)).filterMap (usable e.slot)

/-- Whether two numbers are the least and the greatest of some values. -/
structure IsRange (values : List α) (low high : α) : Prop where
  low_mem : low ∈ values
  high_mem : high ∈ values
  low_le : ∀ v ∈ values, low ≤ v
  le_high : ∀ v ∈ values, v ≤ high

/-- The values are what the readings of all passes are. -/
theorem flatten_readings (e : Extrema) (passes : List (PassSamples α)) :
    (passes.map e.reduction.readings).flatten = e.values passes :=
  e.reduction.flatten_readings passes

theorem isNaN_of_mem_values (e : Extrema) (passes : List (PassSamples α)) :
    ∀ v ∈ e.values passes, isNaN v = false := by
  intro v hv
  obtain ⟨samples, -, read⟩ := List.mem_filterMap.mp hv
  have kept := (Option.filter_eq_some_iff.mp read).2
  rwa [Bool.not_eq_true'] at kept

/-- The two ends of a range are searched side by side. -/
theorem ofPass_eq_search (e : Extrema) (values : List α) :
    e.reduction.ofPass values
      = (values.foldl lower infinity, values.foldl higher (-infinity)) :=
  List.foldl_hom₂ values Prod.mk lower higher _ _ _ fun _ _ _ => rfl

variable [OrderedScalar α]

/-- The search through the results of passes is one search. -/
theorem ofRun_eq_ofPass (e : Extrema) {passes : List (List α)}
    (compared : ∀ v ∈ passes.flatten, isNaN v = false) :
    e.reduction.ofRun passes = e.reduction.ofPass passes.flatten := by
  have low := foldl_better_passes ranks_lt.swap
    (LawfulScalar.isNaN_infinity (α := α)) compared
  have high := foldl_better_passes ranks_lt
    (LawfulScalar.isNaN_neg_infinity (α := α)) compared
  calc e.reduction.ofRun passes
      = (passes.foldl (fun least values =>
            lower least (values.foldl lower infinity)) infinity,
          passes.foldl (fun greatest values =>
            higher greatest (values.foldl higher (-infinity)))
            (-infinity)) := by
        refine List.foldl_hom₂ passes Prod.mk _ _ _ _ _ fun least greatest
          values => ?_
        rw [ofPass_eq_search]
    _ = (passes.flatten.foldl lower infinity,
          passes.flatten.foldl higher (-infinity)) :=
        Prod.ext low high
    _ = e.reduction.ofPass passes.flatten :=
        (e.ofPass_eq_search passes.flatten).symm

/-- A search through values ends at the least and the greatest of them. -/
theorem isRange_ofPass (e : Extrema) {values : List α}
    (compared : ∀ v ∈ values, isNaN v = false) (nonempty : values ≠ []) :
    IsRange values (e.reduction.ofPass values).1
      (e.reduction.ofPass values).2 := by
  have low := Foremost.foldl ranks_lt.swap
    (LawfulScalar.isNaN_infinity (α := α)) compared
  have high := Foremost.foldl ranks_lt
    (LawfulScalar.isNaN_neg_infinity (α := α)) compared
  have low_mem := low.mem_of_cons (fun v hv =>
    OrderedScalar.eq_infinity_of_not_lt (compared v hv)) nonempty
  have high_mem := high.mem_of_cons (fun v hv =>
    OrderedScalar.eq_neg_infinity_of_not_lt (compared v hv)) nonempty
  rw [ofPass_eq_search]
  refine ⟨low_mem, high_mem, ?_, ?_⟩
  · intro v hv
    exact SignedScalar.le_of_not_lt (compared v hv) (compared _ low_mem)
      (low.not_below ranks_lt.swap v (List.mem_cons_of_mem _ hv))
  · intro v hv
    exact SignedScalar.le_of_not_lt (compared _ high_mem) (compared v hv)
      (high.not_below ranks_lt v (List.mem_cons_of_mem _ hv))

/-- The ends of a range are not taken for those of no values. -/
theorem output_of_isRange {values : List α} {low high : α}
    (h : IsRange values low high) : output [low, high] = .ok [low, high] := by
  have compared : low ≤ low := h.low_le low h.low_mem
  have ordered : low ≤ high := h.le_high low h.low_mem
  refine if_neg ?_
  rintro (lt | isNaN)
  · exact SignedScalar.not_le_of_lt lt ordered
  · rw [Scalar.isNaN, decide_eq_true compared] at isNaN
    cases isNaN

/-- The two infinities in the wrong order are the ends of no values. -/
theorem output_infinities :
    output [(infinity : α), -infinity] = .ok [nan, nan] :=
  if_pos (Or.inl SignedScalar.neg_infinity_lt_infinity)

end Extrema

namespace Statistic

variable {e : Extrema}

/-- The output of a run is that of one search through all values. -/
theorem cycle_eq_output_ofPass {α : Type} [Scalar α] [OrderedScalar α]
    {passes : List (PassSamples α)} (fits : (extrema e).Fits passes)
    (bin numObs : Nat) :
    (extrema e).cycle bin passes numObs
      = Extrema.output [(e.reduction.ofPass (e.values passes)).1,
          (e.reduction.ofPass (e.values passes)).2] := by
  have compared : ∀ v ∈ (passes.map e.reduction.readings).flatten,
      isNaN v = false := by
    rw [e.flatten_readings]
    exact e.isNaN_of_mem_values passes
  have made : (extrema e).runVector bin passes numObs
      = e.reduction.finish (e.reduction.ofRun
          (passes.map e.reduction.readings)) :=
    (extrema e).reducesTo.runVector_eq fits bin numObs
  rw [e.ofRun_eq_ofPass compared, e.flatten_readings] at made
  rw [cycle, made]
  rfl

/-- The output of the extrema is the least and the greatest of the values of
all passes, or no data where there is no value; it is the same for all
splits of the values into passes. Values that are all the same, such as one
of the infinities, are their own least and greatest one. -/
theorem cycle_bounds_values {passes : List (PassSamples Float)}
    (fits : (extrema e).Fits passes) (bin numObs : Nat) :
    ((extrema e).cycle bin passes numObs
        = .ok [(extrema e).fillValue, (extrema e).fillValue]
      ↔ e.values passes = [])
    ∧ (e.values passes ≠ [] → ∃ low high,
      (extrema e).cycle bin passes numObs = .ok [low, high]
      ∧ Extrema.IsRange (e.values passes) low high)
    ∧ (∀ passes' : List (PassSamples Float), (extrema e).Fits passes' →
      e.values passes' = e.values passes → ∀ bin' numObs',
        (extrema e).cycle bin' passes' numObs'
          = (extrema e).cycle bin passes numObs)
    ∧ ∀ a, e.values passes ≠ [] → (∀ v ∈ e.values passes, v = a) →
      (extrema e).cycle bin passes numObs = .ok [a, a] := by
  have range : e.values passes ≠ [] → ∃ low high,
      (extrema e).cycle bin passes numObs = .ok [low, high]
      ∧ Extrema.IsRange (e.values passes) low high := by
    intro nonempty
    have isRange :=
      e.isRange_ofPass (e.isNaN_of_mem_values passes) nonempty
    refine ⟨_, _, ?_, isRange⟩
    rw [cycle_eq_output_ofPass fits]
    exact Extrema.output_of_isRange isRange
  refine ⟨⟨?_, ?_⟩, range, ?_, ?_⟩
  · intro fill
    by_contra nonempty
    obtain ⟨low, high, shown, isRange⟩ := range nonempty
    -- an end of the range is a value, and no value is NaN
    have notNaN := e.isNaN_of_mem_values passes low isRange.low_mem
    rw [shown] at fill
    cases fill
    rw [fillValue, LawfulScalar.isNaN_nan] at notNaN
    cases notNaN
  · intro none
    rw [cycle_eq_output_ofPass fits, none]
    exact Extrema.output_infinities
  · intro passes' fits' same bin' numObs'
    rw [cycle_eq_output_ofPass fits, cycle_eq_output_ofPass fits', same]
  · intro a nonempty all
    obtain ⟨low, high, shown, isRange⟩ := range nonempty
    rw [shown, all low isRange.low_mem, all high isRange.high_mem]

/-- A pass without a value, one with infinity twice, and one without an
observation. -/
def infinitePasses : List (PassSamples Float) :=
  [⟨1, [[nan, 0]]⟩, ⟨2, [[infinity, 1], [infinity, nan]]⟩, ⟨0, []⟩]

/-- Infinity that is the only value is reported, and not taken for no
data. -/
theorem cycle_bounds_values_infinite :
    (extrema ⟨"sst", 0⟩).Fits infinitePasses
    ∧ (extrema ⟨"sst", 0⟩).cycle 7 infinitePasses 3
      = .ok [(infinity : Float), infinity]
    ∧ (extrema ⟨"sst", 0⟩).cycle 7 infinitePasses 3
      ≠ .ok [(nan : Float), nan] := by
  have fits : (extrema ⟨"sst", 0⟩).Fits infinitePasses := by
    unfold Fits
    decide
  have values : Extrema.values ⟨"sst", 0⟩ infinitePasses
      = [infinity, infinity] := by
    rfl
  obtain ⟨fill, -, -, only⟩ := cycle_bounds_values fits 7 3
  rw [values] at fill only
  refine ⟨fits, only infinity (by simp) (by simp), ?_⟩
  exact fun none => List.cons_ne_nil _ _ (fill.mp none)

end Statistic

end EarthBins
