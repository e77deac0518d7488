/-
Statistics of one variable agree.

Extrema, average and percentile of one variable are computed apart: with
different weights, different divisors and different ideas of an empty pass.
In exact arithmetic all three are about the same values, those samples of
the variable that are not NaN.

# Shape of the argument

- The extrema are the least and the greatest of the values
  (`Extrema.ofRun_eq`).
- The average is that of all values, each with its weight: a pass of `n`
  values gives each of them `n ^ c / n` (`Average.ofRun_eq`). So the mean
  lies between the extrema, and the radicand of the standard deviation is
  the weighted mean of squared distances (`Weights.variance_eq`).
- The percentile is one of the means of the passes, or lies between two of
  them, and a mean of values lies between their extrema
  (`percentileOf_between`).
-/
import EarthBins.Proofs.Panel.Isolation
import EarthBins.Proofs.Statistic.PassMeans
import EarthBins.Proofs.Statistic.Range
import EarthBins.Proofs.Statistic.Reductions
import Mathlib

namespace EarthBins

open Scalar Outcome Exact

-- ======================================================= weighted values

/-- Sums over values with weights. -/
def weightedSum (f : ℝ → ℝ) (values : List (ℝ × ℝ)) : ℝ :=
  (values.map fun value => value.1 * f value.2).sum

namespace Weights

variable {values : List (ℝ × ℝ)} {low high : ℝ}

theorem weightedSum_append (f : ℝ → ℝ) (values more : List (ℝ × ℝ)) :
    weightedSum f (values ++ more)
      = weightedSum f values + weightedSum f more := by
  rw [weightedSum, List.map_append, List.sum_append]
  rfl

/-- Values of one weight. -/
theorem weightedSum_map (f : ℝ → ℝ) (weight : ℝ) (xs : List ℝ) :
    weightedSum f (xs.map fun x => (weight, x)) = weight * (xs.map f).sum := by
  rw [weightedSum, List.map_map, ← List.sum_map_mul_left]
  rfl

theorem weightedSum_nonneg {f : ℝ → ℝ}
    (positive : ∀ value ∈ values, 0 ≤ value.1) (h : ∀ x, 0 ≤ f x) :
    0 ≤ weightedSum f values := by
  refine List.sum_nonneg ?_
  intro y hy
  obtain ⟨value, hvalue, rfl⟩ := List.mem_map.mp hy
  exact mul_nonneg (positive value hvalue) (h value.2)

theorem weightedSum_le {f g : ℝ → ℝ}
    (positive : ∀ value ∈ values, 0 ≤ value.1)
    (h : ∀ value ∈ values, f value.2 ≤ g value.2) :
    weightedSum f values ≤ weightedSum g values := by
  refine List.sum_le_sum ?_
  intro value hvalue
  exact mul_le_mul_of_nonneg_left (h value hvalue) (positive value hvalue)

theorem weightedSum_const (a : ℝ) (values : List (ℝ × ℝ)) :
    weightedSum (fun _ => a) values = a * weightedSum (fun _ => 1) values := by
  rw [weightedSum, weightedSum, ← List.sum_map_mul_left]
  simp only [mul_one, mul_comm a]

/-- Squared distances, multiplied out. -/
theorem weightedSum_sub_sq (m : ℝ) (values : List (ℝ × ℝ)) :
    weightedSum (fun x => (x - m) ^ 2) values
      = weightedSum (fun x => x * x) values
        - 2 * m * weightedSum (fun x => x) values
        + m * m * weightedSum (fun _ => 1) values := by
  induction values with
  | nil => simp [weightedSum]
  | cons value values ih =>
      simp only [weightedSum, List.map_cons, List.sum_cons] at ih ⊢
      rw [ih]
      ring

/-- The weighted mean of values between bounds lies between them. -/
theorem mean_between (positive : ∀ value ∈ values, 0 ≤ value.1)
    (total : 0 < weightedSum (fun _ => 1) values)
    (low_le : ∀ value ∈ values, low ≤ value.2)
    (le_high : ∀ value ∈ values, value.2 ≤ high) :
    low ≤ weightedSum (fun x => x) values / weightedSum (fun _ => 1) values
    ∧ weightedSum (fun x => x) values / weightedSum (fun _ => 1) values
      ≤ high := by
  rw [le_div_iff₀ total, div_le_iff₀ total, ← weightedSum_const,
    ← weightedSum_const]
  exact ⟨weightedSum_le positive low_le, weightedSum_le positive le_high⟩

/-- The mean of squares less the square of the mean is the mean of squared
distances from the mean. -/
theorem variance_eq (total : 0 < weightedSum (fun _ => 1) values) {m : ℝ}
    (mean : m = weightedSum (fun x => x) values
      / weightedSum (fun _ => 1) values) :
    weightedSum (fun x => x * x) values / weightedSum (fun _ => 1) values
        - m * m
      = weightedSum (fun x => (x - m) ^ 2) values
        / weightedSum (fun _ => 1) values := by
  have sum : weightedSum (fun x => x) values
      = m * weightedSum (fun _ => 1) values := by
    rw [mean, div_mul_cancel₀ _ total.ne']
  rw [weightedSum_sub_sq, sum]
  field_simp
  ring

/-- The mean of squares is not below the square of the mean. -/
theorem variance_nonneg (positive : ∀ value ∈ values, 0 ≤ value.1)
    (total : 0 < weightedSum (fun _ => 1) values) {m : ℝ}
    (mean : m = weightedSum (fun x => x) values
      / weightedSum (fun _ => 1) values) :
    0 ≤ weightedSum (fun x => x * x) values / weightedSum (fun _ => 1) values
      - m * m := by
  rw [variance_eq total mean]
  exact div_nonneg (weightedSum_nonneg positive fun x => sq_nonneg _) total.le

end Weights

-- ============================================================== extrema

namespace Extrema

theorem neg_infinity_lt_real (a : ℝ) : (-infinity : Exact) < real a :=
  Exact.lt_iff.mpr
    ⟨Exact.infinite_ne_nan _, Exact.real_ne_nan a, EReal.bot_lt_coe a⟩

/-- Whether an exact number is the first of some real numbers in an order,
or stands for none. -/
def FirstOf (order : ℝ → ℝ → Prop) (none : Exact) (xs : List ℝ)
    (e : Exact) : Prop :=
  (xs = [] ∧ e = none) ∨ ∃ m ∈ xs, e = real m ∧ ∀ x ∈ xs, order m x

/-- The least of some real numbers. -/
def Least : List ℝ → Exact → Prop := FirstOf (· ≤ ·) infinity

/-- The greatest of some real numbers. -/
def Greatest : List ℝ → Exact → Prop := FirstOf (· ≥ ·) (-infinity)

theorem compared_map_real (xs : List ℝ) :
    ∀ v ∈ xs.map real, isNaN v = false := by
  intro v hv
  obtain ⟨x, -, rfl⟩ := List.mem_map.mp hv
  exact isNaN_real x

/-- A pass shows the extrema of its values. -/
theorem ofPass_eq (extrema : Extrema) (xs : List ℝ) :
    Least xs ((extrema.reduction (α := Exact)).ofPass (xs.map real)).1
    ∧ Greatest xs
      ((extrema.reduction (α := Exact)).ofPass (xs.map real)).2 := by
  by_cases nonempty : xs = []
  · subst nonempty
    exact ⟨Or.inl ⟨rfl, rfl⟩, Or.inl ⟨rfl, rfl⟩⟩
  · obtain ⟨low_mem, high_mem, low_le, le_high⟩ :=
      extrema.isRange_ofPass (compared_map_real xs)
        (mt List.map_eq_nil_iff.mp nonempty)
    obtain ⟨m, hm, low⟩ := List.mem_map.mp low_mem
    obtain ⟨m', hm', high⟩ := List.mem_map.mp high_mem
    refine ⟨Or.inr ⟨m, hm, low.symm, ?_⟩, Or.inr ⟨m', hm', high.symm, ?_⟩⟩
    · intro x hx
      have le := low_le (real x) (List.mem_map_of_mem hx)
      rwa [← low, real_le] at le
    · intro x hx
      have le := le_high (real x) (List.mem_map_of_mem hx)
      rwa [← high, real_le] at le

/-- A run shows the extrema of all values. -/
theorem ofRun_eq (extrema : Extrema) (passes : List (List ℝ)) :
    Least passes.flatten
      ((extrema.reduction (α := Exact)).ofRun (passes.map (·.map real))).1
    ∧ Greatest passes.flatten
      ((extrema.reduction (α := Exact)).ofRun (passes.map (·.map real))).2 := by
  have compared := compared_map_real passes.flatten
  rw [List.map_flatten] at compared
  rw [extrema.ofRun_eq_ofPass compared, ← List.map_flatten]
  exact extrema.ofPass_eq passes.flatten

end Extrema

-- ============================================================== average

namespace Exact

/-- The power of a positive number is that of the real numbers. -/
theorem pow_real {x : ℝ} (positive : 0 < x) (y : ℝ) :
    Scalar.pow (real x) (real y) = real (x ^ y) := by
  show Exact.pow (real x) (real y) = _
  unfold Exact.pow
  split
  · rename_i one
    rcases one with zero | one
    · cases zero
      rw [Real.rpow_zero]
    · cases one
      rw [Real.one_rpow]
  · dsimp only
    rw [if_neg positive.ne', if_neg fun negative => positive.not_gt negative.1]

/-- The larger one of a real number and zero. -/
theorem maximum_real (x : ℝ) : maximum (real x) 0 = real (max x 0) := by
  have notNaN : ¬ isNaN (real x) = true := by
    rw [isNaN_real]
    nofun
  rw [maximum, if_neg notNaN]
  by_cases negative : x < 0
  · rw [if_pos (by simpa using negative), max_eq_right negative.le]
    simp
  · rw [if_neg (by simpa using negative), max_eq_left (not_lt.mp negative)]

end Exact

theorem foldl_add_real (xs : List ℝ) :
    (xs.map real).foldl (· + ·) 0 = real xs.sum := by
  induction xs using List.reverseRecOn with
  | nil => simp
  | append_singleton xs x ih =>
      rw [List.map_append, List.foldl_append, ih]
      simp

/-- The sums of real numbers. -/
theorem Sums.foldl_real (xs : List ℝ) :
    (xs.map real).foldl Sums.add .zero
      = ⟨real xs.sum, real (xs.map fun x => x * x).sum, real xs.length⟩ := by
  induction xs using List.reverseRecOn with
  | nil =>
      show (⟨0, 0, 0⟩ : Sums Exact) = _
      simp
  | append_singleton xs x ih =>
      rw [List.map_append, List.foldl_append, ih]
      simp [Sums.add]

namespace Average

/-- The values of a pass, each with its part of the weight of the pass. -/
noncomputable def weightedValues (c : ℝ) (xs : List ℝ) : List (ℝ × ℝ) :=
  xs.map fun x => ((xs.length : ℝ) ^ c / xs.length, x)

theorem weightedSum_weightedValues (f : ℝ → ℝ) (c : ℝ) (xs : List ℝ) :
    weightedSum f (weightedValues c xs)
      = (xs.map f).sum / xs.length * (xs.length : ℝ) ^ c := by
  rw [weightedValues, Weights.weightedSum_map]
  ring

theorem length_weightedValues (c : ℝ) (xs : List ℝ) :
    (weightedValues c xs).length = xs.length :=
  List.length_map _

theorem ofPass_eq (a : Average Exact) (xs : List ℝ) :
    a.reduction.ofPass (xs.map real)
      = ⟨real xs.sum, real (xs.map fun x => x * x).sum, real xs.length⟩ :=
  Sums.foldl_real xs

/-- The sums over weighted values in the place of those that a run keeps. -/
noncomputable def sumsOf (values : List (ℝ × ℝ)) : Weighed Exact :=
  ⟨real (weightedSum (fun x => x) values),
    real (weightedSum (fun x => x * x) values),
    real (weightedSum (fun _ => 1) values), real values.length⟩

/-- A pass with values, completed and added. -/
theorem weigh_completed {a : Average Exact} {c : ℝ}
    (hc : a.weightCoeff = real c) {xs : List ℝ} (nonempty : xs ≠ [])
    (values : List (ℝ × ℝ)) :
    a.weigh (sumsOf values) (completed
        ⟨real xs.sum, real (xs.map fun x => x * x).sum, real xs.length⟩)
      = sumsOf (values ++ weightedValues c xs) := by
  have positive : (0 : ℝ) < xs.length :=
    Nat.cast_pos.mpr (List.length_pos_iff.mpr nonempty)
  have weight : (xs.map fun _ => (1 : ℝ)).sum / xs.length
      * (xs.length : ℝ) ^ c = (xs.length : ℝ) ^ c := by
    rw [List.map_const', List.sum_replicate, nsmul_one,
      div_self positive.ne', one_mul]
  have means : completed
      ⟨real xs.sum, real (xs.map fun x => x * x).sum, real xs.length⟩
        = ⟨real (xs.sum / xs.length),
          real ((xs.map fun x => x * x).sum / xs.length), real xs.length⟩ := by
    simp [completed, positive, positive.ne']
  rw [means, sumsOf, sumsOf, Weights.weightedSum_append,
    Weights.weightedSum_append, Weights.weightedSum_append,
    weightedSum_weightedValues, weightedSum_weightedValues,
    weightedSum_weightedValues, weight, List.map_id', List.length_append,
    length_weightedValues, Nat.cast_add]
  simp [weigh, hc, positive, Exact.pow_real positive]

/-- A run shows the sums over all values with their weights. -/
theorem ofRun_eq {a : Average Exact} {c : ℝ} (hc : a.weightCoeff = real c)
    (passes : List (List ℝ)) :
    a.reduction.ofRun (passes.map (·.map real))
      = sumsOf (passes.flatMap (weightedValues c)) := by
  induction passes using List.reverseRecOn with
  | nil =>
      show (⟨0, 0, 0, 0⟩ : Weighed Exact) = _
      simp [sumsOf, weightedSum]
  | append_singleton passes xs ih =>
      rw [Reduction.ofRun, List.map_append, List.foldl_append,
        List.flatMap_append, List.flatMap_singleton]
      show a.weigh (a.reduction.ofRun (passes.map (·.map real)))
        (completed (a.reduction.ofPass (xs.map real))) = _
      rw [ih, a.ofPass_eq]
      by_cases nonempty : xs = []
      · subst nonempty
        simp [completed, weigh, Exact.lt_iff, weightedValues]
      · exact weigh_completed hc nonempty _

/-- The output of real sums. -/
theorem output_sumsOf {values : List (ℝ × ℝ)}
    (total : 0 < weightedSum (fun _ => 1) values) {m : ℝ}
    (mean : m = weightedSum (fun x => x) values
      / weightedSum (fun _ => 1) values)
    (radicand : 0 ≤ weightedSum (fun x => x * x) values
      / weightedSum (fun _ => 1) values - m * m) :
    output (sumsOf values).vector
      = .ok [real m, real √(weightedSum (fun x => x * x) values
          / weightedSum (fun _ => 1) values - m * m), real values.length] := by
  have positive : (0 : Exact) < real (weightedSum (fun _ => 1) values) := by
    simpa using total
  rw [sumsOf, Weighed.vector, output, if_pos positive]
  simp only [FeatureVector.value_eq_ok_iff.mpr (List.getElem?_cons_zero ..),
    ok_bind]
  rw [real_div _ _ total.ne', real_div _ _ total.ne', ← mean, real_mul,
    real_sub, maximum_real, max_eq_left radicand, sqrt_real radicand]
  rfl

end Average

-- =========================================================== percentile

/-- The rank of a percentile among some values, counted from one. -/
noncomputable def rankOf (percentage count : Nat) : ℝ :=
  percentage / 100 * (count - 1 : ℕ) + 1

theorem one_le_rankOf (percentage count : Nat) :
    1 ≤ rankOf percentage count := by
  unfold rankOf
  have : (0 : ℝ) ≤ percentage / 100 * (count - 1 : ℕ) := by positivity
  linarith

/-- A percentile stands at one of the ends, or between two ranks that are
there. -/
theorem percentileOf_cases (percentage : Nat) {sorted : List Exact}
    (nonempty : sorted ≠ []) :
    (rankOf percentage sorted.length = 1
      ∧ ∃ first, sorted[0]? = some first
        ∧ percentileOf percentage sorted = .ok first)
    ∨ (sorted.length ≤ rankOf percentage sorted.length
      ∧ ∃ last, sorted[sorted.length - 1]? = some last
        ∧ percentileOf percentage sorted = .ok last)
    ∨ (1 < rankOf percentage sorted.length
      ∧ rankOf percentage sorted.length < sorted.length
      ∧ ∃ below above,
        sorted[⌊rankOf percentage sorted.length⌋₊ - 1]? = some below
        ∧ sorted[⌊rankOf percentage sorted.length⌋₊]? = some above
        ∧ percentileOf percentage sorted = .ok (below
          + real (rankOf percentage sorted.length
              - ⌊rankOf percentage sorted.length⌋₊)
            * (above - below))) := by
  have count : 0 < sorted.length := List.length_pos_iff.mpr nonempty
  have slot (i : Nat) (hi : i < sorted.length) :
      ∃ x, sorted[i]? = some x ∧ FeatureVector.value sorted i = .ok x :=
    ⟨_, List.getElem?_eq_getElem hi, FeatureVector.value_eq_ok sorted hi⟩
  have hrank : (ofNat percentage / 100 * ofNat (sorted.length - 1) + 1 : Exact)
      = real (rankOf percentage sorted.length) := by
    simp [rankOf]
  have low := one_le_rankOf percentage sorted.length
  generalize rankOf percentage sorted.length = rank at hrank low ⊢
  unfold percentileOf
  rw [if_neg count.ne', hrank]
  dsimp only
  by_cases lowest : real rank ≤ 1
  · rw [if_pos lowest]
    exact Or.inl ⟨le_antisymm (by simpa using lowest) low, slot 0 count⟩
  rw [if_neg lowest]
  by_cases highest : ofNat sorted.length ≤ real rank
  · rw [if_pos highest]
    exact Or.inr (Or.inl ⟨by simpa using highest, slot _ (by omega)⟩)
  rw [if_neg highest]
  have inside : Scalar.toNat (real rank) < sorted.length :=
    LawfulIndex.toNat_lt count highest
  rw [toNat_real] at inside ⊢
  obtain ⟨below, hbelow, value⟩ := slot (⌊rank⌋₊ - 1) (by omega)
  obtain ⟨above, habove, value'⟩ := slot ⌊rank⌋₊ inside
  refine Or.inr (Or.inr ⟨by simpa using lowest, by simpa using highest, below,
    above, hbelow, habove, ?_⟩)
  rw [value, ok_bind, value', ok_bind, ofNat_eq, real_sub]
  rfl

/-- A percentile of real numbers between bounds lies between them. -/
theorem percentileOf_between (percentage : Nat) {sorted : List Exact}
    {low high : ℝ} (nonempty : sorted ≠ [])
    (h : ∀ e ∈ sorted, ∃ x, e = real x ∧ low ≤ x ∧ x ≤ high) :
    ∃ x, percentileOf percentage sorted = .ok (real x)
      ∧ low ≤ x ∧ x ≤ high := by
  obtain ⟨-, e, he, made⟩ | ⟨-, e, he, made⟩
      | ⟨lowest, -, e, e', he, he', made⟩ :=
    percentileOf_cases percentage nonempty
  · obtain ⟨x, rfl, between⟩ := h e (List.mem_of_getElem? he)
    exact ⟨x, made, between⟩
  · obtain ⟨x, rfl, between⟩ := h e (List.mem_of_getElem? he)
    exact ⟨x, made, between⟩
  · obtain ⟨below, rfl, below_low, below_high⟩ :=
      h e (List.mem_of_getElem? he)
    obtain ⟨above, rfl, above_low, above_high⟩ :=
      h e' (List.mem_of_getElem? he')
    generalize rankOf percentage sorted.length = rank at lowest made
    have whole : (⌊rank⌋₊ : ℝ) ≤ rank := Nat.floor_le (by linarith)
    have next : rank < ⌊rank⌋₊ + 1 := Nat.lt_floor_add_one rank
    refine ⟨below + (rank - ⌊rank⌋₊) * (above - below), ?_, ?_, ?_⟩
    · rw [made, real_sub, real_mul, real_add]
    · nlinarith
    · nlinarith

/-- The mean of real numbers between bounds lies between them. -/
theorem mean_between {xs : List ℝ} {low high : ℝ} (nonempty : xs ≠ [])
    (h : ∀ x ∈ xs, low ≤ x ∧ x ≤ high) :
    low ≤ xs.sum / xs.length ∧ xs.sum / xs.length ≤ high := by
  have positive : (0 : ℝ) < xs.length :=
    Nat.cast_pos.mpr (List.length_pos_iff.mpr nonempty)
  have above := List.card_nsmul_le_sum xs low fun x hx => (h x hx).1
  have below := List.sum_le_card_nsmul xs high fun x hx => (h x hx).2
  rw [nsmul_eq_mul] at above below
  rw [le_div_iff₀ positive, div_le_iff₀ positive]
  constructor
  · linarith
  · linarith

-- ========================================================= one variable

/-- The sample of a slot, if it is a real number. -/
def realAt (slot : Nat) (samples : List Exact) : Option ℝ :=
  match samples[slot]? with
  | some (real x) => some x
  | _ => none

/-- The samples of a slot in a pass that are real numbers. -/
noncomputable def valuesOf (slot : Nat) (pass : PassSamples Exact) : List ℝ :=
  pass.samples.filterMap (realAt slot)

/-- Whether the samples of all vectors are real numbers or NaN. -/
def RealOrNaN (passes : List (PassSamples Exact)) : Prop :=
  ∀ pass ∈ passes, ∀ samples ∈ pass.samples, ∀ x ∈ samples,
    x = Exact.nan ∨ ∃ r, x = real r

/-- The samples of a slot in all passes, NaN among them. -/
def samplesAt {α : Type} (slot : Nat) (passes : List (PassSamples α)) :
    List α :=
  (passes.flatMap (·.samples)).filterMap (·[slot]?)

/-- Whether the samples of a slot are real numbers or NaN. -/
def RealOrNaNAt (slot : Nat) (passes : List (PassSamples Exact)) : Prop :=
  ∀ x ∈ samplesAt slot passes, x = Exact.nan ∨ ∃ r, x = real r

variable {slot : Nat} {passes : List (PassSamples Exact)}

theorem mem_samplesAt {α : Type} {passes : List (PassSamples α)} {x : α} :
    x ∈ samplesAt slot passes
      ↔ ∃ pass ∈ passes, ∃ samples ∈ pass.samples, samples[slot]? = some x := by
  unfold samplesAt
  simp only [List.mem_filterMap, List.mem_flatMap]
  exact ⟨fun ⟨samples, ⟨pass, hpass, here⟩, hx⟩ =>
      ⟨pass, hpass, samples, here, hx⟩,
    fun ⟨pass, hpass, samples, here, hx⟩ =>
      ⟨samples, ⟨pass, hpass, here⟩, hx⟩⟩

theorem RealOrNaN.atSlot (h : RealOrNaN passes) (slot : Nat) :
    RealOrNaNAt slot passes := by
  intro x hx
  obtain ⟨pass, hpass, samples, hsamples, hx⟩ := mem_samplesAt.mp hx
  exact h pass hpass samples hsamples x (List.mem_of_getElem? hx)

theorem usable_eq {samples : List Exact}
    (h : ∀ x, samples[slot]? = some x → x = Exact.nan ∨ ∃ r, x = real r) :
    usable slot samples = (realAt slot samples).map real := by
  unfold usable realAt
  cases hx : samples[slot]? with
  | none => rfl
  | some x =>
      rcases h x hx with rfl | ⟨r, rfl⟩
      · simp
      · simp

/-- What is read in a pass are its values. -/
theorem filterMap_usable (h : RealOrNaNAt slot passes)
    {pass : PassSamples Exact} (hpass : pass ∈ passes) :
    pass.samples.filterMap (usable slot)
      = (valuesOf slot pass).map real := by
  rw [valuesOf, List.map_filterMap]
  exact List.filterMap_congr fun samples hsamples => usable_eq fun x hx =>
    h x (mem_samplesAt.mpr ⟨pass, hpass, samples, hsamples, hx⟩)

/-- The readings of the variable are its values. -/
theorem readings_eq (h : RealOrNaNAt slot passes) :
    passes.map (fun pass => pass.samples.filterMap (usable slot))
      = (passes.map (valuesOf slot)).map (·.map real) := by
  rw [List.map_map]
  exact List.map_congr_left fun pass hpass => filterMap_usable h hpass

/-- The values that are weighted are the values. -/
theorem mem_flatten_of_mem_weighted {c : ℝ} {passes : List (List ℝ)}
    {value : ℝ × ℝ} (h : value ∈ passes.flatMap (Average.weightedValues c)) :
    0 < value.1 ∧ value.2 ∈ passes.flatten := by
  obtain ⟨xs, hxs, hvalue⟩ := List.mem_flatMap.mp h
  obtain ⟨x, hx, rfl⟩ := List.mem_map.mp hvalue
  have positive : (0 : ℝ) < xs.length :=
    Nat.cast_pos.mpr (List.length_pos_of_mem hx)
  exact ⟨div_pos (Real.rpow_pos_of_pos positive c) positive,
    List.mem_flatten_of_mem hxs hx⟩

theorem length_weighted (c : ℝ) (passes : List (List ℝ)) :
    (passes.flatMap (Average.weightedValues c)).length
      = passes.flatten.length := by
  rw [List.length_flatMap, List.length_flatten]
  simp only [Average.length_weightedValues]

theorem total_pos {c : ℝ} {passes : List (List ℝ)}
    (nonempty : passes.flatten ≠ []) :
    0 < weightedSum (fun _ => 1)
      (passes.flatMap (Average.weightedValues c)) := by
  have filled : passes.flatMap (Average.weightedValues c) ≠ [] := by
    rw [← List.length_pos_iff, length_weighted, List.length_pos_iff]
    exact nonempty
  refine List.sum_pos _ ?_ (mt List.map_eq_nil_iff.mp filled)
  intro y hy
  obtain ⟨value, hvalue, rfl⟩ := List.mem_map.mp hy
  rw [mul_one]
  exact (mem_flatten_of_mem_weighted hvalue).1

namespace Statistic

/-- The extrema of real numbers or NaN. -/
theorem cycle_extrema {name : String}
    (fits : (extrema ⟨name, slot⟩ : Statistic Exact).Fits passes)
    (realOrNaN : RealOrNaN passes)
    (nonempty : (passes.map (valuesOf slot)).flatten ≠ []) :
    ∃ least greatest : ℝ,
      (∀ x ∈ (passes.map (valuesOf slot)).flatten,
        least ≤ x ∧ x ≤ greatest)
      ∧ ∀ bin numObs, (extrema ⟨name, slot⟩).cycle bin passes numObs
        = .ok [real least, real greatest] := by
  obtain ⟨least, greatest⟩ :=
    Extrema.ofRun_eq ⟨name, slot⟩ (passes.map (valuesOf slot))
  obtain ⟨m, hm, hleast, least_le⟩ :=
    least.resolve_left fun h => nonempty h.1
  obtain ⟨m', -, hgreatest, le_greatest⟩ :=
    greatest.resolve_left fun h => nonempty h.1
  refine ⟨m, m', fun x hx => ⟨least_le x hx, le_greatest x hx⟩, ?_⟩
  intro bin numObs
  have ordered : ¬ (real m' < real m ∨ isNaN (real m) = true) := by
    rw [real_lt, isNaN_real]
    exact fun h => h.elim (le_greatest m hm).not_gt nofun
  have run : (extrema ⟨name, slot⟩ : Statistic Exact).runVector bin passes
      numObs = .ok [real m, real m'] := by
    rw [(reducesTo (extrema ⟨name, slot⟩)).runVector_eq fits, ← hleast,
      ← hgreatest, ← readings_eq (realOrNaN.atSlot slot)]
    rfl
  rw [cycle, run, ok_bind]
  exact if_neg ordered

/-- The average of real numbers or NaN. -/
theorem runVector_average {name : String} {c : ℝ}
    (fits : (average ⟨name, slot, real c⟩ : Statistic Exact).Fits passes)
    (realOrNaN : RealOrNaNAt slot passes) (bin numObs : Nat) :
    (average ⟨name, slot, real c⟩).runVector bin passes numObs
      = .ok (Average.sumsOf ((passes.map (valuesOf slot)).flatMap
          (Average.weightedValues c))).vector := by
  rw [(reducesTo (average ⟨name, slot, real c⟩)).runVector_eq fits]
  show Except.ok (Average.Weighed.vector ((Average.reduction
    ⟨name, slot, real c⟩).ofRun (passes.map fun pass =>
      pass.samples.filterMap (usable slot)))) = _
  rw [readings_eq realOrNaN, Average.ofRun_eq rfl]

/-- The means that a percentile collects are those of the passes with
values. -/
theorem contributions_eq (realOrNaN : RealOrNaNAt slot passes) :
    passes.filterMap (Percentile.contribution slot)
      = ((passes.map (valuesOf slot)).filter (· ≠ [])).map
        fun xs => real (xs.sum / xs.length) := by
  rw [List.filter_map, List.map_map, ← List.filterMap_eq_map,
    List.filterMap_filter]
  refine List.filterMap_congr fun pass hpass => ?_
  rw [Percentile.contribution, Percentile.mean?,
    filterMap_usable realOrNaN hpass, foldl_add_real]
  by_cases nonempty : valuesOf slot pass = []
  · simp [nonempty]
  · have count : (valuesOf slot pass).length ≠ 0 :=
      mt List.length_eq_zero_iff.mp nonempty
    simp [nonempty, count, Option.filter_some]

/-- The percentile of the means of the passes with values, between the
bounds of the values. -/
theorem percentileOf_means (percentage : Nat) {passes : List (List ℝ)}
    (nonempty : passes.flatten ≠ []) {low high : ℝ}
    (between : ∀ x ∈ passes.flatten, low ≤ x ∧ x ≤ high) :
    ∃ value, percentileOf percentage (((passes.filter (· ≠ [])).map
        fun xs => real (xs.sum / xs.length)).mergeSort Scalar.totalLE)
      = .ok (real value) ∧ low ≤ value ∧ value ≤ high := by
  refine percentileOf_between percentage ?_ ?_
  · obtain ⟨xs, hxs, filled⟩ : ∃ xs ∈ passes, xs ≠ [] := by
      by_contra h
      push Not at h
      exact nonempty (List.flatten_eq_nil_iff.mpr h)
    refine List.ne_nil_of_mem (List.mem_mergeSort.mpr
      (List.mem_map_of_mem (List.mem_filter.mpr ⟨hxs, ?_⟩)))
    exact decide_eq_true filled
  · intro e he
    obtain ⟨xs, hxs, rfl⟩ := List.mem_map.mp (List.mem_mergeSort.mp he)
    obtain ⟨hxs, filled⟩ := List.mem_filter.mp hxs
    exact ⟨_, rfl, mean_between (of_decide_eq_true filled) fun x hx =>
      between x (List.mem_flatten_of_mem hxs hx)⟩

/-- The percentile of real numbers or NaN between bounds. -/
theorem cycle_percentile {name : String} {percentage : Nat}
    (fits : (percentile ⟨name, slot, percentage⟩ : Statistic Exact).Fits
      passes)
    (realOrNaN : RealOrNaN passes)
    (nonempty : (passes.map (valuesOf slot)).flatten ≠ []) {low high : ℝ}
    (between : ∀ x ∈ (passes.map (valuesOf slot)).flatten,
      low ≤ x ∧ x ≤ high) :
    ∃ value, low ≤ value ∧ value ≤ high
      ∧ ∀ bin numObs, (percentile ⟨name, slot, percentage⟩).cycle bin
        passes numObs = .ok [real value] := by
  obtain ⟨value, hvalue, low_le, le_high⟩ :=
    percentileOf_means percentage nonempty between
  refine ⟨value, low_le, le_high, fun bin numObs => ?_⟩
  rw [cycle_percentile_eq fits, contributions_eq (realOrNaN.atSlot slot),
    hvalue, ok_bind, isNaN_real]
  rfl

/-- Number of the sample vectors whose sample of a slot is not NaN. -/
noncomputable def countOf (slot : Nat) (passes : List (PassSamples Exact)) :
    Nat :=
  (passes.flatMap (·.samples)).countP fun samples =>
    samples[slot]?.any fun x => !isNaN x

theorem countOf_eq (realOrNaN : RealOrNaNAt slot passes) :
    countOf slot passes = (passes.map (valuesOf slot)).flatten.length := by
  rw [countOf, List.countP_flatMap, List.length_flatten, List.map_map]
  refine congrArg List.sum (List.map_congr_left fun pass hpass => ?_)
  show _ = (pass.samples.filterMap (realAt slot)).length
  rw [List.length_filterMap_eq_countP]
  refine List.countP_congr fun samples hsamples => ?_
  unfold realAt
  cases hx : samples[slot]? with
  | none => simp
  | some x =>
      rcases realOrNaN x (mem_samplesAt.mpr
        ⟨pass, hpass, samples, hsamples, hx⟩) with rfl | ⟨r, rfl⟩
      · simp
      · simp

/-- The weighted values of passes. -/
noncomputable def weightedOf (c : ℝ) (slot : Nat)
    (passes : List (PassSamples Exact)) : List (ℝ × ℝ) :=
  (passes.map (valuesOf slot)).flatMap (Average.weightedValues c)

/-- The average of real numbers or NaN shows their weighted mean, the root of
the weighted variance and their number. -/
theorem cycle_average_eq {name : String} {c : ℝ}
    (fits : (average ⟨name, slot, real c⟩ : Statistic Exact).Fits passes)
    (realOrNaN : RealOrNaNAt slot passes)
    (nonempty : (passes.map (valuesOf slot)).flatten ≠ []) {mean : ℝ}
    (hmean : mean = weightedSum (fun x => x) (weightedOf c slot passes)
      / weightedSum (fun _ => 1) (weightedOf c slot passes))
    (bin numObs : Nat) :
    (average ⟨name, slot, real c⟩).cycle bin passes numObs
      = .ok [real mean,
        real √(weightedSum (fun x => x * x) (weightedOf c slot passes)
          / weightedSum (fun _ => 1) (weightedOf c slot passes)
          - mean * mean),
        real (countOf slot passes)] := by
  have total : 0 < weightedSum (fun _ => 1) (weightedOf c slot passes) :=
    total_pos nonempty
  have radicand := Weights.variance_nonneg
    (fun value hvalue => (mem_flatten_of_mem_weighted hvalue).1.le) total hmean
  rw [cycle, runVector_average fits realOrNaN, ok_bind, countOf_eq realOrNaN,
    ← length_weighted c]
  exact Average.output_sumsOf total hmean radicand

/-- The average of real numbers or NaN between bounds: its mean lies between
them, and its radicand is the weighted mean of squared distances. -/
theorem cycle_average {name : String} {c : ℝ}
    (fits : (average ⟨name, slot, real c⟩ : Statistic Exact).Fits passes)
    (realOrNaN : RealOrNaN passes)
    (nonempty : (passes.map (valuesOf slot)).flatten ≠ []) {low high : ℝ}
    (between : ∀ x ∈ (passes.map (valuesOf slot)).flatten,
      low ≤ x ∧ x ≤ high) (bin numObs : Nat) :
    ∃ mean sum squares weights : ℝ,
      (average ⟨name, slot, real c⟩).runVector bin passes numObs
        = .ok [real sum, real squares, real weights,
          real (countOf slot passes)]
      ∧ (average ⟨name, slot, real c⟩).cycle bin passes numObs
        = .ok [real mean, real √(squares / weights - mean * mean),
          real (countOf slot passes)]
      ∧ (low ≤ mean ∧ mean ≤ high) ∧ mean = sum / weights
      ∧ 0 ≤ squares / weights - mean * mean
      ∧ squares / weights - mean * mean
        = weightedSum (fun x => (x - mean) ^ 2) (weightedOf c slot passes)
          / weightedSum (fun _ => 1) (weightedOf c slot passes) := by
  have total : 0 < weightedSum (fun _ => 1) (weightedOf c slot passes) :=
    total_pos nonempty
  have weighted : ∀ value ∈ weightedOf c slot passes,
      0 ≤ value.1 ∧ low ≤ value.2 ∧ value.2 ≤ high := by
    intro value hvalue
    obtain ⟨positive, here⟩ := mem_flatten_of_mem_weighted hvalue
    exact ⟨positive.le, between _ here⟩
  have weights := fun value hvalue => (weighted value hvalue).1
  have inside := Weights.mean_between weights total
    (fun value hvalue => (weighted value hvalue).2.1)
    fun value hvalue => (weighted value hvalue).2.2
  refine ⟨_, _, _, _, ?_,
    cycle_average_eq fits (realOrNaN.atSlot slot) nonempty rfl bin numObs,
    inside, rfl, Weights.variance_nonneg weights total rfl,
    Weights.variance_eq total rfl⟩
  rw [runVector_average fits (realOrNaN.atSlot slot),
    countOf_eq (realOrNaN.atSlot slot), ← length_weighted c]
  rfl

-- ================================================== what is selected

section Selected

variable {known : List String} {name : String} {x : Statistic Exact}
  (hslot : requireVariable known name = .ok slot)
include hslot

theorem resolve_extrema
    (h : (StatisticSpec.extrema name).resolve known = .ok x) :
    x = extrema ⟨name, slot⟩ := by
  cases StatisticSpec.resolves_of_resolve h with
  | extrema found =>
      rw [hslot] at found
      cases found
      rfl

theorem resolve_average {weightCoeff : Exact}
    (h : (StatisticSpec.average name weightCoeff).resolve known = .ok x) :
    ∃ c, weightCoeff = real c ∧ x = average ⟨name, slot, real c⟩ := by
  cases StatisticSpec.resolves_of_resolve h with
  | average finite found =>
      obtain ⟨c, rfl⟩ := isFinite_eq_true_iff.mp finite
      rw [hslot] at found
      cases found
      exact ⟨c, rfl, rfl⟩

theorem resolve_percentile {percentage : UInt32}
    (h : (StatisticSpec.percentile name percentage).resolve known = .ok x) :
    x = percentile ⟨name, slot, percentage.toNat⟩ := by
  cases StatisticSpec.resolves_of_resolve h with
  | percentile range found =>
      rw [hslot] at found
      cases found
      rfl

/-- Vectors with a sample for every variable have that of the slot. -/
theorem fits_of_wide (wide : ∀ pass ∈ passes, ∀ samples ∈ pass.samples,
      samples.length = known.length) (hx : x.slots = [slot]) :
    x.Fits passes := by
  refine fits_of_slots_eq hx fun pass hpass samples hsamples => ?_
  rw [wide pass hpass samples hsamples]
  exact requireVariable_lt hslot

end Selected

/-- Extrema, average and percentile of one variable, over passes of samples
that are real numbers or NaN, not all of them NaN, and computed without
rounding: mean and percentile lie between the extrema, the average counts
all samples that are not NaN, and the radicand of its standard deviation is
not negative but the weighted mean of squared distances from the mean, where
a pass of `n` samples gives each of them the weight `n ^ c / n`. -/
theorem features_agree {known : List String} {name : String}
    {weightCoeff : Exact} {percentage : UInt32}
    {ofExtrema ofAverage ofPercentile : Statistic Exact}
    (hslot : requireVariable known name = .ok slot)
    (hextrema : (StatisticSpec.extrema name).resolve known = .ok ofExtrema)
    (haverage : (StatisticSpec.average name weightCoeff).resolve known
      = .ok ofAverage)
    (hpercentile : (StatisticSpec.percentile name percentage).resolve known
      = .ok ofPercentile)
    (wide : ∀ pass ∈ passes, ∀ samples ∈ pass.samples,
      samples.length = known.length)
    (realOrNaN : RealOrNaN passes) (counted : 0 < countOf slot passes)
    (bin numObs : Nat) :
    ∃ c least greatest mean sigma value sum squares weights : ℝ,
      weightCoeff = real c
      ∧ ofExtrema.cycle bin passes numObs = .ok [real least, real greatest]
      ∧ ofAverage.cycle bin passes numObs
        = .ok [real mean, real sigma, real (countOf slot passes)]
      ∧ ofPercentile.cycle bin passes numObs = .ok [real value]
      ∧ (least ≤ mean ∧ mean ≤ greatest)
      ∧ (least ≤ value ∧ value ≤ greatest)
      ∧ ofAverage.runVector bin passes numObs
        = .ok [real sum, real squares, real weights,
          real (countOf slot passes)]
      ∧ mean = sum / weights
      ∧ 0 ≤ squares / weights - mean * mean
      ∧ sigma = √(squares / weights - mean * mean)
      ∧ squares / weights - mean * mean
        = weightedSum (fun x => (x - mean) ^ 2) (weightedOf c slot passes)
          / weightedSum (fun _ => 1) (weightedOf c slot passes) := by
  obtain rfl := resolve_extrema hslot hextrema
  obtain ⟨c, rfl, rfl⟩ := resolve_average hslot haverage
  obtain rfl := resolve_percentile hslot hpercentile
  have nonempty : (passes.map (valuesOf slot)).flatten ≠ [] := by
    rw [← List.length_pos_iff, ← countOf_eq (realOrNaN.atSlot slot)]
    exact counted
  -- the extrema bound all values, and so what is between values
  obtain ⟨least, greatest, between, hleast⟩ :=
    cycle_extrema (fits_of_wide hslot wide rfl) realOrNaN nonempty
  obtain ⟨value, least_value, value_greatest, hvalue⟩ := cycle_percentile
    (fits_of_wide hslot wide rfl) realOrNaN nonempty between
  obtain ⟨mean, sum, squares, weights, run, out, inside, hmean, radicand,
    variance⟩ := cycle_average (fits_of_wide hslot wide rfl) realOrNaN
      nonempty between bin numObs
  exact ⟨c, least, greatest, mean, _, value, sum, squares, weights, rfl,
    hleast bin numObs, out, hvalue bin numObs, inside,
    ⟨least_value, value_greatest⟩, run, hmean, radicand, rfl, variance⟩

/-- Two passes of one variable, with two samples and NaN in one and one
sample in the other. -/
noncomputable def unevenPasses : List (PassSamples Exact) :=
  [⟨3, [[real 1], [.nan], [real 4]]⟩, ⟨1, [[real 7]]⟩]

/-- The uneven passes with the median and the weight one half. -/
theorem features_agree_unevenPasses :
    RealOrNaN unevenPasses ∧ 0 < countOf 0 unevenPasses
    ∧ ∃ least greatest mean sigma value : ℝ,
      (extrema ⟨"sst", 0⟩).cycle 5 unevenPasses 4
        = .ok [real least, real greatest]
      ∧ (average ⟨"sst", 0, half⟩).cycle 5 unevenPasses 4
        = .ok [real mean, real sigma, real (countOf 0 unevenPasses)]
      ∧ (percentile ⟨"sst", 0, 50⟩).cycle 5 unevenPasses 4
        = .ok [real value]
      ∧ (least ≤ mean ∧ mean ≤ greatest)
      ∧ (least ≤ value ∧ value ≤ greatest) := by
  have realOrNaN : RealOrNaN unevenPasses := by
    simp [RealOrNaN, unevenPasses]
  have counted : 0 < countOf 0 unevenPasses := by
    simp [countOf, unevenPasses]
  have slot : requireVariable ["sst"] "sst" = .ok 0 := rfl
  have finite : isFinite (half : Exact) = true := by
    rw [half_eq, isFinite_eq_true_iff]
    exact ⟨_, rfl⟩
  have haverage : (StatisticSpec.average "sst" (half : Exact)).resolve ["sst"]
      = .ok (average ⟨"sst", 0, half⟩) := by
    simp only [StatisticSpec.resolve, finite, slot]
    rfl
  have hextrema : (StatisticSpec.extrema "sst").resolve ["sst"]
      = .ok (extrema ⟨"sst", 0⟩ : Statistic Exact) := rfl
  have hpercentile : (StatisticSpec.percentile "sst" 50).resolve ["sst"]
      = .ok (percentile ⟨"sst", 0, 50⟩ : Statistic Exact) := rfl
  have wide : ∀ pass ∈ unevenPasses, ∀ samples ∈ pass.samples,
      samples.length = ["sst"].length := by
    simp [unevenPasses]
  obtain ⟨-, least, greatest, mean, sigma, value, -, -, -, -, hextrema,
    haverage, hpercentile, between, between', -⟩ :=
    features_agree slot hextrema haverage hpercentile wide realOrNaN counted
      5 4
  exact ⟨realOrNaN, counted, least, greatest, mean, sigma, value, hextrema,
    haverage, hpercentile, between, between'⟩

end Statistic

end EarthBins
