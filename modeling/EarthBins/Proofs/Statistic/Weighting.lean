/-
What a sample and a pass weigh in an average.

A pass of `n` samples gives its mean the weight `n ^ c`, so each of its
samples has the weight `n ^ c / n`. Both readings of the weights are in the
sums of a run: `weightedSum_weightedValues_flatMap` goes from samples to
passes.

# Every sample the same

With `c = 1` the weight of a sample is one, whatever its pass. The sums of a
run are then those of all samples at once (`Average.sumsOf_one`), and they
do not tell how the samples came in passes, nor in which order. With `c = 0`
it is the passes that have the weight one.
-/
import EarthBins.Proofs.Statistic.Agreement

namespace EarthBins

open Scalar Outcome Exact

-- ========================================================= values of a slot

/-- The values of a slot in all passes: its samples that are real numbers. -/
noncomputable def valuesIn (slot : Nat) (passes : List (PassSamples Exact)) :
    List ℝ :=
  (passes.map (valuesOf slot)).flatten

/-- The values of a slot, pass by pass, without the passes that have none. -/
noncomputable def filledPasses (slot : Nat)
    (passes : List (PassSamples Exact)) : List (List ℝ) :=
  (passes.map (valuesOf slot)).filter (· ≠ [])

/-- The mean of some values. -/
noncomputable def meanOf (xs : List ℝ) : ℝ := xs.sum / xs.length

/-- The real number that an exact number is. -/
def Exact.real? : Exact → Option ℝ
  | real x => some x
  | _ => none

section Values

variable {slot : Nat} {passes passes' : List (PassSamples Exact)}

/-- The values of a slot are the real ones of its samples. -/
theorem valuesIn_eq (slot : Nat) (passes : List (PassSamples Exact)) :
    valuesIn slot passes = (samplesAt slot passes).filterMap Exact.real? := by
  have realAt_eq (samples : List Exact) :
      realAt slot samples = samples[slot]?.bind Exact.real? := by
    unfold realAt Exact.real?
    cases samples[slot]? with
    | none => rfl
    | some x => cases x <;> rfl
  rw [valuesIn, samplesAt, List.filterMap_filterMap, List.filterMap_flatMap,
    List.flatMap_def]
  refine congrArg List.flatten (List.map_congr_left fun pass _ => ?_)
  exact List.filterMap_congr fun samples _ => realAt_eq samples

/-- Samples in another order have their values in another order. -/
theorem valuesIn_perm
    (perm : (samplesAt slot passes').Perm (samplesAt slot passes)) :
    (valuesIn slot passes').Perm (valuesIn slot passes) := by
  rw [valuesIn_eq, valuesIn_eq]
  exact perm.filterMap Exact.real?

theorem length_valuesIn (realOrNaN : RealOrNaNAt slot passes) :
    (valuesIn slot passes).length = Statistic.countOf slot passes :=
  (Statistic.countOf_eq realOrNaN).symm

theorem valuesIn_ne_nil (realOrNaN : RealOrNaNAt slot passes)
    (counted : 0 < Statistic.countOf slot passes) :
    valuesIn slot passes ≠ [] := by
  rw [← List.length_pos_iff, length_valuesIn realOrNaN]
  exact counted

end Values

-- ================================================================ weights

/-- Sums over the weighted values of passes are sums over the passes, each
with its mean and the weight of the pass. -/
theorem weightedSum_weightedValues_flatMap (f : ℝ → ℝ) (c : ℝ)
    (passes : List (List ℝ)) :
    weightedSum f (passes.flatMap (Average.weightedValues c))
      = ((passes.filter (· ≠ [])).map fun xs =>
          (xs.length : ℝ) ^ c * meanOf (xs.map f)).sum := by
  induction passes with
  | nil => rfl
  | cons xs passes ih =>
      rw [List.flatMap_cons, Weights.weightedSum_append, ih,
        Average.weightedSum_weightedValues]
      by_cases filled : xs ≠ []
      · rw [List.filter_cons, if_pos (decide_eq_true filled), List.map_cons,
          List.sum_cons, meanOf, List.length_map, mul_comm]
      · obtain rfl := not_ne_iff.mp filled
        simp

/-- The sum of the weights of passes. -/
theorem weightedSum_one (c : ℝ) (passes : List (List ℝ)) :
    weightedSum (fun _ => 1) (passes.flatMap (Average.weightedValues c))
      = ((passes.filter (· ≠ [])).map fun xs => (xs.length : ℝ) ^ c).sum := by
  rw [weightedSum_weightedValues_flatMap]
  refine congrArg List.sum (List.map_congr_left fun xs hxs => ?_)
  have filled : xs ≠ [] := of_decide_eq_true (List.mem_filter.mp hxs).2
  have positive : (0 : ℝ) < xs.length :=
    Nat.cast_pos.mpr (List.length_pos_iff.mpr filled)
  rw [meanOf, List.map_const', List.sum_replicate, List.length_replicate,
    nsmul_one, div_self positive.ne', mul_one]

namespace Average

/-- With the exponent one, every value has the weight one. -/
theorem weightedValues_one : weightedValues 1 = List.map fun x => (1, x) := by
  funext xs
  refine List.map_congr_left fun x hx => ?_
  have positive : (0 : ℝ) < xs.length :=
    Nat.cast_pos.mpr (List.length_pos_of_mem hx)
  rw [Real.rpow_one, div_self positive.ne']

/-- Sums over values of weight one. -/
theorem weightedSum_weightedOf_one (f : ℝ → ℝ) (slot : Nat)
    (passes : List (PassSamples Exact)) :
    weightedSum f (Statistic.weightedOf 1 slot passes)
      = ((valuesIn slot passes).map f).sum := by
  rw [Statistic.weightedOf, List.flatMap_def, weightedValues_one,
    ← List.map_flatten, Weights.weightedSum_map, one_mul, valuesIn]

/-- The sums of a run in which every value has the weight one. -/
theorem sumsOf_one (slot : Nat) (passes : List (PassSamples Exact)) :
    sumsOf (Statistic.weightedOf 1 slot passes)
      = ⟨real (valuesIn slot passes).sum,
        real ((valuesIn slot passes).map fun x => x * x).sum,
        real ((valuesIn slot passes).map fun _ => (1 : ℝ)).sum,
        real (valuesIn slot passes).length⟩ := by
  rw [sumsOf, weightedSum_weightedOf_one, weightedSum_weightedOf_one,
    weightedSum_weightedOf_one, List.map_id', Statistic.weightedOf,
    length_weighted, valuesIn]

end Average

-- ========================================================== a whole cycle

namespace Statistic

variable {name : String} {slot : Nat}
  {passes passes' : List (PassSamples Exact)}

/-- The same samples in other passes have the same average where each of
them weighs the same. -/
theorem cycle_average_perm
    (fits : (average ⟨name, slot, real 1⟩ : Statistic Exact).Fits passes)
    (fits' : (average ⟨name, slot, real 1⟩ : Statistic Exact).Fits passes')
    (realOrNaN : RealOrNaNAt slot passes)
    (perm : (samplesAt slot passes').Perm (samplesAt slot passes))
    (bin numObs bin' numObs' : Nat) :
    (average ⟨name, slot, real 1⟩).cycle bin' passes' numObs'
      = (average ⟨name, slot, real 1⟩).cycle bin passes numObs := by
  have realOrNaN' : RealOrNaNAt slot passes' :=
    fun x hx => realOrNaN x (perm.mem_iff.mp hx)
  have values := valuesIn_perm perm
  have sums : Average.sumsOf (weightedOf 1 slot passes')
      = Average.sumsOf (weightedOf 1 slot passes) := by
    rw [Average.sumsOf_one, Average.sumsOf_one, values.sum_eq,
      (values.map fun x => x * x).sum_eq, (values.map fun _ => 1).sum_eq,
      values.length_eq]
  rw [cycle, cycle, runVector_average fits' realOrNaN',
    runVector_average fits realOrNaN]
  exact congrArg (fun run => Except.ok run.vector >>= _) sums

/-- The weight of each sample is one: mean and standard deviation are those
of all values. -/
theorem cycle_average_one
    (fits : (average ⟨name, slot, real 1⟩ : Statistic Exact).Fits passes)
    (realOrNaN : RealOrNaNAt slot passes) (counted : 0 < countOf slot passes)
    (bin numObs : Nat) :
    ∃ mean sigma : ℝ,
      (average ⟨name, slot, real 1⟩).cycle bin passes numObs
        = .ok [real mean, real sigma, real (countOf slot passes)]
      ∧ mean = (valuesIn slot passes).sum / countOf slot passes
      ∧ sigma ^ 2 = ((valuesIn slot passes).map fun x => x ^ 2).sum
        / countOf slot passes - mean ^ 2
      ∧ 0 ≤ sigma := by
  have nonempty := valuesIn_ne_nil realOrNaN counted
  have total : weightedSum (fun _ => 1) (weightedOf 1 slot passes)
      = countOf slot passes := by
    rw [Average.weightedSum_weightedOf_one, List.map_const',
      List.sum_replicate, nsmul_one, length_valuesIn realOrNaN]
  have shown := cycle_average_eq fits realOrNaN nonempty rfl bin numObs
  have weights : ∀ value ∈ weightedOf 1 slot passes, 0 ≤ value.1 :=
    fun value hvalue => (mem_flatten_of_mem_weighted hvalue).1.le
  have radicand := Weights.variance_nonneg weights (total_pos nonempty) rfl
  rw [total, Average.weightedSum_weightedOf_one,
    Average.weightedSum_weightedOf_one, List.map_id'] at shown radicand
  refine ⟨_, _, shown, rfl, ?_, Real.sqrt_nonneg _⟩
  rw [Real.sq_sqrt radicand]
  simp only [sq]

/-- The mean is that of the means of passes, each with its weight. -/
theorem cycle_average_passes {c : ℝ}
    (fits : (average ⟨name, slot, real c⟩ : Statistic Exact).Fits passes)
    (realOrNaN : RealOrNaNAt slot passes) (counted : 0 < countOf slot passes)
    (bin numObs : Nat) :
    ∃ mean sigma : ℝ,
      (average ⟨name, slot, real c⟩).cycle bin passes numObs
        = .ok [real mean, real sigma, real (countOf slot passes)]
      ∧ mean = ((filledPasses slot passes).map fun xs =>
            (xs.length : ℝ) ^ c * meanOf xs).sum
          / ((filledPasses slot passes).map fun xs =>
            (xs.length : ℝ) ^ c).sum := by
  refine ⟨_, _, cycle_average_eq fits realOrNaN
    (valuesIn_ne_nil realOrNaN counted) rfl bin numObs, ?_⟩
  rw [weightedOf, weightedSum_weightedValues_flatMap, weightedSum_one]
  simp only [List.map_id']
  rfl

/-- How an average weighs samples and passes, computed without rounding over
samples that are real numbers or NaN. With the exponent one the same samples
have the same average, however they are split into passes and ordered: the
mean, standard deviation and number of all values. With any exponent `c` the
mean is that of the means of passes with values, each with the weight
`n ^ c` of its `n` values; with zero these weigh the same. -/
theorem cycle_average_weighs
    (fits : ∀ pass ∈ passes, ∀ samples ∈ pass.samples, slot < samples.length)
    (realOrNaN : RealOrNaNAt slot passes) (bin numObs : Nat) :
    (∀ passes' : List (PassSamples Exact),
      (∀ pass ∈ passes', ∀ samples ∈ pass.samples, slot < samples.length) →
      (samplesAt slot passes').Perm (samplesAt slot passes) →
        ∀ bin' numObs',
          (average ⟨name, slot, real 1⟩).cycle bin' passes' numObs'
            = (average ⟨name, slot, real 1⟩).cycle bin passes numObs)
    ∧ (0 < countOf slot passes →
      (∃ mean sigma : ℝ,
        (average ⟨name, slot, real 1⟩).cycle bin passes numObs
          = .ok [real mean, real sigma, real (countOf slot passes)]
        ∧ mean = (valuesIn slot passes).sum / countOf slot passes
        ∧ sigma ^ 2 = ((valuesIn slot passes).map fun x => x ^ 2).sum
          / countOf slot passes - mean ^ 2
        ∧ 0 ≤ sigma)
      ∧ ∀ c : ℝ, ∃ mean sigma : ℝ,
        (average ⟨name, slot, real c⟩).cycle bin passes numObs
          = .ok [real mean, real sigma, real (countOf slot passes)]
        ∧ mean = ((filledPasses slot passes).map fun xs =>
              (xs.length : ℝ) ^ c * meanOf xs).sum
            / ((filledPasses slot passes).map fun xs =>
              (xs.length : ℝ) ^ c).sum
        ∧ (c = 0 → mean = meanOf ((filledPasses slot passes).map meanOf))) := by
  refine ⟨?_, fun counted => ⟨?_, fun c => ?_⟩⟩
  · intro passes' fits' perm bin' numObs'
    exact cycle_average_perm (fits_of_slots_eq rfl fits)
      (fits_of_slots_eq rfl fits') realOrNaN perm bin numObs bin' numObs'
  · exact cycle_average_one (fits_of_slots_eq rfl fits) realOrNaN counted bin
      numObs
  · obtain ⟨mean, sigma, shown, hmean⟩ := cycle_average_passes
      (fits_of_slots_eq rfl fits) realOrNaN counted bin numObs
    refine ⟨mean, sigma, shown, hmean, ?_⟩
    rintro rfl
    simp only [Real.rpow_zero, one_mul] at hmean
    rw [hmean, meanOf, List.map_const', List.sum_replicate, nsmul_one,
      List.length_map]

/-- Three values in two passes, with NaN beside them, and infinity for another
variable. -/
noncomputable def splitPasses : List (PassSamples Exact) :=
  [⟨3, [[real 1, .infinite false], [.nan, real 1], [real 0, .nan]]⟩,
    ⟨1, [[real (-1), real 0]]⟩]

/-- The samples of the two passes in one, the last first, behind a pass
without any. -/
noncomputable def joinedPasses : List (PassSamples Exact) :=
  [⟨0, []⟩, ⟨4, [[real (-1), .nan], [real 0, .nan], [.nan, .nan],
    [real 1, .nan]]⟩]

/-- One, zero and minus one have the mean zero, and where passes weigh the
same, that of one half and minus one. -/
theorem cycle_average_weighs_split :
    RealOrNaNAt 0 splitPasses
    ∧ (samplesAt 0 joinedPasses).Perm (samplesAt 0 splitPasses)
    ∧ (average ⟨"sst", 0, real 1⟩).cycle 3 joinedPasses 4
      = (average ⟨"sst", 0, real 1⟩).cycle 5 splitPasses 4
    ∧ (∃ sigma, (average ⟨"sst", 0, real 1⟩).cycle 5 splitPasses 4
        = .ok [real 0, real sigma, real 3] ∧ sigma ^ 2 = 2 / 3)
    ∧ ∃ sigma, (average ⟨"sst", 0, real 0⟩).cycle 5 splitPasses 4
      = .ok [real (-1 / 4), real sigma, real 3] := by
  have realOrNaN : RealOrNaNAt 0 splitPasses := by
    simp [RealOrNaNAt, samplesAt, splitPasses]
  have fits : ∀ pass ∈ splitPasses, ∀ samples ∈ pass.samples,
      0 < samples.length := by
    simp [splitPasses]
  have fits' : ∀ pass ∈ joinedPasses, ∀ samples ∈ pass.samples,
      0 < samples.length := by
    simp [joinedPasses]
  have perm : (samplesAt 0 joinedPasses).Perm (samplesAt 0 splitPasses) :=
    List.reverse_perm [real 1, .nan, real 0, real (-1)]
  have count : countOf 0 splitPasses = 3 := by
    simp [countOf, splitPasses]
  have values : splitPasses.map (valuesOf 0) = [[1, 0], [-1]] := by
    simp [splitPasses, valuesOf, realAt]
  have filled : filledPasses 0 splitPasses = [[1, 0], [-1]] := by
    rw [filledPasses, values]
    rfl
  obtain ⟨same, shows'⟩ :=
    @cycle_average_weighs "sst" 0 splitPasses fits realOrNaN 5 4
  obtain ⟨⟨mean, sigma, shown, hmean, hsigma, -⟩, weighs⟩ :=
    shows' (count ▸ three_pos)
  obtain ⟨mean', sigma', shown', -, plain⟩ := weighs 0
  have mean_eq : mean = 0 := by
    rw [hmean, valuesIn, values, count]
    norm_num
  have mean'_eq : mean' = -1 / 4 := by
    rw [plain rfl, filled]
    norm_num [meanOf]
  rw [mean_eq, count, Nat.cast_ofNat] at shown
  rw [mean'_eq, count, Nat.cast_ofNat] at shown'
  refine ⟨realOrNaN, perm, same joinedPasses fits' perm 3 4,
    ⟨sigma, shown, ?_⟩, sigma', shown'⟩
  rw [hsigma, mean_eq, valuesIn, values, count]
  norm_num

end Statistic

end EarthBins
