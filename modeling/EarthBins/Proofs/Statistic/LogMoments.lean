/-
The log-normal average as a weighted mean of logarithms.

A pass divides its sums of logarithms by `√n` when it completes, and the run
adds `√n` to its weights when it takes the pass. The scale and the weight
make one: what a run divides in the end is the sum of the pass means, each
with the weight `√n`, by the sum of these weights (`rootMean`). So the run
holds the sums of an average of the logarithms with the exponent one half,
and what is known of weighted means applies (`LogNormal.ofRun_eq`).

# What follows

The mean of squares is not below the square of the mean, so nothing is
clamped. The mean of the logarithms lies between the least and the greatest
of them, hence its exponential between the values themselves; and mode,
median and mean are the exponentials of `μ - σ²`, `μ` and `μ + σ² / 2`.
-/
import EarthBins.Proofs.Statistic.Weighting

namespace EarthBins

open Scalar Outcome Exact

-- ========================================================== usable samples

/-- The sample of a slot, if it is a positive real number. -/
noncomputable def positiveAt (slot : Nat) (samples : List Exact) : Option ℝ :=
  (realAt slot samples).filter fun x => decide (0 < x)

/-- The samples of a slot in a pass that are positive real numbers. -/
noncomputable def positivesOf (slot : Nat) (pass : PassSamples Exact) :
    List ℝ :=
  pass.samples.filterMap (positiveAt slot)

/-- The positive values of a slot in all passes. -/
noncomputable def positivesIn (slot : Nat)
    (passes : List (PassSamples Exact)) : List ℝ :=
  (passes.map (positivesOf slot)).flatten

/-- The mean of the means that a function has in passes with values, where a
pass of `n` values has the weight `√n`. -/
noncomputable def rootMean (f : ℝ → ℝ) (passes : List (List ℝ)) : ℝ :=
  ((passes.filter (· ≠ [])).map fun xs =>
      √xs.length * meanOf (xs.map f)).sum
    / ((passes.filter (· ≠ [])).map fun xs => √xs.length).sum

variable {slot : Nat}

theorem pos_of_mem_positivesOf {pass : PassSamples Exact} {x : ℝ}
    (h : x ∈ positivesOf slot pass) : 0 < x := by
  obtain ⟨samples, -, read⟩ := List.mem_filterMap.mp h
  exact of_decide_eq_true (Option.filter_eq_some_iff.mp read).2

theorem pos_of_mem_positivesIn {passes : List (PassSamples Exact)} {x : ℝ}
    (h : x ∈ positivesIn slot passes) : 0 < x := by
  obtain ⟨xs, hxs, hx⟩ := List.mem_flatten.mp h
  obtain ⟨pass, -, rfl⟩ := List.mem_map.mp hxs
  exact pos_of_mem_positivesOf hx

-- ============================================================ a whole run

namespace LogNormal

/-- A sample is of use if it is positive, and its logarithm is read. -/
theorem usableLog_eq (slot : Nat) (samples : List Exact) :
    usableLog slot samples
      = (positiveAt slot samples).map fun x => real (Real.log x) := by
  unfold usableLog positiveAt realAt
  cases hx : samples[slot]? with
  | none => rfl
  | some v =>
      rw [Option.map_some, Option.filter_some]
      cases v with
      | nan => rw [LawfulScalar.isFinite_log (Or.inl isNaN_nan)]; rfl
      | infinite negative =>
          have unbounded : (infinite negative : Exact) ≤ 0
              ∨ infinity ≤ (infinite negative : Exact) := by
            cases negative with
            | true => exact Or.inl trivial
            | false => exact Or.inr trivial
          rw [LawfulScalar.isFinite_log (Or.inr unbounded)]
          rfl
      | real x =>
          by_cases positive : 0 < x
          · rw [log_real positive, if_pos (isFinite_eq_true_iff.mpr ⟨_, rfl⟩),
              Option.filter_some, if_pos (decide_eq_true positive)]
            rfl
          · have le : real x ≤ (0 : Exact) := by
              simpa using positive
            rw [LawfulScalar.isFinite_log (Or.inr (Or.inl le))]
            simpa using positive

/-- The readings of passes are the logarithms of their positive values. -/
theorem readings_eq (a : LogNormal) (passes : List (PassSamples Exact)) :
    passes.map (a.reduction (α := Exact)).readings
      = ((passes.map (positivesOf a.slot)).map (·.map Real.log)).map
        (·.map real) := by
  rw [List.map_map, List.map_map]
  refine List.map_congr_left fun pass _ => ?_
  show pass.samples.filterMap (usableLog a.slot)
    = ((pass.samples.filterMap (positiveAt a.slot)).map Real.log).map real
  rw [List.map_map, List.map_filterMap]
  exact List.filterMap_congr fun samples _ => usableLog_eq a.slot samples

/-- The sums over weighted values in the place of those that a run keeps. -/
noncomputable def sumsOf (values : List (ℝ × ℝ)) : Sums Exact :=
  ⟨real (weightedSum (fun x => x) values),
    real (weightedSum (fun x => x * x) values),
    real (weightedSum (fun _ => 1) values)⟩

/-- The sum of a pass over the root of its count is that of its values, each
with its part of the weight `√n`. -/
theorem weightedSum_root (f : ℝ → ℝ) (xs : List ℝ) :
    weightedSum f (Average.weightedValues (1 / 2) xs)
      = (xs.map f).sum / √xs.length := by
  rw [Average.weightedSum_weightedValues, ← Real.sqrt_eq_rpow,
    div_mul_eq_mul_div, mul_div_assoc, Real.sqrt_div_self', mul_one_div]

/-- A pass, scaled and added. -/
theorem addScaled_sumsOf (values : List (ℝ × ℝ)) (xs : List ℝ) :
    addScaled (sumsOf values)
        ⟨real xs.sum, real (xs.map fun x => x * x).sum, real xs.length⟩
      = sumsOf (values ++ Average.weightedValues (1 / 2) xs) := by
  by_cases nonempty : xs = []
  · subst nonempty
    simp [addScaled, Average.weightedValues]
  · have positive : (0 : ℝ) < xs.length :=
      Nat.cast_pos.mpr (List.length_pos_iff.mpr nonempty)
    have root : √(xs.length : ℝ) ≠ 0 := (Real.sqrt_pos.mpr positive).ne'
    have weight : (xs.map fun _ => (1 : ℝ)).sum / √xs.length = √xs.length := by
      rw [List.map_const', List.sum_replicate, nsmul_one, Real.div_sqrt]
    rw [sumsOf, sumsOf, Weights.weightedSum_append, Weights.weightedSum_append,
      Weights.weightedSum_append, weightedSum_root, weightedSum_root,
      weightedSum_root, weight, List.map_id']
    simp [addScaled, positive, sqrt_real positive.le, root]

/-- A run shows the sums over all values, with the weights of an average
whose exponent is one half. -/
theorem ofRun_eq (a : LogNormal) (passes : List (List ℝ)) :
    (a.reduction (α := Exact)).ofRun (passes.map (·.map real))
      = sumsOf (passes.flatMap (Average.weightedValues (1 / 2))) := by
  induction passes using List.reverseRecOn with
  | nil =>
      show (⟨0, 0, 0⟩ : Sums Exact) = _
      simp [sumsOf, weightedSum]
  | append_singleton passes xs ih =>
      rw [Reduction.ofRun, List.map_append, List.foldl_append,
        List.flatMap_append, List.flatMap_singleton, ← addScaled_sumsOf, ← ih,
        ← Sums.foldl_real]
      rfl

/-- The output of real sums. The variance is not below zero, so it is taken
as it is. -/
theorem output_sumsOf {values : List (ℝ × ℝ)}
    (total : 0 < weightedSum (fun _ => 1) values) {mu variance : ℝ}
    (hmu : mu = weightedSum (fun x => x) values
      / weightedSum (fun _ => 1) values)
    (hvariance : variance = weightedSum (fun x => x * x) values
      / weightedSum (fun _ => 1) values - mu * mu)
    (nonneg : 0 ≤ variance) :
    output (sumsOf values).vector
      = .ok [real (Real.exp (mu + variance / 2)),
        real (Real.exp (mu + variance / 2) * √(Real.exp variance - 1)),
        real (Real.exp mu), real (Real.exp (mu - variance))] := by
  have positive : (0 : Exact) < real (weightedSum (fun _ => 1) values) := by
    simpa using total
  have radicand : 0 ≤ Real.exp variance - 1 :=
    sub_nonneg.mpr (Real.one_le_exp nonneg)
  rw [sumsOf, Sums.vector, output, if_pos positive, real_div _ _ total.ne',
    real_div _ _ total.ne', ← hmu]
  simp only [real_mul, real_sub, ← hvariance, maximum_real,
    max_eq_left nonneg]
  simp [ofMoments, sqrt_real radicand, div_eq_inv_mul]

/-- The logarithms of the positive values of a slot, with the weights that an
average with an exponent gives them. -/
noncomputable def logsOf (c : ℝ) (slot : Nat)
    (passes : List (PassSamples Exact)) : List (ℝ × ℝ) :=
  ((passes.map (positivesOf slot)).map (·.map Real.log)).flatMap
    (Average.weightedValues c)

theorem mem_logsOf {c : ℝ} {passes : List (PassSamples Exact)}
    {value : ℝ × ℝ} (h : value ∈ logsOf c slot passes) :
    0 < value.1 ∧ ∃ x ∈ positivesIn slot passes, value.2 = Real.log x := by
  obtain ⟨positive, here⟩ := mem_flatten_of_mem_weighted h
  rw [← List.map_flatten] at here
  obtain ⟨x, hx, same⟩ := List.mem_map.mp here
  exact ⟨positive, x, hx, same.symm⟩

theorem total_logsOf_pos {c : ℝ} {passes : List (PassSamples Exact)}
    (usable : positivesIn slot passes ≠ []) :
    0 < weightedSum (fun _ => 1) (logsOf c slot passes) := by
  refine total_pos ?_
  rw [← List.map_flatten]
  exact mt List.map_eq_nil_iff.mp usable

/-- With the exponent one half, a weighted mean over logarithms is one over
the passes. -/
theorem mean_logsOf (f : ℝ → ℝ) (slot : Nat)
    (passes : List (PassSamples Exact)) :
    weightedSum f (logsOf (1 / 2) slot passes)
        / weightedSum (fun _ => 1) (logsOf (1 / 2) slot passes)
      = rootMean (fun x => f (Real.log x)) (passes.map (positivesOf slot)) := by
  have filled (passes : List (List ℝ)) :
      (passes.map (·.map Real.log)).filter (· ≠ [])
        = (passes.filter (· ≠ [])).map (·.map Real.log) := by
    rw [List.filter_map]
    simp [Function.comp_def]
  rw [logsOf, weightedSum_weightedValues_flatMap, weightedSum_one, filled,
    rootMean]
  simp only [List.map_map, Function.comp_def, List.length_map,
    ← Real.sqrt_eq_rpow]

end LogNormal

-- ========================================================== a whole cycle

namespace Statistic

variable {name : String} {passes : List (PassSamples Exact)}

/-- The run of a log-normal average keeps the sums over the logarithms of all
positive values. -/
theorem runVector_logNormal
    (fits : (logNormal ⟨name, slot⟩ : Statistic Exact).Fits passes)
    (bin numObs : Nat) :
    (logNormal ⟨name, slot⟩ : Statistic Exact).runVector bin passes numObs
      = .ok (LogNormal.sumsOf
        (LogNormal.logsOf (1 / 2) slot passes)).vector := by
  rw [(reducesTo (logNormal ⟨name, slot⟩)).runVector_eq fits]
  show Except.ok (Sums.vector ((LogNormal.reduction ⟨name, slot⟩).ofRun
    (passes.map (LogNormal.reduction ⟨name, slot⟩).readings))) = _
  rw [LogNormal.readings_eq, LogNormal.ofRun_eq]
  rfl

/-- The log-normal average of passes with positive values. Their weighted
variance is not below zero. -/
theorem cycle_logNormal_eq
    (fits : (logNormal ⟨name, slot⟩ : Statistic Exact).Fits passes)
    (usable : positivesIn slot passes ≠ []) {mu variance : ℝ}
    (hmu : mu = rootMean Real.log (passes.map (positivesOf slot)))
    (hvariance : variance = rootMean (fun x => Real.log x ^ 2)
      (passes.map (positivesOf slot)) - mu ^ 2) (bin numObs : Nat) :
    0 ≤ variance
    ∧ (logNormal ⟨name, slot⟩).cycle bin passes numObs
      = .ok [real (Real.exp (mu + variance / 2)),
        real (Real.exp (mu + variance / 2) * √(Real.exp variance - 1)),
        real (Real.exp mu), real (Real.exp (mu - variance))] := by
  have total : 0 < weightedSum (fun _ => 1)
      (LogNormal.logsOf (1 / 2) slot passes) :=
    LogNormal.total_logsOf_pos usable
  have mean := hmu.trans (LogNormal.mean_logsOf (fun x => x) slot passes).symm
  have squares := LogNormal.mean_logsOf (fun x => x * x) slot passes
  simp only [sq] at hvariance
  rw [← squares] at hvariance
  have nonneg : 0 ≤ variance := by
    rw [hvariance]
    exact Weights.variance_nonneg
      (fun value hvalue => (LogNormal.mem_logsOf hvalue).1.le) total mean
  refine ⟨nonneg, ?_⟩
  rw [cycle, runVector_logNormal fits, ok_bind]
  exact LogNormal.output_sumsOf total mean hvariance nonneg

/-- The exponential of the mean of logarithms lies between the least and the
greatest value. -/
theorem exp_rootMean_between (usable : positivesIn slot passes ≠ []) :
    ∃ least ∈ positivesIn slot passes, ∃ greatest ∈ positivesIn slot passes,
      (∀ x ∈ positivesIn slot passes, least ≤ x ∧ x ≤ greatest)
      ∧ least ≤ Real.exp (rootMean Real.log (passes.map (positivesOf slot)))
      ∧ Real.exp (rootMean Real.log (passes.map (positivesOf slot)))
        ≤ greatest := by
  have nonempty : Set.Nonempty {x | x ∈ positivesIn slot passes} :=
    List.exists_mem_of_ne_nil _ usable
  have finite := List.finite_toSet (positivesIn slot passes)
  obtain ⟨least, hleast, least_le⟩ := Set.exists_min_image _ id finite nonempty
  obtain ⟨greatest, hgreatest, le_greatest⟩ :=
    Set.exists_max_image _ id finite nonempty
  have log_le : ∀ value ∈ LogNormal.logsOf (1 / 2) slot passes,
      Real.log least ≤ value.2 := by
    intro value hvalue
    obtain ⟨-, x, hx, same⟩ := LogNormal.mem_logsOf hvalue
    rw [same]
    exact Real.log_le_log (pos_of_mem_positivesIn hleast) (least_le x hx)
  have le_log : ∀ value ∈ LogNormal.logsOf (1 / 2) slot passes,
      value.2 ≤ Real.log greatest := by
    intro value hvalue
    obtain ⟨-, x, hx, same⟩ := LogNormal.mem_logsOf hvalue
    rw [same]
    exact Real.log_le_log (pos_of_mem_positivesIn hx) (le_greatest x hx)
  have between := Weights.mean_between
    (fun value hvalue => (LogNormal.mem_logsOf hvalue).1.le)
    (LogNormal.total_logsOf_pos usable) log_le le_log
  rw [LogNormal.mean_logsOf (fun x => x)] at between
  refine ⟨least, hleast, greatest, hgreatest,
    fun x hx => ⟨least_le x hx, le_greatest x hx⟩, ?_, ?_⟩
  · rw [← Real.log_le_iff_le_exp (pos_of_mem_positivesIn hleast)]
    exact between.1
  · rw [← Real.le_log_iff_exp_le (pos_of_mem_positivesIn hgreatest)]
    exact between.2

/-- The exponential of the mean of the logarithms of one pass is the
geometric mean. -/
theorem exp_rootMean_singleton {xs : List ℝ} (positive : ∀ x ∈ xs, 0 < x)
    (nonempty : xs ≠ []) :
    Real.exp (rootMean Real.log [xs]) = xs.prod ^ (1 / xs.length : ℝ) := by
  have count : (0 : ℝ) < xs.length :=
    Nat.cast_pos.mpr (List.length_pos_iff.mpr nonempty)
  have root : √(xs.length : ℝ) ≠ 0 := (Real.sqrt_pos.mpr count).ne'
  have values : (xs.map Real.log).map Real.exp = xs := by
    rw [List.map_map]
    exact (List.map_congr_left fun x hx => Real.exp_log (positive x hx)).trans
      (List.map_id xs)
  have mean : rootMean Real.log [xs]
      = (xs.map Real.log).sum * (1 / xs.length) := by
    rw [rootMean, List.filter_cons, if_pos (decide_eq_true nonempty),
      List.filter_nil, List.map_singleton, List.map_singleton,
      List.sum_singleton, List.sum_singleton, mul_div_cancel_left₀ _ root,
      meanOf, List.length_map, mul_one_div]
  rw [mean, Real.exp_mul, Real.exp_list_sum, values]

/-- The log-normal average is a weighted mean of logarithms, computed without
rounding and if there is a positive sample; samples that are NaN, infinite or
not positive do not count. Its `μ` is that of the means of passes, each with
the weight `√n` of its `n` positive samples, and so is the mean of squares in
its variance, which is not below zero before it is clamped. So the median
lies between the least and the greatest of these samples, mode, median and
mean follow each other, and the median of a single pass is the geometric
mean. -/
theorem cycle_logNormal_moments
    (fits : ∀ pass ∈ passes, ∀ samples ∈ pass.samples, slot < samples.length)
    (usable : positivesIn slot passes ≠ []) (bin numObs : Nat) :
    ∃ mu variance : ℝ,
      mu = rootMean Real.log (passes.map (positivesOf slot))
      ∧ variance = rootMean (fun x => Real.log x ^ 2)
        (passes.map (positivesOf slot)) - mu ^ 2
      ∧ 0 ≤ variance
      ∧ (∃ sum squares weights : ℝ,
        (logNormal ⟨name, slot⟩ : Statistic Exact).runVector bin passes numObs
          = .ok [real sum, real squares, real weights]
        ∧ 0 < weights ∧ sum / weights = mu
        ∧ squares / weights - mu * mu = variance)
      ∧ ∃ mean sigma median mode : ℝ,
        (logNormal ⟨name, slot⟩).cycle bin passes numObs
          = .ok [real mean, real sigma, real median, real mode]
        ∧ mean = Real.exp (mu + variance / 2)
        ∧ sigma = mean * √(Real.exp variance - 1)
        ∧ median = Real.exp mu ∧ mode = Real.exp (mu - variance)
        ∧ (∃ least ∈ positivesIn slot passes,
          ∃ greatest ∈ positivesIn slot passes,
            (∀ x ∈ positivesIn slot passes, least ≤ x ∧ x ≤ greatest)
            ∧ least ≤ median ∧ median ≤ greatest)
        ∧ mode ≤ median ∧ median ≤ mean ∧ 0 ≤ sigma
        ∧ ∀ pass, passes = [pass] → median = (positivesOf slot pass).prod
          ^ (1 / (positivesOf slot pass).length : ℝ) := by
  have fits : (logNormal ⟨name, slot⟩ : Statistic Exact).Fits passes :=
    fits_of_slots_eq rfl fits
  obtain ⟨nonneg, shown⟩ :=
    cycle_logNormal_eq fits usable rfl rfl bin numObs
  refine ⟨_, _, rfl, rfl, nonneg, ⟨_, _, _, runVector_logNormal fits bin numObs,
    LogNormal.total_logsOf_pos usable,
    LogNormal.mean_logsOf (fun x => x) slot passes, ?_⟩,
    _, _, _, _, shown, rfl, rfl, rfl, rfl, exp_rootMean_between usable,
    ?_, ?_, ?_, ?_⟩
  · rw [LogNormal.mean_logsOf (fun x => x * x)]
    simp only [sq]
  · exact Real.exp_le_exp.mpr (sub_le_self _ nonneg)
  · exact Real.exp_le_exp.mpr
      (le_add_of_nonneg_right (div_nonneg nonneg zero_le_two))
  · exact mul_nonneg (Real.exp_pos _).le (Real.sqrt_nonneg _)
  · rintro pass rfl
    refine exp_rootMean_singleton (fun x hx => pos_of_mem_positivesOf hx) ?_
    simpa [positivesIn] using usable

/-- One value in a pass and four in another, and samples that have no
logarithm. -/
noncomputable def hazePasses : List (PassSamples Exact) :=
  [⟨4, [[real 1], [real 0], [.nan], [.infinite false]]⟩, ⟨1, [[real (-1)]]⟩,
    ⟨4, List.replicate 4 [real (Real.exp 1)]⟩]

/-- The weights are one and two: the mean of the logarithms is two thirds, and
their variance two ninths. -/
theorem cycle_logNormal_moments_haze :
    positivesIn 0 hazePasses ≠ []
    ∧ ∃ sigma, (logNormal ⟨"aot", 0⟩).cycle 3 hazePasses 9
        = .ok [real (Real.exp (7 / 9)), real sigma, real (Real.exp (2 / 3)),
          real (Real.exp (4 / 9))]
      ∧ 0 ≤ sigma := by
  have fits : ∀ pass ∈ hazePasses, ∀ samples ∈ pass.samples,
      0 < samples.length := by
    simp [hazePasses]
  have values : hazePasses.map (positivesOf 0)
      = [[1], [], List.replicate 4 (Real.exp 1)] := by
    simp [hazePasses, positivesOf, positiveAt, realAt, Real.exp_pos,
      Option.filter_some]
  have usable : positivesIn 0 hazePasses ≠ [] := by
    rw [positivesIn, values]
    exact List.cons_ne_nil _ _
  obtain ⟨mu, variance, hmu, hvariance, -, -, mean, sigma, median, mode, shown,
    hmean, -, hmedian, hmode, -, -, -, nonneg, -⟩ :=
    @cycle_logNormal_moments 0 "aot" hazePasses fits usable 3 9
  have root : √(4 : ℝ) = 2 := by
    rw [show (4 : ℝ) = 2 ^ 2 by norm_num, Real.sqrt_sq two_pos.le]
  have mu_eq : mu = 2 / 3 := by
    rw [hmu, values]
    norm_num [rootMean, meanOf, root]
  have variance_eq : variance = 2 / 9 := by
    rw [hvariance, values, mu_eq]
    norm_num [rootMean, meanOf, root]
  refine ⟨usable, sigma, ?_, nonneg⟩
  rw [shown, hmean, hmedian, hmode, mu_eq, variance_eq]
  norm_num

end Statistic

end EarthBins
