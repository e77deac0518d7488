/-
Percentiles beside infinite values.

A sample can be infinite, and with it the mean of a pass. Sorted means have
the infinities at their ends, and most percentiles are far from them. The
interpolation adds to the value below a rank a part of its distance to the
value above. From an infinite value there is no way back: its distance to
any other is infinite or none, and the sum of opposite infinities is NaN.
And at a whole rank the part is zero, so that an infinite distance is lost
as well, although the value below is the result.

# What is left

`Lost` says when the result is NaN. It is an exact condition: all other
percentiles are the value at their rank, or between the two values beside it
(`percentileOf_eq_nan_iff`). The first and the last rank are read off without
interpolation, so the infinities themselves can be the result there.
-/
import EarthBins.Proofs.Statistic.Agreement
import EarthBins.Proofs.Statistic.PassMeans

namespace EarthBins

open Scalar Outcome Exact

-- ======================================================== interpolation

namespace Exact

variable {a b : Exact} {d : ℝ}

/-- From an infinite value interpolation leads nowhere. -/
theorem interpolated_of_infinite (s : Bool) (nonneg : 0 ≤ d) :
    infinite s + real d * (b - infinite s) = nan := by
  cases b with
  | nan => simp
  | infinite t =>
      rw [infinite_sub_infinite]
      by_cases opposite : t = !s
      · rw [if_pos (by simp [opposite]), real_mul_infinite]
        by_cases zero : d = 0
        · simp [zero]
        · simp [zero, nonneg.not_gt, infinite_add_infinite, opposite]
      · simp [opposite]
  | real y =>
      rw [real_sub_infinite, real_mul_infinite]
      by_cases zero : d = 0
      · simp [zero]
      · simp [zero, nonneg.not_gt, infinite_add_infinite]

/-- Interpolation loses its value if the value below is infinite, or if the
value above is and has no part in the result. -/
theorem interpolated_eq_nan_iff (ha : a ≠ nan) (hb : b ≠ nan)
    (nonneg : 0 ≤ d) :
    a + real d * (b - a) = nan
      ↔ (∃ s, a = infinite s) ∨ d = 0 ∧ ∃ s, b = infinite s := by
  cases a with
  | nan => exact absurd rfl ha
  | infinite s =>
      exact iff_of_true (interpolated_of_infinite s nonneg) (Or.inl ⟨s, rfl⟩)
  | real x =>
      cases b with
      | nan => exact absurd rfl hb
      | infinite t =>
          rw [infinite_sub_real, real_mul_infinite]
          by_cases zero : d = 0
          · simp [zero]
          · simp [zero]
      | real y => simp

/-- What interpolation does not lose lies between the two values, and is the
one below if that has all of it. -/
theorem interpolated_between (le : a ≤ b) (nonneg : 0 ≤ d) (below : d < 1)
    (kept : a + real d * (b - a) ≠ nan) :
    a ≤ a + real d * (b - a) ∧ a + real d * (b - a) ≤ b
    ∧ (d = 0 → a + real d * (b - a) = a) := by
  cases a with
  | nan => exact absurd (nan_add _) kept
  | infinite s => exact absurd (interpolated_of_infinite s nonneg) kept
  | real x =>
      cases b with
      | nan => exact absurd le (not_le_nan _)
      | infinite t =>
          rw [infinite_sub_real, real_mul_infinite] at kept ⊢
          have part : d ≠ 0 := by
            rintro rfl
            simp at kept
          rw [if_neg part, real_add_infinite, decide_eq_false nonneg.not_gt,
            Bool.false_bne]
          exact ⟨le, le_iff.mpr ⟨nofun, nofun, le_rfl⟩,
            fun zero => absurd zero part⟩
      | real y =>
          have le : x ≤ y := le
          rw [real_sub, real_mul, real_add, real_le, real_le]
          refine ⟨?_, ?_, ?_⟩
          · nlinarith
          · nlinarith
          · rintro rfl
            rw [zero_mul, add_zero]

end Exact

-- ================================================================ ranks

/-- Whether a percentile of sorted values is lost: its rank is not the first
and not the last, and the value below is infinite, or the rank is whole and
the value above is infinite. -/
structure Lost (percentage : Nat) (sorted : List Exact) : Prop where
  not_first : 1 < rankOf percentage sorted.length
  not_last : rankOf percentage sorted.length < sorted.length
  beside : (∃ s, sorted[⌊rankOf percentage sorted.length⌋₊ - 1]?
      = some (infinite s))
    ∨ rankOf percentage sorted.length = ⌊rankOf percentage sorted.length⌋₊
      ∧ ∃ s, sorted[⌊rankOf percentage sorted.length⌋₊]? = some (infinite s)

/-- Whether a number is a percentile of sorted values: the value at its rank
if this is whole, and between the two values beside it if not. -/
structure IsPercentile (percentage : Nat) (sorted : List Exact) (x : Exact) :
    Prop where
  at_rank : ∀ k : ℕ, rankOf percentage sorted.length = k →
    sorted[k - 1]? = some x
  between : (∀ k : ℕ, rankOf percentage sorted.length ≠ k) →
    ∃ below above,
      sorted[⌊rankOf percentage sorted.length⌋₊ - 1]? = some below
      ∧ sorted[⌊rankOf percentage sorted.length⌋₊]? = some above
      ∧ below ≤ x ∧ x ≤ above

/-- No rank is behind the last value. -/
theorem rankOf_le {percentage count : Nat} (le : percentage ≤ 100)
    (positive : 0 < count) : rankOf percentage count ≤ count := by
  have part : (percentage : ℝ) / 100 ≤ 1 := by
    rw [div_le_one (by norm_num)]
    exact_mod_cast le
  have last : ((count - 1 : ℕ) : ℝ) = count - 1 := Nat.cast_pred positive
  have others : (0 : ℝ) ≤ count - 1 := by
    rw [← last]
    exact Nat.cast_nonneg _
  rw [rankOf, last]
  nlinarith

/-- Between the first and the last rank, interpolation gives NaN exactly if
the percentile is lost, and the percentile if not. -/
theorem interpolated_eq_nan_iff_lost {percentage : Nat} {sorted : List Exact}
    (not_first : 1 < rankOf percentage sorted.length)
    (not_last : rankOf percentage sorted.length < sorted.length)
    {below above x : Exact}
    (hbelow : sorted[⌊rankOf percentage sorted.length⌋₊ - 1]? = some below)
    (habove : sorted[⌊rankOf percentage sorted.length⌋₊]? = some above)
    (hx : x = below + real (rankOf percentage sorted.length
      - ⌊rankOf percentage sorted.length⌋₊) * (above - below))
    (ordered : below ≤ above) :
    (x = nan ↔ Lost percentage sorted)
    ∧ (x ≠ nan → IsPercentile percentage sorted x) := by
  subst hx
  have part : 0 ≤ rankOf percentage sorted.length
      - ⌊rankOf percentage sorted.length⌋₊ :=
    sub_nonneg.mpr (Nat.floor_le (by linarith))
  have next := Nat.lt_floor_add_one (rankOf percentage sorted.length)
  obtain ⟨notNaN, notNaN', -⟩ := le_iff.mp ordered
  refine ⟨(interpolated_eq_nan_iff notNaN notNaN' part).trans ?_,
    fun kept => ?_⟩
  · rw [sub_eq_zero]
    constructor
    · rintro (⟨s, rfl⟩ | ⟨whole, s, rfl⟩)
      · exact ⟨not_first, not_last, Or.inl ⟨s, hbelow⟩⟩
      · exact ⟨not_first, not_last, Or.inr ⟨whole, s, habove⟩⟩
    · rintro ⟨-, -, beside⟩
      rw [hbelow, habove] at beside
      simpa using beside
  · obtain ⟨low, high, exactly⟩ :=
      interpolated_between ordered part (by linarith) kept
    refine ⟨fun k hk => ?_, fun _ =>
      ⟨below, above, hbelow, habove, low, high⟩⟩
    rw [hk, Nat.floor_natCast] at hbelow
    rw [exactly (by rw [hk, Nat.floor_natCast, sub_self])]
    exact hbelow

/-- What is read off sorted numbers is NaN exactly if it is lost, and their
percentile if not. -/
theorem percentileOf_eq_nan_iff {percentage : Nat} (le : percentage ≤ 100)
    {sorted : List Exact} (nonempty : sorted ≠ [])
    (numbers : ∀ x ∈ sorted, x ≠ nan) (ascending : sorted.Pairwise (· ≤ ·)) :
    ∃ x, percentileOf percentage sorted = .ok x
      ∧ (x = nan ↔ Lost percentage sorted)
      ∧ (x ≠ nan → IsPercentile percentage sorted x) := by
  -- a value at the whole rank `m` is the percentile, if nothing is lost there
  have exactly {m : ℕ} {x : Exact}
      (whole : rankOf percentage sorted.length = m)
      (hx : sorted[m - 1]? = some x) (kept : ¬ Lost percentage sorted) :
      (x = nan ↔ Lost percentage sorted)
      ∧ (x ≠ nan → IsPercentile percentage sorted x) := by
    refine ⟨iff_of_false (numbers x (List.mem_of_getElem? hx)) kept,
      fun _ => ⟨fun k hk => ?_, fun no => absurd whole (no m)⟩⟩
    obtain rfl : k = m := Nat.cast_injective (hk.symm.trans whole)
    exact hx
  obtain ⟨first, x, hx, made⟩ | ⟨last, x, hx, made⟩
      | ⟨not_first, not_last, below, above, hbelow, habove, made⟩ :=
    percentileOf_cases percentage nonempty
  · exact ⟨x, made, exactly (first.trans Nat.cast_one.symm) hx
      fun lost => lost.not_first.ne' first⟩
  · have last := le_antisymm
      (rankOf_le le (List.length_pos_iff.mpr nonempty)) last
    exact ⟨x, made, exactly last hx fun lost => lost.not_last.ne last⟩
  · refine ⟨_, made, interpolated_eq_nan_iff_lost not_first not_last hbelow
      habove rfl ?_⟩
    have positive : 0 < ⌊rankOf percentage sorted.length⌋₊ :=
      Nat.floor_pos.mpr not_first.le
    obtain ⟨_, rfl⟩ := List.getElem?_eq_some_iff.mp hbelow
    obtain ⟨_, rfl⟩ := List.getElem?_eq_some_iff.mp habove
    exact List.pairwise_iff_getElem.mp ascending _ _ _ _ (by omega)

-- ========================================================== a whole cycle

namespace Statistic

variable {name : String} {slot percentage : Nat}
  {passes : List (PassSamples Exact)}

theorem ne_nan_of_mem_contributions {x : Exact}
    (h : x ∈ passes.filterMap (Percentile.contribution slot)) : x ≠ nan := by
  obtain ⟨pass, -, contributed⟩ := List.mem_filterMap.mp h
  have notNaN := (Option.filter_eq_some_iff.mp contributed).2
  rintro rfl
  simp at notNaN

/-- A percentile shows the fill value if no mean was collected, and if it is
lost. -/
theorem cycle_percentile_eq_nan_iff (le : percentage ≤ 100)
    (fits : (percentile ⟨name, slot, percentage⟩ : Statistic Exact).Fits
      passes) (bin numObs : Nat) :
    ∃ sorted x,
      sorted.Perm (passes.filterMap (Percentile.contribution slot))
      ∧ sorted.Pairwise (· ≤ ·)
      ∧ (percentile ⟨name, slot, percentage⟩).cycle bin passes numObs
        = .ok [x]
      ∧ (x = nan ↔ sorted = [] ∨ Lost percentage sorted) := by
  have perm := List.mergeSort_perm
    (passes.filterMap (Percentile.contribution slot)) Scalar.totalLE
  have inOrder := List.pairwise_mergeSort SortedScalar.totalLE_trans
    SortedScalar.totalLE_total
    (passes.filterMap (Percentile.contribution slot))
  have shown := cycle_percentile_eq fits bin numObs
  dsimp only at shown
  generalize (passes.filterMap (Percentile.contribution slot)).mergeSort
    Scalar.totalLE = sorted at perm inOrder shown
  -- the fill value of a percentile is NaN itself
  have shown {x : Exact} (made : percentileOf percentage sorted = .ok x) :
      (percentile ⟨name, slot, percentage⟩).cycle bin passes numObs
        = .ok [x] := by
    rw [shown, made, ok_bind]
    split
    · rename_i isNaN_x
      rw [isNaN_eq_true_iff.mp isNaN_x]
      rfl
    · rfl
  have numbers : ∀ x ∈ sorted, x ≠ .nan :=
    fun x hx => ne_nan_of_mem_contributions (perm.mem_iff.mp hx)
  have ascending : sorted.Pairwise (· ≤ ·) :=
    inOrder.imp_of_mem fun _ hy before =>
      (totalLE_iff.mp before).resolve_left (numbers _ hy)
  by_cases nonempty : sorted = []
  · subst nonempty
    exact ⟨[], .nan, perm, ascending, shown rfl,
      iff_of_true rfl (Or.inl rfl)⟩
  · obtain ⟨x, made, lost, -⟩ :=
      percentileOf_eq_nan_iff le nonempty numbers ascending
    exact ⟨sorted, x, perm, ascending, shown made,
      lost.trans (or_iff_right nonempty).symm⟩

/-- Which percentiles survive infinite values, computed without rounding
otherwise. What is read off sorted numbers is NaN exactly if it is lost; if
not, it is the value at its rank, or between the two values beside it if the
rank is not whole. And a cycle shows the fill value exactly if no mean was
collected or the percentile of the collected ones is lost. -/
theorem percentileOf_lost_iff (le : percentage ≤ 100) :
    (∀ sorted : List Exact, sorted ≠ [] → (∀ x ∈ sorted, x ≠ .nan) →
      sorted.Pairwise (· ≤ ·) →
        ∃ x, percentileOf percentage sorted = .ok x
          ∧ (x = .nan ↔ Lost percentage sorted)
          ∧ (x ≠ .nan → IsPercentile percentage sorted x))
    ∧ ∀ (name : String) (slot : Nat) (passes : List (PassSamples Exact)),
      (∀ pass ∈ passes, ∀ samples ∈ pass.samples, slot < samples.length) →
        ∀ bin numObs, ∃ sorted x,
          sorted.Perm (passes.filterMap (Percentile.contribution slot))
          ∧ sorted.Pairwise (· ≤ ·)
          ∧ (percentile ⟨name, slot, percentage⟩).cycle bin passes numObs
            = .ok [x]
          ∧ (x = .nan ↔ sorted = [] ∨ Lost percentage sorted) := by
  refine ⟨?_, ?_⟩
  · intro sorted nonempty numbers ascending
    exact percentileOf_eq_nan_iff le nonempty numbers ascending
  · intro name slot passes fits bin numObs
    exact cycle_percentile_eq_nan_iff le (fits_of_slots_eq rfl fits) bin
      numObs

/-- Means of four passes, infinite at both ends. -/
noncomputable def fourMeans : List Exact :=
  [.infinite true, real 0, real 1, .infinite false]

/-- Infinities at both ends do not reach the median of four values: it lies
between the other two. -/
theorem percentileOf_lost_iff_four :
    50 ≤ 100 ∧ rankOf 50 4 = 5 / 2
    ∧ ∃ x, percentileOf 50 fourMeans = .ok x
      ∧ real 0 ≤ x ∧ x ≤ real 1 := by
  have rank : rankOf 50 fourMeans.length = 5 / 2 := by
    norm_num [rankOf, fourMeans]
  have floor : ⌊(5 / 2 : ℝ)⌋₊ = 2 := by
    rw [Nat.floor_eq_iff (by norm_num)]
    norm_num
  have nonempty : fourMeans ≠ [] := List.cons_ne_nil _ _
  have numbers : ∀ x ∈ fourMeans, x ≠ .nan := by
    simp [fourMeans]
  have ascending : fourMeans.Pairwise (· ≤ ·) := by
    simp [fourMeans, le_iff, extended]
  obtain ⟨x, made, lost, kept⟩ := (@percentileOf_lost_iff 50 (by decide)).1
    fourMeans nonempty numbers ascending
  have inside : ¬ Lost 50 fourMeans := by
    rintro ⟨-, -, beside⟩
    rw [rank, floor] at beside
    simp [fourMeans] at beside
  have fraction (k : ℕ) : (5 / 2 : ℝ) ≠ k := by
    intro whole
    have : (5 : ℝ) = (2 * k : ℕ) := by
      push_cast
      linarith
    have : 5 = 2 * k := by
      exact_mod_cast this
    omega
  obtain ⟨below, above, hbelow, habove, low, high⟩ :=
    (kept (mt lost.mp inside)).between fun k => rank ▸ fraction k
  rw [rank, floor] at hbelow habove
  cases hbelow
  cases habove
  exact ⟨by decide, rank, x, made, low, high⟩

/-- Means of three passes, the last of them infinite. -/
noncomputable def threeMeans : List Exact := [real 0, real 1, .infinite false]

/-- Passes with these means. -/
def threePasses : List (PassSamples Float) :=
  [⟨1, [[0]]⟩, ⟨1, [[1]]⟩, ⟨1, [[infinity]]⟩]

/-- The median of zero, one and infinity is the second value. But the distance
to the third, which is to have no part in it, is infinite, and zero times
infinity is NaN. So the median is lost, and a bin with these means shows the
fill value, also if it is computed with 64-bit numbers. -/
theorem percentileOf_loses_median :
    threeMeans.Pairwise (· ≤ ·) ∧ (∀ x ∈ threeMeans, x ≠ .nan)
    ∧ rankOf 50 threeMeans.length = (2 : ℕ)
    ∧ percentileOf 50 threeMeans = .ok .nan
    ∧ (∀ x, IsPercentile 50 threeMeans x → x = real 1)
    ∧ (percentile ⟨"chl", 0, 50⟩).cycle 3 threePasses 3
      = .ok [Scalar.nan] := by
  have rank : rankOf 50 threeMeans.length = (2 : ℕ) := by
    norm_num [rankOf, threeMeans]
  have ascending : threeMeans.Pairwise (· ≤ ·) := by
    simp [threeMeans, le_iff, extended]
  have numbers : ∀ x ∈ threeMeans, x ≠ .nan := by
    simp [threeMeans]
  have lost : Lost 50 threeMeans := by
    constructor
    · rw [rank]
      norm_num
    · rw [rank]
      norm_num [threeMeans]
    · rw [rank, Nat.floor_natCast]
      exact Or.inr ⟨rfl, false, rfl⟩
  obtain ⟨x, made, isLost, -⟩ := percentileOf_eq_nan_iff
    (show 50 ≤ 100 by decide) (List.cons_ne_nil _ _ : threeMeans ≠ []) numbers
    ascending
  rw [isLost.mpr lost] at made
  refine ⟨ascending, numbers, rank, made, fun x promised => ?_, ?_⟩
  · exact (Option.some.inj (promised.at_rank 2 rank)).symm
  -- the same means, and their order, as 64-bit numbers
  have means : threePasses.filterMap (Percentile.contribution 0)
      = [0, 1, infinity] := by
    decide +kernel
  have sorted : [(0 : Float), 1, infinity].mergeSort Scalar.totalLE
      = [0, 1, infinity] :=
    List.mergeSort_of_pairwise (by decide +kernel)
  have fits : (percentile ⟨"chl", 0, 50⟩).Fits threePasses := by
    simp [Fits, slots, threePasses]
  rw [cycle_percentile_eq fits, means, sorted]
  rfl

end Statistic

end EarthBins
