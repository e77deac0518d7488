/-
Percentiles of real numbers.

Values at distance one from each other are the corners of a line, level
behind the last of them. The percentile of sorted real numbers is the height
of their line at its rank, which is between the first corner and the last
(`percentileOf_map_real`). What holds of percentiles is therefore what holds
of lines, and that is proved corner by corner: the line of ascending values
ascends, a line through higher values is higher, and a line through values
that were scaled and moved is scaled and moved.
-/
import EarthBins.Proofs.Statistic.Interpolation

namespace EarthBins

open Scalar Outcome Exact

-- ================================================================ lines

/-- Height of the line through some values, at a distance from the first
one. -/
noncomputable def polyline : List ℝ → ℝ → ℝ
  | [], _ => 0
  | [x], _ => x
  | x :: y :: rest, t =>
    if t < 1 then x + t * (y - x) else polyline (y :: rest) (t - 1)

variable {x y s t : ℝ} {values others rest : List ℝ}

theorem polyline_of_lt (h : t < 1) :
    polyline (x :: y :: rest) t = x + t * (y - x) :=
  if_pos h

theorem polyline_of_le (h : 1 ≤ t) :
    polyline (x :: y :: rest) t = polyline (y :: rest) (t - 1) :=
  if_neg h.not_gt

theorem polyline_zero (x : ℝ) (rest : List ℝ) :
    polyline (x :: rest) 0 = x := by
  cases rest with
  | nil => rfl
  | cons y rest => rw [polyline_of_lt one_pos, zero_mul, add_zero]

/-- The line goes through its corners, and straight from one to the next. -/
theorem polyline_segment {k : ℕ} (h : k + 1 < values.length)
    (low : k ≤ t) (high : t ≤ k + 1) :
    polyline values t
      = values[k] + (t - k) * (values[k + 1] - values[k]) := by
  induction values generalizing k t with
  | nil => cases h
  | cons x rest ih =>
      match rest, k with
      | [], _ => simp at h
      | y :: rest, 0 =>
          have high : t ≤ 1 := by simpa using high
          rcases high.lt_or_eq with before | rfl
          · simpa using polyline_of_lt before
          · rw [polyline_of_le le_rfl, sub_self, polyline_zero]
            simp
      | y :: rest, k + 1 =>
          push_cast at low high
          have first : (0 : ℝ) ≤ k := Nat.cast_nonneg k
          rw [polyline_of_le (by linarith),
            ih (by simpa using h) (by linarith) (by linarith)]
          simp only [List.getElem_cons_succ]
          push_cast
          ring

/-- Behind the last corner the line is level. -/
theorem polyline_last (nonempty : values ≠ [])
    (h : (values.length : ℝ) ≤ t + 1) :
    polyline values t = values.getLast nonempty := by
  induction values generalizing t with
  | nil => exact absurd rfl nonempty
  | cons x rest ih =>
      cases rest with
      | nil => rfl
      | cons y rest =>
          rw [List.length_cons] at h
          have follows : (1 : ℝ) ≤ (y :: rest).length := by
            exact_mod_cast Nat.succ_pos rest.length
          push_cast at h
          rw [polyline_of_le (by linarith), List.getLast_cons_cons]
          exact ih (List.cons_ne_nil y rest) (by linarith)

/-- The line of ascending values ascends. -/
theorem polyline_mono (ascending : values.Pairwise (· ≤ ·)) (nonneg : 0 ≤ s)
    (le : s ≤ t) : polyline values s ≤ polyline values t := by
  induction values generalizing s t with
  | nil => exact le_rfl
  | cons x rest ih =>
      match rest with
      | [] => exact le_rfl
      | y :: rest =>
          obtain ⟨first, ascending⟩ := List.pairwise_cons.mp ascending
          have up : 0 ≤ y - x := sub_nonneg.mpr (first y List.mem_cons_self)
          rcases lt_or_ge t 1 with ht | ht
          · rw [polyline_of_lt ht, polyline_of_lt (le.trans_lt ht)]
            gcongr
          rw [polyline_of_le ht]
          rcases lt_or_ge s 1 with hs | hs
          · -- from before the second corner, through it, to behind it
            calc polyline (x :: y :: rest) s
                = x + s * (y - x) := polyline_of_lt hs
              _ ≤ x + 1 * (y - x) := by gcongr
              _ = polyline (y :: rest) 0 := by rw [polyline_zero]; ring
              _ ≤ polyline (y :: rest) (t - 1) :=
                ih ascending le_rfl (by linarith)
          · rw [polyline_of_le hs]
            exact ih ascending (by linarith) (by linarith)

/-- The line through higher values is higher. -/
theorem polyline_le (le : List.Forall₂ (· ≤ ·) values others)
    (nonneg : 0 ≤ t) : polyline values t ≤ polyline others t := by
  induction le generalizing t with
  | nil => exact le_rfl
  | @cons x x' rest rest' hx le ih =>
      cases le with
      | nil => exact hx
      | @cons y y' rest rest' hy le =>
          rcases lt_or_ge t 1 with ht | ht
          · rw [polyline_of_lt ht, polyline_of_lt ht]
            have kept : (1 - t) * x ≤ (1 - t) * x' :=
              mul_le_mul_of_nonneg_left hx (by linarith)
            have gone : t * y ≤ t * y' := mul_le_mul_of_nonneg_left hy nonneg
            linarith
          · rw [polyline_of_le ht, polyline_of_le ht]
            exact ih (by linarith)

/-- The line through values that were scaled and moved is scaled and
moved. -/
theorem polyline_affine (nonempty : values ≠ []) (a b t : ℝ) :
    polyline (values.map fun x => a * x + b) t
      = a * polyline values t + b := by
  induction values generalizing t with
  | nil => exact absurd rfl nonempty
  | cons x rest ih =>
      cases rest with
      | nil => rfl
      | cons y rest =>
          have behind := ih (List.cons_ne_nil y rest) (t - 1)
          rw [List.map_cons] at behind
          rw [List.map_cons, List.map_cons]
          rcases lt_or_ge t 1 with ht | ht
          · rw [polyline_of_lt ht, polyline_of_lt ht]
            ring
          · rw [polyline_of_le ht, polyline_of_le ht, behind]

-- ================================================================ ranks

/-- The percentile of real numbers is the height of their line at its
rank. -/
theorem percentileOf_map_real (percentage : Nat) (nonempty : values ≠ []) :
    percentileOf percentage (values.map real)
      = .ok (real (polyline values
          (rankOf percentage values.length - 1))) := by
  have nonempty' : values.map real ≠ [] := by simpa using nonempty
  have cases := percentileOf_cases percentage nonempty'
  simp only [List.length_map, List.getElem?_map, Option.map_eq_some_iff]
    at cases
  obtain ⟨first, e, ⟨x, hx, rfl⟩, made⟩ | ⟨last, e, ⟨x, hx, rfl⟩, made⟩
      | ⟨low, high, e, e', ⟨x, hx, rfl⟩, ⟨y, hy, rfl⟩, made⟩ := cases
  · obtain ⟨rest, rfl⟩ : ∃ rest, values = x :: rest := by
      cases values with
      | nil => cases hx
      | cons z rest =>
          cases hx
          exact ⟨rest, rfl⟩
    rw [made, first, sub_self, polyline_zero]
  · rw [← List.getLast?_eq_getElem?,
      List.getLast?_eq_some_getLast nonempty] at hx
    rw [made, polyline_last nonempty (by linarith), Option.some.inj hx]
  · generalize rankOf percentage values.length = rank at *
    have positive : 0 < ⌊rank⌋₊ := Nat.floor_pos.mpr low.le
    obtain ⟨k, hk⟩ := Nat.exists_eq_succ_of_ne_zero positive.ne'
    have whole := Nat.floor_le (zero_le_one.trans low.le)
    have next := (Nat.lt_floor_add_one rank).le
    rw [hk] at hx hy made whole next
    obtain ⟨_, rfl⟩ := List.getElem?_eq_some_iff.mp hx
    obtain ⟨inside, rfl⟩ := List.getElem?_eq_some_iff.mp hy
    push_cast at whole next made
    have part : rank - 1 - k = rank - (k + 1) := by ring
    rw [made, polyline_segment (k := k) inside (by linarith) (by linarith),
      part, real_sub, real_mul, real_add]

theorem rankOf_zero (count : Nat) : rankOf 0 count = 1 := by
  simp [rankOf]

theorem rankOf_hundred {count : Nat} (positive : 0 < count) :
    rankOf 100 count = count := by
  rw [rankOf, Nat.cast_pred positive]
  norm_num

theorem rankOf_mono {percentage more : Nat} (le : percentage ≤ more)
    (count : Nat) : rankOf percentage count ≤ rankOf more count := by
  unfold rankOf
  gcongr

/-- Whether a number is where the line through sorted values has the rank of
a percentage: on the straight way between the two values beside it, not below
the first value and not above the last, and at one of these at the ends of
the range. -/
structure OnLine (percentage : Nat) (sorted : List ℝ) (x : ℝ) : Prop where
  straight : ∀ (k : ℕ) (h : k + 1 < sorted.length),
    k + 1 ≤ rankOf percentage sorted.length →
    rankOf percentage sorted.length ≤ k + 2 →
      x = sorted[k] + (rankOf percentage sorted.length - (k + 1))
        * (sorted[k + 1] - sorted[k])
  first_le : ∀ first, sorted.head? = some first → first ≤ x
  le_last : ∀ last, sorted.getLast? = some last → x ≤ last
  lowest : percentage = 0 → sorted.head? = some x
  highest : percentage = 100 → sorted.getLast? = some x

theorem onLine_polyline {percentage : Nat} (le : percentage ≤ 100)
    (nonempty : values ≠ []) (ascending : values.Pairwise (· ≤ ·)) :
    OnLine percentage values
      (polyline values (rankOf percentage values.length - 1)) := by
  have positive := List.length_pos_iff.mpr nonempty
  have low := one_le_rankOf percentage values.length
  have high := rankOf_le le positive
  have start : values.head? = some (polyline values 0) := by
    obtain ⟨x, rest, rfl⟩ := List.exists_cons_of_ne_nil nonempty
    rw [polyline_zero, List.head?_cons]
  have stop : values.getLast?
      = some (polyline values (values.length - 1)) := by
    rw [polyline_last nonempty (by linarith),
      List.getLast?_eq_some_getLast nonempty]
  constructor
  case straight =>
    intro k h behind before
    rw [polyline_segment h (by linarith) (by linarith)]
    ring
  case first_le =>
    intro first hfirst
    rw [start] at hfirst
    rw [← Option.some.inj hfirst]
    exact polyline_mono ascending le_rfl (by linarith)
  case le_last =>
    intro last hlast
    rw [stop] at hlast
    rw [← Option.some.inj hlast]
    exact polyline_mono ascending (by linarith) (by linarith)
  case lowest =>
    rintro rfl
    rw [rankOf_zero, sub_self, start]
  case highest =>
    rintro rfl
    rw [rankOf_hundred positive, stop]

/-- Percentiles of sorted real numbers, computed without rounding. The two
values beside a rank are there, and the percentile is on the line through
the values. It does not fall if the percentage grows or any of the values,
and it is scaled and moved with the values. -/
theorem percentileOf_interpolates {percentage : Nat}
    (le : percentage ≤ 100) {sorted : List ℝ} (nonempty : sorted ≠ [])
    (ascending : sorted.Pairwise (· ≤ ·)) :
    (1 < rankOf percentage sorted.length →
      rankOf percentage sorted.length < sorted.length →
        1 ≤ ⌊rankOf percentage sorted.length⌋₊
        ∧ ⌊rankOf percentage sorted.length⌋₊ < sorted.length)
    ∧ ∃ x, percentileOf percentage (sorted.map real) = .ok (real x)
      ∧ OnLine percentage sorted x
      ∧ (∀ more, percentage ≤ more →
        ∃ y, percentileOf more (sorted.map real) = .ok (real y) ∧ x ≤ y)
      ∧ (∀ higher, List.Forall₂ (· ≤ ·) sorted higher →
        ∃ y, percentileOf percentage (higher.map real) = .ok (real y)
          ∧ x ≤ y)
      ∧ ∀ a b, percentileOf percentage
          ((sorted.map fun v => a * v + b).map real)
        = .ok (real (a * x + b)) := by
  have low := one_le_rankOf percentage sorted.length
  refine ⟨fun inner before => ⟨Nat.floor_pos.mpr inner.le, ?_⟩, _,
    percentileOf_map_real percentage nonempty,
    onLine_polyline le nonempty ascending, ?_, ?_, ?_⟩
  · rwa [Nat.floor_lt (by linarith)]
  · intro more grown
    have later := rankOf_mono grown sorted.length
    exact ⟨_, percentileOf_map_real more nonempty,
      polyline_mono ascending (by linarith) (by linarith)⟩
  · intro higher above
    have nonempty' : higher ≠ [] := by
      rw [← List.length_pos_iff, ← above.length_eq, List.length_pos_iff]
      exact nonempty
    refine ⟨_, percentileOf_map_real percentage nonempty', ?_⟩
    rw [← above.length_eq]
    exact polyline_le above (by linarith)
  · intro a b
    rw [percentileOf_map_real percentage (by simpa using nonempty),
      List.length_map, polyline_affine nonempty]

/-- Three values, the last one far off. -/
def threeCorners : List ℝ := [10, 20, 60].map Nat.cast

/-- A quarter of the way through three values is half of the way from the
first to the second. -/
theorem percentileOf_interpolates_corners :
    25 ≤ 100 ∧ threeCorners ≠ [] ∧ threeCorners.Pairwise (· ≤ ·)
    ∧ percentileOf 25 (threeCorners.map real) = .ok (real 15)
    ∧ ∃ y, percentileOf 75 (threeCorners.map real) = .ok (real y)
      ∧ 15 ≤ y := by
  have nonempty : threeCorners ≠ [] := List.cons_ne_nil _ _
  have ascending : threeCorners.Pairwise (· ≤ ·) := by
    norm_num [threeCorners]
  have rank : rankOf 25 threeCorners.length = 3 / 2 := by
    norm_num [rankOf, threeCorners]
  obtain ⟨-, x, made, onLine, grows, -, -⟩ :=
    @percentileOf_interpolates 25 (by decide) threeCorners nonempty ascending
  obtain rfl : x = 15 := by
    have straight := onLine.straight 0 (by decide)
    rw [rank] at straight
    rw [straight (by norm_num) (by norm_num)]
    norm_num [threeCorners]
  exact ⟨by decide, nonempty, ascending, made,
    grows 75 (by decide)⟩

end EarthBins
