/-
The columns of a row as intervals of longitude.

A row of `c` columns cuts the circle `[-180, 180)` into `c` intervals of the
same width, closed in the west and open in the east. Without rounding the
column of a longitude is the interval that holds it, or that holds what is
left of it after some number of turns (`column_eq_iff`). The rest follows:
turns do not matter, columns do not fall towards the east, and a center is
the middle of its interval.

# Wrapping

What a longitude is wrapped to is Mathlib's remainder in the interval that
starts at -180 (`wrap_real`). It lies below 180, so the correction behind
the remainder is never made, and it scales to a number below the number of
columns, so the limit to the last column never applies (`column_real`).
-/
import EarthBins.Proofs.Grid.Centers
import Mathlib.Algebra.Order.ToIntervalMod

namespace EarthBins.Longitude

open Exact

variable {x y : ℝ} {c k : Nat}

-- ============================================================= wrapping

theorem turn_pos : (0 : ℝ) < 360 := by
  norm_num

/-- The longitude where the circle starts. -/
noncomputable def antimeridian : ℝ :=
  (-180 : Int)

theorem antimeridian_eq : antimeridian = -180 := by
  norm_num [antimeridian]

/-- The longitude in `[-180, 180)` that is a number of turns away. -/
noncomputable def principal (x : ℝ) : ℝ :=
  toIcoMod turn_pos antimeridian x

theorem principal_mem (x : ℝ) : -180 ≤ principal x ∧ principal x < 180 := by
  obtain ⟨low, high⟩ := toIcoMod_mem_Ico turn_pos antimeridian x
  refine ⟨antimeridian_eq.symm.trans_le low, high.trans_eq ?_⟩
  rw [antimeridian_eq]
  norm_num

/-- A longitude within the circle is the principal one of all that are a
number of turns away. -/
theorem principal_eq_iff :
    principal x = y
      ↔ (-180 ≤ y ∧ y < 180) ∧ ∃ m : ℤ, x + 360 * m = y := by
  have circle : (-180 : ℝ) + 360 = 180 := by norm_num
  rw [principal, toIcoMod_eq_iff, Set.mem_Ico, antimeridian_eq, circle]
  refine and_congr_right fun _ => ?_
  constructor
  · rintro ⟨z, rfl⟩
    refine ⟨-z, ?_⟩
    rw [zsmul_eq_mul]
    push_cast
    ring
  · rintro ⟨m, rfl⟩
    refine ⟨-m, ?_⟩
    rw [zsmul_eq_mul]
    push_cast
    ring

/-- A number of turns does not matter. -/
theorem principal_add_turns (x : ℝ) (j : ℤ) :
    principal (x + 360 * j) = principal x := by
  obtain ⟨inside, m, same⟩ := principal_eq_iff.mp (rfl : principal x = _)
  refine principal_eq_iff.mpr ⟨inside, m - j, ?_⟩
  rw [← same]
  push_cast
  ring

theorem wrap_real (x : ℝ) : wrap (real x) = real (principal x) := by
  have remainder : principal x
      = x + 180 - |360| * ⌊(x + 180) / |360|⌋ - 180 := by
    rw [principal, toIcoMod_eq_add_fract_mul, Int.fract, antimeridian_eq,
      sub_neg_eq_add, abs_of_pos turn_pos]
    ring
  have modulo : Scalar.mod (real (x + 180)) (real 360)
      = real (x + 180 - |360| * ⌊(x + 180) / |360|⌋) :=
    if_neg turn_pos.ne'
  unfold wrap
  dsimp only
  rw [numeral_eq, numeral_eq, real_add]
  push_cast
  rw [modulo, real_sub, ← remainder, if_neg]
  rw [real_le, not_le]
  exact (principal_mem x).2

-- ============================================================ intervals

/-- The western edge of a column in a row of `c` columns. -/
noncomputable def edge (c k : Nat) : ℝ :=
  antimeridian + 360 * k / c

theorem edge_eq (c k : Nat) : edge c k = -180 + 360 * (k : ℝ) / c := by
  rw [edge, antimeridian_eq]

/-- A longitude is not west of an edge if it scales to a number not below
that of the column. -/
theorem edge_le_iff (h : 0 < c) :
    edge c k ≤ y ↔ (k : ℝ) ≤ (y + 180) / 360 * c := by
  have positive : (0 : ℝ) < c := by exact_mod_cast h
  rw [edge_eq, neg_add_le_iff_le_add, add_comm, div_le_iff₀ positive]
  constructor
  · intro le
    linarith
  · intro le
    linarith

theorem lt_edge_iff (h : 0 < c) :
    y < edge c k ↔ (y + 180) / 360 * c < k := by
  rw [← not_le, edge_le_iff h, not_le]

/-- The first column starts where the circle does. -/
theorem edge_zero (c : Nat) : edge c 0 = -180 := by
  simp [edge_eq]

/-- The last column ends where the circle does. -/
theorem edge_self (h : 0 < c) : edge c c = 180 := by
  have positive : (c : ℝ) ≠ 0 := by exact_mod_cast h.ne'
  rw [edge_eq, mul_div_cancel_right₀ _ positive]
  norm_num

theorem edge_mono (c : Nat) : Monotone (edge c) := by
  intro k k' le
  unfold edge
  gcongr

theorem edge_strictMono (h : 0 < c) : StrictMono (edge c) := by
  intro k k' lt
  have positive : (0 : ℝ) < c := by exact_mod_cast h
  unfold edge
  gcongr

-- ============================================================== columns

/-- A longitude scales to a number below that of the columns. -/
theorem scaled_lt (h : 0 < c) (x : ℝ) :
    ⌊(principal x + 180) / 360 * c⌋₊ < c := by
  rw [Nat.floor_lt' h.ne', ← lt_edge_iff h, edge_self h]
  exact (principal_mem x).2

theorem toNat_scaled (c : Nat) (x : ℝ) :
    Scalar.toNat ((wrap (real x) + 180) / 360 * Scalar.ofNat c)
      = ⌊(principal x + 180) / 360 * c⌋₊ := by
  rw [wrap_real, numeral_eq, numeral_eq, real_add, real_div, ofNat_eq,
    real_mul, toNat_real]
  · push_cast
    rfl
  · norm_num

/-- The limit to the last column does not matter. -/
theorem column_real (h : 0 < c) (x : ℝ) :
    column (real x) c = ⌊(principal x + 180) / 360 * c⌋₊ := by
  have inside := scaled_lt h x
  rw [column, toNat_scaled]
  omega

/-- The column of a longitude is the interval that its principal longitude
lies in. -/
theorem column_eq_iff_edges (h : 0 < c) (x : ℝ) :
    column (real x) c = k
      ↔ edge c k ≤ principal x ∧ principal x < edge c (k + 1) := by
  have low : (principal x + 180) / 360 * c ≥ 0 := by
    have := (principal_mem x).1
    have : 0 ≤ principal x + 180 := by linarith
    positivity
  rw [column_real h, Nat.floor_eq_iff low, edge_le_iff h, lt_edge_iff h,
    Nat.cast_add_one]

/-- The column of a longitude is the interval that some number of turns
brings it to. -/
theorem column_eq_iff (h : 0 < c) (x : ℝ) :
    column (real x) c = k
      ↔ k < c ∧ ∃ m : ℤ,
        edge c k ≤ x + 360 * m ∧ x + 360 * m < edge c (k + 1) := by
  rw [column_eq_iff_edges h]
  constructor
  · intro here
    obtain ⟨-, m, same⟩ := principal_eq_iff.mp (rfl : principal x = _)
    refine ⟨?_, m, same ▸ here⟩
    rw [← (column_eq_iff_edges h x).mpr here]
    exact column_lt (real x) h
  · rintro ⟨inside, m, low, high⟩
    have west : -180 ≤ edge c k :=
      (edge_zero c).symm.trans_le (edge_mono c k.zero_le)
    have east : edge c (k + 1) ≤ 180 :=
      (edge_mono c inside).trans_eq (edge_self h)
    have wrapped : principal x = x + 360 * m :=
      principal_eq_iff.mpr
        ⟨⟨west.trans low, high.trans_le east⟩, m, rfl⟩
    rw [wrapped]
    exact ⟨low, high⟩

/-- Towards the east the columns do not fall. -/
theorem column_mono (h : 0 < c) (low : -180 ≤ x) (le : x ≤ y)
    (high : y < 180) : column (real x) c ≤ column (real y) c := by
  have principal_x : principal x = x :=
    principal_eq_iff.mpr ⟨⟨low, le.trans_lt high⟩, 0, by simp⟩
  have principal_y : principal y = y :=
    principal_eq_iff.mpr ⟨⟨low.trans le, high⟩, 0, by simp⟩
  rw [column_real h, column_real h, principal_x, principal_y]
  gcongr

-- ============================================================== centers

/-- The center of a column is the middle of its interval. -/
theorem center_eq_midpoint (h : 0 < c) (k : Nat) :
    (center k c : Exact) = real ((edge c k + edge c (k + 1)) / 2) := by
  have nonzero : (c : ℝ) ≠ 0 := by exact_mod_cast h.ne'
  rw [center_real k h]
  rw [edge_eq, edge_eq]
  congr 1
  push_cast
  field_simp
  ring

theorem midpoint_lt (h : 0 < c) {k k' : Nat} (lt : k < k') :
    (edge c k + edge c (k + 1)) / 2 < (edge c k' + edge c (k' + 1)) / 2 := by
  have first := edge_strictMono h lt
  have second := edge_strictMono h (Nat.succ_lt_succ lt)
  linarith

theorem midpoint_mem (inside : k < c) :
    -180 < (edge c k + edge c (k + 1)) / 2
      ∧ (edge c k + edge c (k + 1)) / 2 < 180 := by
  have h := Nat.zero_lt_of_lt inside
  have west := edge_mono c k.zero_le
  have width := edge_strictMono h k.lt_succ_self
  have east := edge_mono c (Nat.succ_le_of_lt inside)
  rw [edge_zero] at west
  rw [edge_self h] at east
  constructor
  · linarith
  · linarith

/-- For every number of columns and every real longitude, the column of the
longitude is the one interval that some number of turns brings it to, where
the intervals cut the circle into equal parts. So turns do not matter, and
within the circle columns do not fall towards the east. The scaled longitude
is a column before it is limited to the last one. The center of a column is
the middle of its interval; it lies within the circle, and west of the
centers of the columns behind it. Nothing is rounded here. -/
theorem column_is_interval (h : 0 < c) :
    (∀ (x : ℝ) (k : Nat), column (real x) c = k
      ↔ k < c ∧ ∃ m : ℤ, -180 + 360 * (k : ℝ) / c ≤ x + 360 * m
        ∧ x + 360 * m < -180 + 360 * ((k : ℝ) + 1) / c)
    ∧ (∀ (x : ℝ) (j : ℤ),
      column (real (x + 360 * j)) c = column (real x) c)
    ∧ (∀ x y : ℝ, -180 ≤ x → x ≤ y → y < 180 →
      column (real x) c ≤ column (real y) c)
    ∧ (∀ x : ℝ, column (real x) c
      = Scalar.toNat ((wrap (real x) + 180) / 360 * Scalar.ofNat c))
    ∧ (∀ k < c, (center k c : Exact)
        = real ((-180 + 360 * (k : ℝ) / c
          + (-180 + 360 * ((k : ℝ) + 1) / c)) / 2)
      ∧ real (-180) < (center k c : Exact) ∧ center k c < real 180)
    ∧ ∀ k k' : Nat, k < k' → (center k c : Exact) < center k' c := by
  have next (k : Nat) : edge c (k + 1) = -180 + 360 * ((k : ℝ) + 1) / c := by
    rw [edge_eq, Nat.cast_add_one]
  refine ⟨fun x k => ?_, fun x j => ?_, fun x y => column_mono h,
    fun x => ?_, fun k inside => ?_, fun k k' lt => ?_⟩
  · rw [← next, ← edge_eq]
    exact column_eq_iff h x
  · rw [column_real h, column_real h, principal_add_turns]
  · rw [column_real h, toNat_scaled]
  · rw [← next, ← edge_eq, center_eq_midpoint h]
    exact ⟨rfl, (real_lt _ _).mpr (midpoint_mem inside).1,
      (real_lt _ _).mpr (midpoint_mem inside).2⟩
  · rw [center_eq_midpoint h, center_eq_midpoint h, real_lt]
    exact midpoint_lt h lt

/-- Of three columns the first one starts at the antimeridian, from the east
as well, and the second one at -60, three turns to the west as well. -/
theorem column_is_interval_thirds : 0 < 3
    ∧ column (real 180) 3 = 0
    ∧ column (real (-60 - 3 * 360)) 3 = 1
    ∧ column (real (-60 - 3 * 360 - 1 / 2)) 3 = 0 := by
  have positive : 0 < 3 := by decide
  obtain ⟨intervals, -⟩ := column_is_interval positive
  refine ⟨positive, (intervals _ 0).mpr ⟨by decide, -1, ?_⟩,
    (intervals _ 1).mpr ⟨by decide, 3, ?_⟩,
    (intervals _ 0).mpr ⟨by decide, 3, ?_⟩⟩
  · norm_num
  · norm_num
  · norm_num

end EarthBins.Longitude
