/-
The row of a latitude is the one with the nearest center.

No row of a layout has a center nearer to a latitude than the row that the
search chooses, and of two rows whose centers are equally near the search
chooses the northern one. This says all about the search on real latitudes,
since no two rows have this property (`nearestRow_eq_iff`).

# Distances and borders

The nearer one of two centers is told by the latitude half way between them
(`midpoint_le_iff`). The search only compares neighbouring rows, by the
border between them; as centers descend, the midpoint of two rows farther
apart lies beyond that border on the same side.
-/
import EarthBins.Proofs.Grid.Bands

namespace EarthBins.RowLayout

open Exact

variable {rows : List (Nat × ℝ)} {r s : Nat} {lat : Exact} {x : ℝ}

/-- The northern one of two centers is not farther from a latitude than the
southern one if the latitude is not south of the midpoint. -/
theorem midpoint_le_iff {north south : ℝ} (descends : south < north) :
    |north - x| ≤ |south - x| ↔ (north + south) / 2 ≤ x := by
  have squares : (south - x) ^ 2 - (north - x) ^ 2
      = (north - south) * (2 * x - (north + south)) := by
    ring
  rw [← sq_le_sq, ← sub_nonneg, squares,
    mul_nonneg_iff_of_pos_left (sub_pos.mpr descends)]
  constructor
  · intro h
    linarith
  · intro h
    linarith

/-- Whether a row is the nearest one to a latitude: no center is nearer than
its own, and the rows whose centers are equally near lie behind it. -/
structure IsNearest (rows : List (Nat × ℝ)) (x : ℝ) (r : Nat) : Prop where
  inside : r < rows.length
  nearest : ∀ s < rows.length, |centerAt rows r - x| ≤ |centerAt rows s - x|
  northern : ∀ s < rows.length,
    |centerAt rows s - x| = |centerAt rows r - x| → r ≤ s

/-- There is one nearest row at most. -/
theorem IsNearest.unique (hr : IsNearest rows x r) (hs : IsNearest rows x s) :
    r = s := by
  have same := le_antisymm (hr.nearest s hs.inside) (hs.nearest r hr.inside)
  exact Nat.le_antisymm (hr.northern s hs.inside same.symm)
    (hs.northern r hr.inside same)

section

variable (descends : rows.Pairwise fun north south => south.2 < north.2)
include descends

theorem centerAt_le (before : r ≤ s) (h : s < rows.length) :
    centerAt rows s ≤ centerAt rows r := by
  rcases Nat.lt_or_eq_of_le before with before | rfl
  · exact (centerAt_lt descends before h).le
  · exact le_refl _

/-- The midpoint of a row and one behind it is not north of the southern
border of the row. -/
theorem midpoint_le_border (behind : r < s) (h : s < rows.length) :
    (centerAt rows r + centerAt rows s) / 2 ≤ border rows r := by
  have := centerAt_le descends (Nat.succ_le_of_lt behind) h
  unfold border
  push_cast
  linarith

/-- The midpoint of a row and one before it is not south of the northern
border of the row. -/
theorem border_le_midpoint (before : s ≤ r) (h : r + 1 < rows.length) :
    border rows r ≤ (centerAt rows s + centerAt rows (r + 1)) / 2 := by
  have := centerAt_le descends before (Nat.lt_of_succ_lt h)
  unfold border
  push_cast
  linarith

/-- The row in whose band a latitude lies is the nearest one. -/
theorem isNearest_of_inBand (band : InBand rows r (real x)) :
    IsNearest rows x r := by
  have inside := band.inside
  -- rows behind are not nearer, and rows before are farther away
  have behind (s : Nat) (hs : s < rows.length) (lt : r < s) :
      |centerAt rows r - x| ≤ |centerAt rows s - x| := by
    rw [midpoint_le_iff (centerAt_lt descends lt hs)]
    have north := (real_le _ _).mp (band.north (by omega))
    exact (midpoint_le_border descends lt hs).trans north
  have before (s : Nat) (lt : s < r) :
      |centerAt rows r - x| < |centerAt rows s - x| := by
    obtain ⟨r, rfl⟩ := Nat.exists_eq_succ_of_ne_zero (Nat.ne_zero_of_lt lt)
    rw [← not_le, midpoint_le_iff (centerAt_lt descends lt inside), not_le]
    have south := (real_lt _ _).mp (band.south r.succ_pos)
    exact south.trans_le
      (border_le_midpoint descends (Nat.le_of_lt_succ lt) inside)
  refine ⟨inside, fun s hs => ?_, fun s hs same => ?_⟩
  · rcases lt_trichotomy r s with lt | rfl | lt
    · exact behind s hs lt
    · exact le_refl _
    · exact (before s lt).le
  · by_contra lt
    exact (before s (not_le.mp lt)).ne' same

variable (nonempty : 0 < rows.length)
include nonempty

/-- The search ends at the nearest row. -/
theorem nearestRow_eq_iff :
    (ofReal rows).nearestRow (real x) = r ↔ IsNearest rows x r := by
  have nearest := isNearest_of_inBand descends
    (nearestRow_inBand descends nonempty (real_ne_nan x))
  constructor
  · rintro rfl
    exact nearest
  · intro h
    exact nearest.unique h

/-- A latitude at or north of the first center belongs to the first row. -/
theorem nearestRow_of_le (north : real (centerAt rows 0) ≤ lat) :
    (ofReal rows).nearestRow lat = 0 := by
  have number := (Exact.le_iff.mp north).2.1
  have band := nearestRow_inBand descends nonempty number
  have inside := band.inside
  by_contra positive
  have positive := Nat.pos_of_ne_zero positive
  have south := band.south positive
  have first := border_le descends
    (Nat.zero_le ((ofReal rows).nearestRow lat - 1)) (by omega)
  have between := (border_between descends (r := 0) (by omega)).2
  rw [real_le_iff number] at north
  rw [lt_real_iff number] at south
  exact (north.trans_lt south).not_ge
    (EReal.coe_le_coe_iff.mpr (first.trans between.le))

/-- A latitude at or south of the last center belongs to the last row. -/
theorem nearestRow_of_ge (south : lat ≤ real (centerAt rows (rows.length - 1))) :
    (ofReal rows).nearestRow lat = rows.length - 1 := by
  have number := (Exact.le_iff.mp south).1
  have band := nearestRow_inBand descends nonempty number
  have inside := band.inside
  by_contra other
  have next : (ofReal rows).nearestRow lat + 1 < rows.length := by omega
  have north := band.north next
  have last := centerAt_le descends (Nat.le_sub_one_of_lt next) (by omega)
  have between := (border_between descends next).1
  rw [le_real_iff number] at south
  rw [real_le_iff number] at north
  exact (north.trans south).not_gt
    (EReal.coe_lt_coe_iff.mpr (last.trans_lt between))

end

/-- In a layout with a row, whose center latitudes descend from row to row,
the row found for a real latitude is the one with the nearest center, and the
northern one of two that are equally near. All latitudes at or beyond the
outermost centers, the infinite ones among them, belong to the first or the
last row. Distances are computed without rounding. -/
theorem nearestRow_minimizes
    (descends : rows.Pairwise fun north south => south.2 < north.2)
    (nonempty : 0 < rows.length) :
    (∀ (x : ℝ) (r : Nat),
      (ofReal rows).nearestRow (real x) = r
        ↔ r < rows.length
          ∧ ∀ s < rows.length,
            |centerAt rows r - x| ≤ |centerAt rows s - x|
            ∧ (|centerAt rows s - x| = |centerAt rows r - x| → r ≤ s))
    ∧ (∀ lat : Exact, real (centerAt rows 0) ≤ lat →
      (ofReal rows).nearestRow lat = 0)
    ∧ (∀ lat : Exact, lat ≤ real (centerAt rows (rows.length - 1)) →
      (ofReal rows).nearestRow lat = rows.length - 1) := by
  refine ⟨fun x r => ?_, fun lat => nearestRow_of_le descends nonempty,
    fun lat => nearestRow_of_ge descends nonempty⟩
  rw [nearestRow_eq_iff descends nonempty]
  constructor
  · rintro ⟨inside, nearest, northern⟩
    exact ⟨inside, fun s hs => ⟨nearest s hs, northern s hs⟩⟩
  · rintro ⟨inside, all⟩
    exact ⟨inside, fun s hs => (all s hs).1, fun s hs => (all s hs).2⟩

/-- Two rows at the same distance from the equator, and one near the southern
pole. -/
noncomputable def leaning : List (Nat × ℝ) :=
  [(4, 30), (4, -30), (1, -80)]

/-- The equator belongs to the first row though the second is as near, and
what is south of the last center to the last row. -/
theorem nearestRow_minimizes_leaning :
    leaning.Pairwise (fun north south => south.2 < north.2)
    ∧ 0 < leaning.length
    ∧ (ofReal leaning).nearestRow (real 0) = 0
    ∧ (ofReal leaning).nearestRow (real (-90)) = 2 := by
  have descends : leaning.Pairwise fun north south => south.2 < north.2 := by
    norm_num [leaning]
  have nonempty : 0 < leaning.length := by decide
  obtain ⟨nearest, -, last⟩ := nearestRow_minimizes descends nonempty
  refine ⟨descends, nonempty, (nearest 0 0).mpr ⟨nonempty, ?_⟩, last _ ?_⟩
  · intro s hs
    refine ⟨?_, fun _ => Nat.zero_le s⟩
    have hs : s < 3 := hs
    interval_cases s <;> norm_num [centerAt, leaning]
  · rw [real_le]
    norm_num [centerAt, leaning]

end EarthBins.RowLayout
