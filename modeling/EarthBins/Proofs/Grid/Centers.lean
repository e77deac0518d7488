/-
Centers and their bins, without rounding.

In exact arithmetic a bin is found again from its center. The longitude of
a center lies within the circle, so that wrapping leaves it alone, and half
a column behind the western end of its column. In a regular grid the same
holds for the latitude. In a layout the rows at or north of the center of a
row are the rows up to this one as long as latitudes descend from row to
row, so the search for the nearest row ends there, and what is nearest to a
center is the center itself.
-/
import EarthBins.Grid
import EarthBins.Proofs.Grid.Numbering
import EarthBins.Proofs.Scalar.Exact

namespace EarthBins

open Exact

-- ============================================================= columns

/-- Half a step behind an integer the integer part is that integer. -/
theorem floor_add_half (n : Nat) : ⌊(n : ℝ) + 1 / 2⌋₊ = n := by
  rw [Nat.floor_eq_iff (by positivity)]
  constructor
  · linarith
  · linarith

namespace Longitude

theorem center_real (c : Nat) {n : Nat} (h : 0 < n) :
    (center c n : Exact) = real (360 * (((c : ℝ) + 1 / 2) / n) - 180) := by
  have nonzero : (n : ℝ) ≠ 0 := by positivity
  simp [center, nonzero]

/-- A longitude within the circle is not wrapped. -/
theorem wrap_real_of_mem {x : ℝ} (low : -180 ≤ x) (high : x < 180) :
    wrap (real x) = real x := by
  unfold wrap
  dsimp only
  rw [numeral_eq, numeral_eq, real_add,
    mod_real_of_mem (by push_cast; linarith) (by push_cast; linarith),
    real_sub, add_sub_cancel_right, if_neg]
  rw [real_le, not_le]
  exact_mod_cast high

/-- A column is found again from its center. -/
theorem column_center {c n : Nat} (h : c < n) :
    column (center c n : Exact) n = c := by
  have positive : (0 : ℝ) < n := by exact_mod_cast Nat.zero_lt_of_lt h
  have inside : (c : ℝ) + 1 ≤ n := by exact_mod_cast h
  have low : 0 < ((c : ℝ) + 1 / 2) / n := by positivity
  have high : ((c : ℝ) + 1 / 2) / n < 1 := by
    rw [div_lt_one positive]
    linarith
  have scaled : (360 * (((c : ℝ) + 1 / 2) / n) - 180 + (180 : Nat))
      / (360 : Nat) * n = c + 1 / 2 := by
    push_cast
    field_simp
    ring
  unfold column
  rw [center_real c (Nat.zero_lt_of_lt h),
    wrap_real_of_mem (by linarith) (by linarith), numeral_eq, numeral_eq,
    real_add, real_div, ofNat_eq, real_mul, toNat_real, scaled,
    floor_add_half]
  · omega
  · norm_num

end Longitude

-- ======================================================= regular grids

namespace RegularGrid

/-- A row is found again from its center latitude. -/
theorem rowOf_centerLat (g : RegularGrid) {r : Nat} (h : r < g.numRows) :
    g.rowOf (g.centerLat r : Exact) = r := by
  have nonzero : (g.numRows : ℝ) ≠ 0 := by
    exact_mod_cast (Nat.zero_lt_of_lt h).ne'
  have center : (g.centerLat r : Exact)
      = real (90 - ((r : ℝ) + 1 / 2) * (180 / g.numRows)) := by
    simp [centerLat, resolution, nonzero]
  have scaled : ((90 : Nat) - (90 - ((r : ℝ) + 1 / 2) * (180 / g.numRows)))
      / ((180 : Nat) / g.numRows) = r + 1 / 2 := by
    push_cast
    field_simp
    ring
  unfold rowOf
  rw [center, resolution, numeral_eq, numeral_eq, ofNat_eq,
    real_div _ _ nonzero, real_sub, real_div, toNat_real, scaled,
    floor_add_half]
  · omega
  · positivity

/-- A bin of a regular grid is found again from its center. -/
theorem binOf_center (g : RegularGrid) {bin : Nat} (h : bin < g.numBins) :
    g.binOf (g.centerOf bin : Exact × Exact).1 (g.centerOf bin).2 = bin := by
  have inside : g.rowOfBin bin < g.numRows :=
    (Nat.div_lt_iff_lt_mul g.columns_pos).mpr h
  unfold binOf centerOf
  rw [g.rowOf_centerLat inside,
    Longitude.column_center (Nat.mod_lt bin g.columns_pos)]
  exact Nat.div_add_mod' bin g.columns

end RegularGrid

-- ============================================================= layouts

namespace RowLayout

/-- A layout whose center latitudes are real numbers. -/
def ofReal (rows : List (Nat × ℝ)) : RowLayout Exact :=
  ofRows (rows.map fun row => (row.1, real row.2))

/-- Whether every row has columns, and lies south of the rows before it. -/
def IsDescending (l : RowLayout Exact) : Prop :=
  ∃ rows : List (Nat × ℝ), l = ofReal rows ∧ (∀ row ∈ rows, 1 ≤ row.1)
    ∧ rows.Pairwise fun north south => south.2 < north.2

variable {rows : List (Nat × ℝ)} {r : Nat}

theorem row?_ofReal (h : r < rows.length) :
    (ofReal rows).row? r = some
      ⟨rows[r].1, real rows[r].2,
        start (rows.map fun row => (row.1, real row.2)) r⟩ := by
  unfold ofReal
  rw [row?_ofRows (by rwa [List.length_map])]
  simp

theorem row?_ofReal_eq_none (h : rows.length ≤ r) :
    (ofReal rows).row? r = none :=
  row?_ofRows_eq_none (by rwa [List.length_map])

/-- The rows at or north of the center of a row are the first ones, up to
this row. -/
theorem leading_of_center
    (descends : rows.Pairwise fun north south => south.2 < north.2)
    (h : r < rows.length) :
    Leading (fun row => decide (real rows[r].2 ≤ row.centerLat))
      (ofReal rows).rows (r + 1) := by
  have order := List.pairwise_iff_getElem.mp descends
  refine leading_ofRows (by rwa [List.length_map]) fun i hi => ?_
  rw [List.length_map] at hi
  rw [decide_eq_true_eq, List.getElem_map, real_le]
  constructor
  · intro north
    by_contra behind
    have := order r i h hi (by omega)
    linarith
  · intro before
    rcases Nat.lt_or_eq_of_le (Nat.le_of_lt_succ before) with north | rfl
    · exact (order i r hi h north).le
    · exact le_refl _

/-- A row is found again from its center latitude. -/
theorem nearestRow_center
    (descends : rows.Pairwise fun north south => south.2 < north.2)
    (h : r < rows.length) :
    (ofReal rows).nearestRow (real rows[r].2) = r := by
  have here : (ofReal rows).rows[r]? = _ := row?_ofReal h
  unfold nearestRow
  dsimp only
  rw [partitionPoint_of_leading (leading_of_center descends h),
    Nat.add_sub_cancel, here]
  by_cases last : r + 1 < rows.length
  · have next : (ofReal rows).rows[r + 1]? = _ := row?_ofReal last
    have south := List.pairwise_iff_getElem.mp descends r (r + 1) h last
      (Nat.lt_succ_self r)
    rw [next]
    dsimp only
    rw [if_neg (Nat.succ_ne_zero r), if_pos]
    rw [real_sub, real_sub, real_le]
    linarith
  · have outside : (ofReal rows).rows[r + 1]? = none :=
      row?_ofReal_eq_none (by omega)
    rw [outside]
    dsimp only
    unfold ofReal
    rw [numRows_ofRows, List.length_map]
    omega

/-- A bin is a column of a row, and its center that of the column and the
row, as long as columns are counted in 32 bits. -/
theorem exists_center (short : ∀ row ∈ rows, row.1 < 2 ^ 32) {bin : Nat}
    (h : bin < (ofReal rows).numBins) :
    ∃ r c, ∃ hr : r < rows.length, c < rows[r].1
      ∧ start (rows.map fun row => (row.1, real row.2)) r + c = bin
      ∧ (ofReal rows).centerOf bin
        = (real rows[r].2, Longitude.center c rows[r].1) := by
  obtain ⟨hr, low, high⟩ := rowOfBin_holds h
  have short : ∀ row ∈ rows.map fun row => (row.1, real row.2),
      row.1 < 2 ^ 32 := by
    intro row hrow
    obtain ⟨row', hrow', rfl⟩ := List.mem_map.mp hrow
    exact short row' hrow'
  obtain ⟨_, center⟩ := centerOf_ofRows short h
  rw [firstAt_ofRows hr] at center
  simp only [List.getElem_map] at center high
  rw [List.length_map] at hr
  exact ⟨_, _, hr, by omega, by omega, center⟩

/-- A bin of a layout is found again from its center if latitudes
descend. -/
theorem binOf_center
    (descends : rows.Pairwise fun north south => south.2 < north.2)
    (short : ∀ row ∈ rows, row.1 < 2 ^ 32) {bin : Nat}
    (h : bin < (ofReal rows).numBins) :
    (ofReal rows).binOf ((ofReal rows).centerOf bin).1
      ((ofReal rows).centerOf bin).2 = bin := by
  obtain ⟨r, c, hr, inside, rfl, center⟩ := exists_center short h
  unfold binOf
  rw [center, nearestRow_center descends hr, row?_ofReal hr]
  dsimp only
  rw [Longitude.column_center inside]

end RowLayout

end EarthBins
