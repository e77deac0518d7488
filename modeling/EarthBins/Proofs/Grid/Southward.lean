/-
Going south never leads back to a bin of a lower number.

Rows are bands of latitude, so of two latitudes the southern one has the
row of the other or one behind it. In the same row both have the column of
the longitude. In a row behind it a bin comes after all bins of the other
row, however wide that row is: a row starts behind the last column of the
row before it.
-/
import EarthBins.Proofs.Grid.Bands
import EarthBins.Proofs.Grid.Latitudes
import EarthBins.Proofs.Grid.Location

namespace EarthBins

open Exact

variable {lat lat' : Exact}

-- ============================================================= layouts

namespace RowLayout

variable {rows : List (Nat × ℝ)}

theorem nearestRow_southward
    (descends : rows.Pairwise fun north south => south.2 < north.2)
    (south : lat' ≤ lat) :
    (ofReal rows).nearestRow lat ≤ (ofReal rows).nearestRow lat' := by
  rcases Nat.eq_zero_or_pos rows.length with empty | nonempty
  · rw [List.length_eq_zero_iff.mp empty]
    exact le_refl _
  obtain ⟨number', number, ordered⟩ := Exact.le_iff.mp south
  have band := nearestRow_inBand descends nonempty number
  have band' := nearestRow_inBand descends nonempty number'
  -- A row before that of the northern latitude ends north of it.
  by_contra back
  rw [not_le] at back
  have inside := band.inside
  have high := band.south (Nat.zero_lt_of_lt back)
  have low := band'.north (by omega)
  rw [lt_real_iff number] at high
  rw [real_le_iff number'] at low
  have borders := border_le descends (Nat.le_sub_one_of_lt back) (by omega)
  exact (high.trans_le (EReal.coe_le_coe_iff.mpr borders)).not_ge
    (low.trans ordered)

/-- The bins of a row come before those of a row behind it. -/
theorem start_add_lt {α : Type} {rows : List (Nat × α)} {r s c : Nat}
    (before : r < s) (hr : r < rows.length) (hc : c < rows[r].1) :
    start rows r + c < start rows s := by
  have next := start_mono rows (Nat.succ_le_of_lt before)
  rw [Nat.succ_eq_add_one, start_succ hr] at next
  omega

theorem binOf_southward
    (descends : rows.Pairwise fun north south => south.2 < north.2)
    (columns : ∀ row ∈ rows, 1 ≤ row.1) (south : lat' ≤ lat) (lon : Exact) :
    (ofReal rows).binOf lat lon ≤ (ofReal rows).binOf lat' lon := by
  rcases Nat.eq_zero_or_pos rows.length with empty | nonempty
  · rw [List.length_eq_zero_iff.mp empty]
    exact le_refl _
  obtain ⟨number', number, -⟩ := Exact.le_iff.mp south
  have inside := (nearestRow_inBand descends nonempty number).inside
  have inside' := (nearestRow_inBand descends nonempty number').inside
  rw [binOf_ofReal lat lon inside, binOf_ofReal lat' lon inside']
  rcases Nat.lt_or_eq_of_le (nearestRow_southward descends south) with
    before | same
  · have column := Longitude.column_lt lon
      (columns _ (List.getElem_mem inside))
    refine Nat.le_trans (Nat.le_of_lt ?_) (Nat.le_add_right _ _)
    exact start_add_lt before (by rwa [List.length_map])
      (by rwa [List.getElem_map])
  · simp only [same, le_refl]

end RowLayout

-- ======================================================= regular grids

namespace RegularGrid

theorem rowOf_southward (g : RegularGrid) (short : g.numRows < 2 ^ 31)
    (south : lat' ≤ lat) : g.rowOf lat ≤ g.rowOf lat' := by
  obtain ⟨number', number, ordered⟩ := Exact.le_iff.mp south
  have band := g.rowOf_inBand short number
  have band' := g.rowOf_inBand short number'
  by_contra back
  rw [not_le] at back
  have inside := band.inside
  have high := band.south (Nat.zero_lt_of_lt back)
  have low := band'.north (by omega)
  rw [le_real_iff number] at high
  rw [real_lt_iff number'] at low
  have edges := g.edge_le_iff.mpr (Nat.succ_le_of_lt back)
  exact (high.trans (EReal.coe_le_coe_iff.mpr edges)).not_gt
    (low.trans_le ordered)

theorem binOf_southward (g : RegularGrid) (short : g.numRows < 2 ^ 31)
    (south : lat' ≤ lat) (lon : Exact) :
    g.binOf lat lon ≤ g.binOf lat' lon :=
  Nat.add_le_add_right
    (Nat.mul_le_mul_right _ (g.rowOf_southward short south)) _

end RegularGrid

-- ============================================================ all grids

/-- Of two latitudes at one longitude the southern one has a row and a bin
of no lower number, for every grid whose latitudes descend from row to row,
as long as columns are counted in 32 bits, and for all numbers a latitude
can be, those beyond the poles and the infinite ones among them. Rows and
bins are computed from the stored latitudes without rounding. -/
theorem Grid.rowAt_le_and_binOf_le (grid : Grid Exact)
    (descending : grid.IsDescending) (counted : grid.IsCounted)
    (south : lat' ≤ lat) (lon : Exact) :
    grid.rowAt lat ≤ grid.rowAt lat'
      ∧ grid.binOf lat lon ≤ grid.binOf lat' lon := by
  have layout : ∀ l : RowLayout Exact, l.IsDescending →
      l.nearestRow lat ≤ l.nearestRow lat'
        ∧ l.binOf lat lon ≤ l.binOf lat' lon := by
    rintro _ ⟨rows, rfl, columns, descends⟩
    exact ⟨RowLayout.nearestRow_southward descends south,
      RowLayout.binOf_southward descends columns south lon⟩
  cases grid with
  | regular g =>
      have short : g.numRows < 2 ^ 31 := by
        have := counted 0 g.columns rfl
        unfold RegularGrid.columns at this
        omega
      exact ⟨g.rowOf_southward short south, g.binOf_southward short south lon⟩
  | reducedGaussian n l => exact layout l descending
  | equalArea l => exact layout l descending

/-- Three columns in the north and one in the south. -/
noncomputable def funnel : Grid Exact :=
  .reducedGaussian 1 (RowLayout.ofReal [(3, 45), (1, -45)])

/-- From the border of the two rows to a latitude beyond the pole the
number of the bin does not fall, though the southern row is narrow. -/
theorem Grid.rowAt_le_and_binOf_le_funnel : funnel.IsDescending
    ∧ funnel.IsCounted ∧ (real (-100) : Exact) ≤ real 0
    ∧ funnel.rowAt (real 0) ≤ funnel.rowAt (real (-100))
    ∧ funnel.binOf (real 0) (real 179)
      ≤ funnel.binOf (real (-100)) (real 179) := by
  have descending : funnel.IsDescending := by
    refine ⟨_, rfl, ?_, ?_⟩
    · simp
    · norm_num
  have counted : funnel.IsCounted := by
    intro row columns h
    match row with
    | 0 =>
        cases h
        decide
    | 1 =>
        cases h
        decide
    | row + 2 => cases h
  have south : (real (-100) : Exact) ≤ real 0 := by
    rw [real_le]
    norm_num
  exact ⟨descending, counted, south,
    funnel.rowAt_le_and_binOf_le descending counted south (real 179)⟩

end EarthBins
