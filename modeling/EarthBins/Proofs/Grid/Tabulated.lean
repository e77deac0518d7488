/-
A regular grid is what the layout of its rows is, borders apart.

Written down row by row, the rows of a regular grid make a layout with the
same bins: rows start at the same bins, bins have the same rows and the
same centers, and without rounding a position has the same bin, because the
borders half way between the centers are the edges of the rows. The two
differ where a latitude lies on the edge between two rows and nowhere else:
the regular grid drops the fraction of a quotient and takes the southern
row, the layout takes the northern one of two rows that are equally near.
The column is the same in both.
-/
import EarthBins.Proofs.Grid.Bands
import EarthBins.Proofs.Grid.Location

namespace EarthBins

open Exact

namespace RegularGrid

variable (g : RegularGrid)

/-- The rows of a regular grid, each with its columns and its center. -/
noncomputable def tabulated : List (Nat × ℝ) :=
  (List.range g.numRows).map fun r : Nat =>
    (g.columns, ((90 - (r + 1 / 2) * 180 / g.numRows : ℚ) : ℝ))

/-- The layout of these rows. -/
noncomputable def table : RowLayout Exact := .ofReal g.tabulated

-- ================================================================ rows

@[simp]
theorem length_tabulated : g.tabulated.length = g.numRows := by
  simp [tabulated]

theorem getElem_tabulated {r : Nat} (h : r < g.tabulated.length) :
    g.tabulated[r]
      = (g.columns, 90 - ((r : ℝ) + 1 / 2) * 180 / g.numRows) := by
  simp [tabulated]

theorem centerAt_tabulated {r : Nat} (h : r < g.numRows) :
    RowLayout.centerAt g.tabulated r
      = 90 - (r + 1 / 2) * 180 / g.numRows := by
  rw [RowLayout.centerAt_eq (by rwa [length_tabulated]), getElem_tabulated]

theorem descends_tabulated :
    g.tabulated.Pairwise fun north south => south.2 < north.2 := by
  refine List.pairwise_map.mpr (List.pairwise_lt_range.imp ?_)
  intro north south before
  have before : (north : ℝ) < south := by exact_mod_cast before
  have := mul_lt_mul_of_pos_right before g.height_pos
  push_cast
  rw [mul_div_assoc, mul_div_assoc]
  linarith

/-- Half way between two centers is the edge between their rows. -/
theorem border_tabulated {r : Nat} (h : r + 1 < g.numRows) :
    RowLayout.border g.tabulated r = g.edge (r + 1) := by
  unfold RowLayout.border edge
  rw [g.centerAt_tabulated (Nat.lt_of_succ_lt h), g.centerAt_tabulated h]
  push_cast
  ring

/-- A row starts behind the rows before it, which have equally many
columns. -/
theorem start_tabulated {r : Nat} (h : r ≤ g.numRows) :
    RowLayout.start (g.tabulated.map fun row => (row.1, real row.2)) r
      = g.firstBin r := by
  unfold RowLayout.start tabulated firstBin
  rw [List.map_map, ← List.map_take, List.map_map, List.take_range,
    Nat.min_eq_left h]
  show ((List.range r).map fun _ => g.columns).sum = r * g.columns
  simp

/-- A cell of a regular grid has the center of its row and column. -/
theorem centerOf_firstBin_add {r c : Nat} (hr : r < g.numRows)
    (hc : c < g.columns) :
    (g.centerOf (g.firstBin r + c) : Exact × Exact)
      = (real (90 - (r + 1 / 2) * 180 / g.numRows),
        Longitude.center c g.columns) := by
  have column : (g.firstBin r + c) % g.columns = c := by
    unfold firstBin
    rw [Nat.mul_comm, Nat.mul_add_mod, Nat.mod_eq_of_lt hc]
  unfold centerOf centerLat
  rw [(g.columns_of_row hr hc).2, column, resolution_real, numeral_eq,
    ofNat_eq, half_eq, real_add, real_mul, real_sub, mul_div_assoc]
  norm_num

-- =========================================================== latitudes

variable {lat : Exact}

/-- A latitude has the same row in a regular grid and in its table, or it
lies on the edge between two rows and has the southern one in the grid. -/
theorem nearestRow_table_or (short : g.numRows < 2 ^ 31)
    (number : lat ≠ nan) :
    g.table.nearestRow lat = g.rowOf lat
      ∨ lat = real (g.edge (g.rowOf lat))
        ∧ g.table.nearestRow lat + 1 = g.rowOf lat := by
  have band := g.rowOf_inBand short number
  have band' : RowLayout.InBand g.tabulated (g.table.nearestRow lat) lat :=
    RowLayout.nearestRow_inBand g.descends_tabulated
      (by rw [length_tabulated]; exact Nat.zero_lt_of_lt g.two_le) number
  have inside := band.inside
  have inside' := band'.inside
  rw [length_tabulated] at inside'
  rcases Nat.lt_trichotomy (g.table.nearestRow lat) (g.rowOf lat) with
    north | same | south
  · -- Both bands reach the latitude only if they meet there.
    have low := band'.north (by rw [length_tabulated]; omega)
    have high := band.south (Nat.zero_lt_of_lt north)
    rw [g.border_tabulated (by omega), real_le_iff number] at low
    rw [le_real_iff number] at high
    have meet := EReal.coe_le_coe_iff.mp (low.trans high)
    have next := g.edge_le_iff.mp meet
    have last : g.table.nearestRow lat + 1 = g.rowOf lat := by omega
    rw [last] at low
    refine Or.inr ⟨extended_inj number (real_ne_nan _) ?_, last⟩
    exact le_antisymm high low
  · exact Or.inl same
  · have low := band.north (by omega)
    have high := band'.south (Nat.zero_lt_of_lt south)
    rw [g.border_tabulated (by omega), Nat.sub_add_cancel (by omega),
      lt_real_iff number] at high
    rw [real_lt_iff number] at low
    have apart := EReal.coe_lt_coe_iff.mp (low.trans high)
    have := g.edge_lt_iff.mp apart
    omega

/-- The edge of a row behind the first one lies in this row. -/
theorem rowOf_edge {k : Nat} (inside : k < g.numRows) :
    g.rowOf (real (g.edge k)) = k := by
  have quotient : (90 - g.edge k) / (180 / g.numRows) = k := by
    unfold edge
    rw [sub_sub_cancel, mul_div_cancel_right₀ _ g.height_pos.ne']
  rw [rowOf_real, quotient, Nat.floor_natCast]
  omega

theorem nearestRow_edge (short : g.numRows < 2 ^ 31) {k : Nat}
    (positive : 0 < k) (inside : k < g.numRows) :
    g.table.nearestRow (real (g.edge k)) = k - 1 := by
  have number := real_ne_nan (g.edge k)
  rcases g.nearestRow_table_or short number with same | ⟨-, last⟩
  · -- The edge is the border of the row of the grid, which is not in it.
    rw [g.rowOf_edge inside] at same
    have band : RowLayout.InBand g.tabulated
        (g.table.nearestRow (real (g.edge k))) (real (g.edge k)) :=
      RowLayout.nearestRow_inBand g.descends_tabulated
        (by rw [length_tabulated]; omega) number
    rw [same] at band
    have south := band.south positive
    rw [g.border_tabulated (by omega), Nat.sub_add_cancel positive, real_lt]
      at south
    exact absurd south (lt_irrefl _)
  · rw [g.rowOf_edge inside] at last
    omega

-- ================================================================ bins

theorem numRows_table : g.table.numRows = g.numRows := by
  rw [table, RowLayout.numRows_ofReal, length_tabulated]

theorem nearestRow_table_lt (lat : Exact) :
    g.table.nearestRow lat < g.numRows := by
  have rows : 0 < g.table.numRows := by
    rw [numRows_table]
    exact Nat.zero_lt_of_lt g.two_le
  rw [← numRows_table]
  exact RowLayout.nearestRow_lt rows lat

theorem binOf_table (lat lon : Exact) :
    g.table.binOf lat lon
      = g.firstBin (g.table.nearestRow lat)
        + Longitude.column lon g.columns := by
  have inside := g.nearestRow_table_lt lat
  refine (RowLayout.binOf_ofReal lat lon
    (by rw [length_tabulated]; exact inside)).trans ?_
  rw [getElem_tabulated]
  exact congrArg (· + _) (g.start_tabulated (Nat.le_of_lt inside))

theorem firstBin_table {r : Nat} (h : r < g.numRows) :
    (Grid.equalArea g.table).firstBin r = .ok (g.firstBin r) := by
  show orOutOfBounds ((g.table.row? r).map Row.firstBin) = _
  rw [table, RowLayout.row?_ofReal (by rwa [length_tabulated]),
    g.start_tabulated (Nat.le_of_lt h)]
  rfl

theorem numBins_table : g.table.numBins = g.numBins := by
  have total := RowLayout.start_length
    (g.tabulated.map fun row => (row.1, real row.2))
  rw [List.length_map, length_tabulated, g.start_tabulated (le_refl _)]
    at total
  exact total.symm

/-- A bin has the same row in the table and the same center. -/
theorem rowOfBin_table (short : g.numRows < 2 ^ 31) {bin : Nat}
    (h : bin < g.numBins) :
    g.table.rowOfBin bin = g.rowOfBin bin
      ∧ g.table.centerOf bin = g.centerOf bin := by
  have counted : ∀ row ∈ g.tabulated, row.1 < 2 ^ 32 := by
    intro row hrow
    obtain ⟨r, -, rfl⟩ := List.mem_map.mp hrow
    show 2 * g.numRows < 2 ^ 32
    omega
  rw [← numBins_table] at h
  obtain ⟨r, c, hr, hc, rfl, center⟩ := RowLayout.exists_center counted h
  have row := (@RowLayout.rowOfBin_start_add _
    (g.tabulated.map fun row => (row.1, real row.2)) r c
    (by rwa [List.length_map]) (by rwa [List.getElem_map])).2
  rw [getElem_tabulated] at hc center
  rw [length_tabulated] at hr
  rw [g.start_tabulated (Nat.le_of_lt hr)] at center row ⊢
  exact ⟨row.trans (g.columns_of_row hr hc).2.symm,
    center.trans (g.centerOf_firstBin_add hr hc).symm⟩

-- =========================================================== agreement

/-- A regular grid agrees with the table of its rows. A position has the
same row and the same bin in both, whatever number its latitude is, unless
the latitude is that of the edge between two rows; there the grid has the
southern row and the table the northern one, and the column is the same.
Rows start at the same bins, and all bins have the same rows and
centers. -/
theorem binOf_eq_binOf_table (short : g.numRows < 2 ^ 31) :
    (∀ lat lon : Exact,
      (∀ k, 1 ≤ k → k < g.numRows → lat ≠ real (g.edge k)) →
      g.rowOf lat = g.table.nearestRow lat
        ∧ g.binOf lat lon = g.table.binOf lat lon)
    ∧ (∀ k, 1 ≤ k → k < g.numRows →
      g.rowOf (real (g.edge k)) = k
        ∧ g.table.nearestRow (real (g.edge k)) = k - 1
        ∧ ∀ lon : Exact, ∃ c < g.columns,
          g.binOf (real (g.edge k)) lon = g.firstBin k + c
            ∧ g.table.binOf (real (g.edge k)) lon = g.firstBin (k - 1) + c)
    ∧ g.table.numRows = g.numRows ∧ g.table.numBins = g.numBins
    ∧ (∀ r < g.numRows,
      (Grid.equalArea g.table).firstBin r = .ok (g.firstBin r))
    ∧ ∀ bin < g.numBins, g.table.rowOfBin bin = g.rowOfBin bin
      ∧ g.table.centerOf bin = g.centerOf bin := by
  refine ⟨?_, ?_, g.numRows_table, g.numBins_table,
    fun r h => g.firstBin_table h, fun bin h => g.rowOfBin_table short h⟩
  · intro lat lon off
    have row : g.rowOf lat = g.table.nearestRow lat := by
      by_cases number : lat = nan
      · rw [number, g.rowOf_nan]
        exact (RowLayout.nearestRow_nan _).symm
      · rcases g.nearestRow_table_or short number with same | ⟨edge, last⟩
        · exact same.symm
        · have inside := (g.rowOf_inBand short number).inside
          exact absurd edge (off _ (by omega) inside)
    refine ⟨row, ?_⟩
    rw [binOf_table, ← row]
    rfl
  · intro k positive inside
    have row := g.rowOf_edge inside
    have row' := g.nearestRow_edge short positive inside
    refine ⟨row, row', fun lon =>
      ⟨_, Longitude.column_lt lon g.columns_pos, ?_, ?_⟩⟩
    · rw [binOf, row]
    · rw [binOf_table, row']

end RegularGrid

/-- Two rows in each hemisphere. -/
def quarters : RegularGrid := ⟨4, rfl, by decide⟩

/-- On the equator the grid has the row south of it and its table the row
north of it; ten degrees off they agree. -/
theorem RegularGrid.binOf_eq_binOf_table_quarters :
    quarters.numRows < 2 ^ 31
    ∧ quarters.rowOf (real 0) = 2 ∧ quarters.table.nearestRow (real 0) = 1
    ∧ quarters.binOf (real 10) (real 0)
      = quarters.table.binOf (real 10) (real 0) := by
  have short : quarters.numRows < 2 ^ 31 := by decide
  have equator : quarters.edge 2 = 0 := by
    norm_num [quarters, edge]
  obtain ⟨agree, differ, -⟩ := quarters.binOf_eq_binOf_table short
  have south := differ 2 (by decide) (by decide)
  rw [equator] at south
  refine ⟨short, south.1, south.2.1, (agree _ _ ?_).2⟩
  intro k positive inside same
  have inside : k < 4 := inside
  have same := real.inj same
  interval_cases k
  · norm_num [quarters, edge] at same
  · norm_num [quarters, edge] at same
  · norm_num [quarters, edge] at same

end EarthBins
