/-
Bins are cells, numbered row by row.

A cell of a grid is a row and a column of that row. Its bin is the column
counted from the first bin of the row, and a row starts behind the columns
of all rows before it. `Numbering` says what follows: every bin is the bin
of one cell, and the row that a grid finds for a bin is the row of that
cell. Rows without columns do no harm; they share their first bin with the
row behind them and have no cell.

# The search for the row

In a layout the row of a bin is searched for. The rows that start at or
before a bin are the first ones, since no row starts before the one north
of it. The last of them is the row of the bin: the next row, if there is
one, starts behind the bin.
-/
import EarthBins.Grid.Regular
import EarthBins.Proofs.Grid.Search
import EarthBins.Scalar.Double
import Mathlib

namespace EarthBins

-- ============================================================== cells

/-- The cells of a grid: its rows, each with its columns. -/
def cells (numRows : Nat) (columns : Nat → Nat) : Set (Nat × Nat) :=
  {cell | cell.1 < numRows ∧ cell.2 < columns cell.1}

/-- The bin of a cell. -/
def binOfCell (first : Nat → Nat) (cell : Nat × Nat) : Nat :=
  first cell.1 + cell.2

/-- The cell of a bin. -/
def cellOfBin (first rowOf : Nat → Nat) (bin : Nat) : Nat × Nat :=
  (rowOf bin, bin - first (rowOf bin))

/-- Bins number the cells of a grid row by row, and `rowOf` finds the row
of a bin. -/
structure Numbering (numRows : Nat) (columns first : Nat → Nat)
    (numBins : Nat) (rowOf : Nat → Nat) : Prop where
  /-- Numbers start from zero. -/
  first_zero : 0 < numRows → first 0 = 0
  /-- A row starts behind the row before it. -/
  first_succ : ∀ r, r + 1 < numRows → first (r + 1) = first r + columns r
  /-- There are as many bins as columns in all rows. -/
  numBins_eq : numBins = ((List.range numRows).map columns).sum
  /-- The row found for a bin is the one row that holds it. -/
  rowOf_iff : ∀ bin < numBins, ∀ r, r = rowOf bin
    ↔ r < numRows ∧ first r ≤ bin ∧ bin < first r + columns r
  /-- Every bin is the bin of one cell. -/
  bijOn : Set.BijOn (binOfCell first) (cells numRows columns)
    (Set.Iio numBins)
  /-- The way back goes through the row. -/
  invOn : Set.InvOn (cellOfBin first rowOf) (binOfCell first)
    (cells numRows columns) (Set.Iio numBins)

/-- A row that holds every bin, and is found again for all its columns,
makes a numbering of running sums. -/
theorem Numbering.of_rows {numRows numBins : Nat}
    {columns first rowOf : Nat → Nat}
    (first_zero : 0 < numRows → first 0 = 0)
    (first_succ : ∀ r, r + 1 < numRows →
      first (r + 1) = first r + columns r)
    (numBins_eq : numBins = ((List.range numRows).map columns).sum)
    (holds : ∀ bin < numBins, rowOf bin < numRows
      ∧ first (rowOf bin) ≤ bin
      ∧ bin < first (rowOf bin) + columns (rowOf bin))
    (finds : ∀ r < numRows, ∀ c < columns r,
      first r + c < numBins ∧ rowOf (first r + c) = r) :
    Numbering numRows columns first numBins rowOf := by
  have inverse : Set.InvOn (cellOfBin first rowOf) (binOfCell first)
      (cells numRows columns) (Set.Iio numBins) := by
    constructor
    · rintro ⟨r, c⟩ ⟨hr, hc⟩
      have row : rowOf (first r + c) = r := (finds r hr c hc).2
      show (rowOf (first r + c), first r + c - first (rowOf (first r + c)))
        = (r, c)
      rw [row, Nat.add_sub_cancel_left]
    · intro bin hbin
      exact Nat.add_sub_cancel' (holds bin hbin).2.1
  refine ⟨first_zero, first_succ, numBins_eq, ?_, ?_, inverse⟩
  · intro bin hbin r
    constructor
    · rintro rfl
      exact holds bin hbin
    · rintro ⟨hr, low, high⟩
      have row := (finds r hr (bin - first r) (by omega)).2
      rw [Nat.add_sub_cancel' low] at row
      exact row.symm
  · refine inverse.bijOn ?_ ?_
    · rintro ⟨r, c⟩ ⟨hr, hc⟩
      exact (finds r hr c hc).1
    · intro bin hbin
      obtain ⟨hr, low, high⟩ := holds bin hbin
      refine ⟨hr, ?_⟩
      show bin - first (rowOf bin) < columns (rowOf bin)
      omega

namespace RowLayout

variable {α : Type}

-- ======================================================== running sums

/-- The first bin of a row: the columns of all rows before it. -/
def start (rows : List (Nat × α)) (r : Nat) : Nat :=
  ((rows.take r).map Prod.fst).sum

theorem start_succ {rows : List (Nat × α)} {r : Nat} (h : r < rows.length) :
    start rows (r + 1) = start rows r + rows[r].1 := by
  unfold start
  rw [List.take_add_one, List.getElem?_eq_getElem h, List.map_append,
    List.sum_append]
  rfl

theorem start_mono (rows : List (Nat × α)) : Monotone (start rows) := by
  refine monotone_nat_of_le_succ fun r => ?_
  by_cases h : r < rows.length
  · rw [start_succ h]
    exact Nat.le_add_right _ _
  · unfold start
    rw [List.take_of_length_le (by omega), List.take_of_length_le (by omega)]

theorem numBins_ofRows (rows : List (Nat × α)) :
    (ofRows rows).numBins = (rows.map Prod.fst).sum := by
  rw [List.sum_eq_foldr, List.foldr_map]
  rfl

theorem start_length (rows : List (Nat × α)) :
    start rows rows.length = (ofRows rows).numBins := by
  rw [start, List.take_length, numBins_ofRows]

/-- A row starts behind the columns of all rows before it. -/
theorem getElem?_place (first : Nat) (rows : List (Nat × α)) {r : Nat}
    (h : r < rows.length) :
    (place first rows)[r]? = some
      ⟨rows[r].1, rows[r].2, first + ((rows.take r).map Prod.fst).sum⟩ := by
  induction rows generalizing first r with
  | nil => simp at h
  | cons row rest ih =>
    cases r with
    | zero => simp [place]
    | succ r =>
      have h : r < rest.length := by simpa using h
      simp [place, ih (first + row.1) h, Nat.add_assoc]

/-- A row of a layout, with its first bin. -/
theorem row?_ofRows {rows : List (Nat × α)} {r : Nat} (h : r < rows.length) :
    (ofRows rows).row? r = some ⟨rows[r].1, rows[r].2, start rows r⟩ := by
  show (place 0 rows).toArray[r]? = _
  rw [List.getElem?_toArray, getElem?_place 0 rows h, Nat.zero_add]
  rfl

theorem row?_ofRows_eq_none {rows : List (Nat × α)} {r : Nat}
    (h : rows.length ≤ r) : (ofRows rows).row? r = none := by
  refine Array.getElem?_eq_none ?_
  show (ofRows rows).numRows ≤ r
  rw [numRows_ofRows]
  exact h

-- ======================================================= rows and bins

/-- Every bin lies in some row. -/
theorem exists_row_of_bin {rows : List (Nat × α)} {bin : Nat}
    (h : bin < (ofRows rows).numBins) :
    ∃ r < rows.length, start rows r ≤ bin ∧ bin < start rows (r + 1) := by
  have ends : ∃ k, bin < start rows k :=
    ⟨rows.length, by rwa [start_length]⟩
  obtain ⟨r, hr⟩ : ∃ r, Nat.find ends = r + 1 := by
    refine Nat.exists_eq_succ_of_ne_zero fun zero => ?_
    have none := Nat.find_spec ends
    rw [zero] at none
    exact Nat.not_lt_zero _ none
  refine ⟨r, ?_, ?_, ?_⟩
  · have := Nat.find_min' ends (m := rows.length) (by rwa [start_length])
    omega
  · rw [← Nat.not_lt]
    exact Nat.find_min ends (by omega)
  · rw [← hr]
    exact Nat.find_spec ends

/-- A test that the first rows pass, told by their numbers. -/
theorem leading_ofRows {rows : List (Nat × α)} {test : Row α → Bool}
    {k : Nat} (hk : k ≤ rows.length)
    (pass : ∀ i (hi : i < rows.length),
      test ⟨rows[i].1, rows[i].2, start rows i⟩ = true ↔ i < k) :
    Leading test (ofRows rows).rows k := by
  intro i
  by_cases hi : i < rows.length
  · have here : (ofRows rows).rows[i]? = _ := row?_ofRows hi
    rw [here, Option.any_some]
    exact pass i hi
  · have outside : (ofRows rows).rows[i]? = none :=
      row?_ofRows_eq_none (by omega)
    rw [outside, Option.any_none]
    exact iff_of_false nofun (by omega)

/-- The rows that start at or before a bin are the first ones, up to the
row that holds it. -/
theorem leading_of_bin {rows : List (Nat × α)} {bin r : Nat}
    (hr : r < rows.length) (low : start rows r ≤ bin)
    (high : bin < start rows (r + 1)) :
    Leading (fun row => decide (row.firstBin ≤ bin)) (ofRows rows).rows
      (r + 1) := by
  refine leading_ofRows hr fun i hi => ?_
  rw [decide_eq_true_eq]
  constructor
  · intro starts
    by_contra behind
    have := start_mono rows (show r + 1 ≤ i by omega)
    dsimp only at starts
    omega
  · intro before
    exact Nat.le_trans (start_mono rows (by omega)) low

/-- The row found for a bin is the one that holds it. -/
theorem rowOfBin_ofRows {rows : List (Nat × α)} {bin r : Nat}
    (hr : r < rows.length) (low : start rows r ≤ bin)
    (high : bin < start rows (r + 1)) : (ofRows rows).rowOfBin bin = r := by
  unfold rowOfBin
  rw [partitionPoint_of_leading (leading_of_bin hr low high),
    numRows_ofRows]
  omega

/-- The row found for a bin of a layout is one of its rows and holds the
bin. -/
theorem rowOfBin_holds {rows : List (Nat × α)} {bin : Nat}
    (h : bin < (ofRows rows).numBins) :
    ∃ hr : (ofRows rows).rowOfBin bin < rows.length,
      start rows ((ofRows rows).rowOfBin bin) ≤ bin
      ∧ bin < start rows ((ofRows rows).rowOfBin bin)
        + rows[(ofRows rows).rowOfBin bin].1 := by
  obtain ⟨r, hr, low, high⟩ := exists_row_of_bin h
  obtain rfl := rowOfBin_ofRows hr low high
  rw [start_succ hr] at high
  exact ⟨hr, low, high⟩

/-- The columns of a row are bins of the layout, and the row is found for
them. -/
theorem rowOfBin_start_add {rows : List (Nat × α)} {r c : Nat}
    (hr : r < rows.length) (hc : c < rows[r].1) :
    start rows r + c < (ofRows rows).numBins
      ∧ (ofRows rows).rowOfBin (start rows r + c) = r := by
  have high : start rows r + c < start rows (r + 1) := by
    rw [start_succ hr]
    omega
  refine ⟨?_, rowOfBin_ofRows hr (Nat.le_add_right _ _) high⟩
  rw [← start_length]
  exact Nat.lt_of_lt_of_le high (start_mono rows hr)

-- =========================================================== numbering

/-- Number of columns of a row, none for a row outside the layout. -/
def columnsAt (l : RowLayout α) (r : Nat) : Nat :=
  (l.row? r).elim 0 Row.columns

/-- First bin of a row, zero for a row outside the layout. -/
def firstAt (l : RowLayout α) (r : Nat) : Nat :=
  (l.row? r).elim 0 Row.firstBin

theorem columnsAt_ofRows {rows : List (Nat × α)} {r : Nat}
    (h : r < rows.length) : (ofRows rows).columnsAt r = rows[r].1 := by
  rw [columnsAt, row?_ofRows h]
  rfl

theorem firstAt_ofRows {rows : List (Nat × α)} {r : Nat}
    (h : r < rows.length) : (ofRows rows).firstAt r = start rows r := by
  rw [firstAt, row?_ofRows h]
  rfl

theorem numbering_ofRows (rows : List (Nat × α)) :
    Numbering (ofRows rows).numRows (ofRows rows).columnsAt
      (ofRows rows).firstAt (ofRows rows).numBins
      (ofRows rows).rowOfBin := by
  rw [numRows_ofRows]
  refine Numbering.of_rows ?_ ?_ ?_ ?_ ?_
  · intro h
    rw [firstAt_ofRows h]
    rfl
  · intro r h
    rw [firstAt_ofRows h, firstAt_ofRows (by omega),
      columnsAt_ofRows (by omega), start_succ]
  · have counts : (List.range rows.length).map (ofRows rows).columnsAt
        = rows.map Prod.fst := by
      refine List.ext_getElem (by simp) fun r hr _ => ?_
      rw [List.getElem_map, List.getElem_map, List.getElem_range,
        columnsAt_ofRows (by simpa using hr)]
    rw [counts, numBins_ofRows]
  · intro bin hbin
    obtain ⟨hr, low, high⟩ := rowOfBin_holds hbin
    rw [firstAt_ofRows hr, columnsAt_ofRows hr]
    exact ⟨hr, low, high⟩
  · intro r hr c hc
    rw [columnsAt_ofRows hr] at hc
    rw [firstAt_ofRows hr]
    exact rowOfBin_start_add hr hc

variable [Scalar α]

/-- The center of a bin is that of its row and column, as long as columns
are counted in 32 bits. -/
theorem centerOf_ofRows {rows : List (Nat × α)}
    (short : ∀ row ∈ rows, row.1 < 2 ^ 32) {bin : Nat}
    (h : bin < (ofRows rows).numBins) :
    ∃ hr : (ofRows rows).rowOfBin bin < rows.length,
      (ofRows rows).centerOf bin
        = (rows[(ofRows rows).rowOfBin bin].2,
          Longitude.center
            (bin - (ofRows rows).firstAt ((ofRows rows).rowOfBin bin))
            rows[(ofRows rows).rowOfBin bin].1) := by
  obtain ⟨hr, low, high⟩ := rowOfBin_holds h
  refine ⟨hr, ?_⟩
  have columns : _ < UInt32.size := short _ (List.getElem_mem hr)
  unfold centerOf
  rw [row?_ofRows hr, firstAt_ofRows hr]
  dsimp only
  rw [Nat.mod_eq_of_lt (by omega)]

end RowLayout

namespace RegularGrid

theorem columns_pos (g : RegularGrid) : 0 < g.columns :=
  Nat.mul_pos (by decide) (Nat.lt_of_lt_of_le (by decide) g.two_le)

/-- The column of a bin is the remainder that its row leaves. -/
theorem sub_firstBin (g : RegularGrid) (bin : Nat) :
    bin - g.firstBin (g.rowOfBin bin) = bin % g.columns := by
  rw [Nat.mod_eq_sub_div_mul]
  rfl

/-- The columns of a row are bins of the grid, and the row is found for
them. -/
theorem columns_of_row (g : RegularGrid) {r c : Nat} (hr : r < g.numRows)
    (hc : c < g.columns) :
    g.firstBin r + c < g.numBins ∧ g.rowOfBin (g.firstBin r + c) = r := by
  constructor
  · calc r * g.columns + c < r * g.columns + g.columns := by omega
      _ = (r + 1) * g.columns := (Nat.succ_mul _ _).symm
      _ ≤ g.numRows * g.columns := Nat.mul_le_mul_right _ hr
  · show (r * g.columns + c) / g.columns = r
    rw [Nat.mul_comm, Nat.mul_add_div g.columns_pos, Nat.div_eq_of_lt hc,
      Nat.add_zero]

theorem numbering (g : RegularGrid) :
    Numbering g.numRows (fun _ => g.columns) g.firstBin g.numBins
      g.rowOfBin := by
  have positive := g.columns_pos
  refine Numbering.of_rows ?_ ?_ ?_ ?_ ?_
  · intro _
    exact Nat.zero_mul _
  · intro r _
    exact Nat.succ_mul _ _
  · rw [List.map_const', List.sum_replicate, List.length_range]
    rfl
  · intro bin hbin
    have parts := Nat.div_add_mod' bin g.columns
    have rest := Nat.mod_lt bin positive
    show bin / g.columns < g.numRows
      ∧ bin / g.columns * g.columns ≤ bin
      ∧ bin < bin / g.columns * g.columns + g.columns
    refine ⟨?_, by omega, by omega⟩
    rw [Nat.div_lt_iff_lt_mul positive]
    exact hbin
  · intro r hr c hc
    exact g.columns_of_row hr hc

end RegularGrid

-- ======================================================== the bijection

/-- The bins of a grid number its cells. In a layout of given rows, with
columns or without, rows start at running sums of the column counts, every
bin is the bin of one cell, the row of that cell is found for it and the
column is what is left; the center of the bin is that of the row and the
column. In a regular grid the same holds with equal rows, and the column is
the remainder by their length. -/
theorem bins_number_cells {α : Type} [Scalar α] :
    (∀ rows : List (Nat × α),
      (RowLayout.ofRows rows).numRows = rows.length
      ∧ (∀ r (hr : r < rows.length),
        (RowLayout.ofRows rows).columnsAt r = rows[r].1)
      ∧ (RowLayout.ofRows rows).numBins = (rows.map Prod.fst).sum
      ∧ Numbering (RowLayout.ofRows rows).numRows
        (RowLayout.ofRows rows).columnsAt (RowLayout.ofRows rows).firstAt
        (RowLayout.ofRows rows).numBins (RowLayout.ofRows rows).rowOfBin
      ∧ ((∀ row ∈ rows, row.1 < 2 ^ 32) →
        ∀ bin < (RowLayout.ofRows rows).numBins,
        ∃ hr : (RowLayout.ofRows rows).rowOfBin bin < rows.length,
          (RowLayout.ofRows rows).centerOf bin
            = (rows[(RowLayout.ofRows rows).rowOfBin bin].2,
              Longitude.center
                (bin - (RowLayout.ofRows rows).firstAt
                  ((RowLayout.ofRows rows).rowOfBin bin))
                rows[(RowLayout.ofRows rows).rowOfBin bin].1)))
    ∧ ∀ g : RegularGrid,
      g.columns = 2 * g.numRows
      ∧ Numbering g.numRows (fun _ => g.columns) g.firstBin g.numBins
        g.rowOfBin
      ∧ (∀ bin, bin - g.firstBin (g.rowOfBin bin) = bin % g.columns)
      ∧ ∀ bin < g.numBins, g.centerOf (α := α) bin
        = (g.centerLat (g.rowOfBin bin),
          Longitude.center (bin % g.columns) g.columns) := by
  refine ⟨fun rows => ⟨RowLayout.numRows_ofRows rows, ?_,
    RowLayout.numBins_ofRows rows, RowLayout.numbering_ofRows rows, ?_⟩,
    fun g => ⟨rfl, g.numbering, g.sub_firstBin, fun _ _ => rfl⟩⟩
  · intro r hr
    exact RowLayout.columnsAt_ofRows hr
  · intro short bin hbin
    exact RowLayout.centerOf_ofRows short hbin

/-- Two rows with columns, and an empty row before each. -/
def gappedRows : List (Nat × Float) := [(0, 60), (3, 30), (0, 0), (2, -30)]

/-- The first column of the last row is found behind the empty row. -/
theorem bins_number_cells_gappedRows :
    (∀ row ∈ gappedRows, row.1 < 2 ^ 32)
    ∧ 3 < (RowLayout.ofRows gappedRows).numBins
    ∧ (RowLayout.ofRows gappedRows).rowOfBin 3 = 3
    ∧ (RowLayout.ofRows gappedRows).centerOf 3
      = (-30, Longitude.center 0 2) := by
  have short : ∀ row ∈ gappedRows, row.1 < 2 ^ 32 := by decide
  obtain ⟨-, -, -, numbers, centers⟩ := bins_number_cells.1 gappedRows
  have row : (RowLayout.ofRows gappedRows).rowOfBin 3 = 3 :=
    ((numbers.rowOf_iff 3 (by decide) 3).mpr (by decide)).symm
  obtain ⟨hr, center⟩ := centers short 3 (by decide)
  refine ⟨short, by decide, row, ?_⟩
  rw [center]
  simp only [row]
  rfl

end EarthBins
