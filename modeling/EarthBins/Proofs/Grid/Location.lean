/-
Every position has a bin of its grid, in the row of its latitude.

A row is chosen within the grid whatever the latitude is, and a column
within the row whatever the longitude is: both are limited to their range,
and neither limit is a comparison that NaN could evade. The bin is then a
cell of the row chosen, so the row is found again from the bin. What a grid
has to bring along is that it has a row and that no row is empty
(`Grid.IsFilled`); every grid that can be built or read does.
-/
import EarthBins.Grid
import EarthBins.Proofs.Grid.Numbering
import EarthBins.Proofs.Grid.Table

namespace EarthBins

open Outcome Scalar

-- ======================================================== filled grids

/-- Whether a layout has rows and no row is empty. -/
def RowLayout.IsFilled {α : Type} (l : RowLayout α) : Prop :=
  ∃ rows : List (Nat × α), l = ofRows rows ∧ rows ≠ []
    ∧ ∀ row ∈ rows, 1 ≤ row.1

/-- Whether a grid has rows and no row is empty. Regular grids always
have. -/
def Grid.IsFilled {α : Type} : Grid α → Prop
  | regular _ => True
  | reducedGaussian _ l => l.IsFilled
  | equalArea l => l.IsFilled

/-- The tables of the known resolutions have rows, none of them empty. -/
theorem Gaussian.filled_of_mem : ∀ known ∈ resolutions,
    known.2 ≠ [] ∧ ∀ row ∈ known.2, 1 ≤ row.1 := by
  decide +kernel

/-- Reflected rows have the columns of the northern ones. -/
theorem Gaussian.one_le_of_mem_reflected {northern : List (Nat × Nat)}
    (columns : ∀ row ∈ northern, 1 ≤ row.1) :
    ∀ row ∈ reflected northern, 1 ≤ row.1 := by
  intro placed hplaced
  rcases List.mem_append.mp hplaced with hplaced | hplaced
  · obtain ⟨row, hrow, rfl⟩ := List.mem_map.mp hplaced
    exact columns row hrow
  · obtain ⟨row, hrow, rfl⟩ := List.mem_map.mp hplaced
    exact columns row (List.mem_reverse.mp hrow)

theorem Gaussian.isFilled_of_ofRows? {rows : Nat} {g : GaussianGrid}
    (h : ofRows? rows = .ok g) : g.layout.IsFilled := by
  unfold ofRows? at h
  split at h
  · rename_i found
    cases h
    obtain ⟨nonempty, columns⟩ :=
      filled_of_mem _ (List.mem_of_find?_eq_some found)
    refine ⟨_, rfl, ?_, one_le_of_mem_reflected columns⟩
    intro empty
    exact nonempty
      (List.map_eq_nil_iff.mp (List.append_eq_nil_iff.mp empty).1)
  · cases h

theorem EqualArea.isFilled_of_ofRows? {α : Type} [Scalar α] {rows : Nat}
    {l : RowLayout α} (h : ofRows? rows = .ok l) : l.IsFilled := by
  unfold ofRows? at h
  split at h
  · rename_i valid
    cases h
    refine ⟨_, rfl, ?_, ?_⟩
    · intro empty
      have none : List.range rows = [] := List.map_eq_nil_iff.mp empty
      rw [List.range_eq_nil] at none
      omega
    · intro row hrow
      obtain ⟨r, -, rfl⟩ := List.mem_map.mp hrow
      exact Nat.le_max_right _ 1
  · cases h

theorem RowTable.isFilled_of_read {hemisphereRows : Nat} {text : String}
    {g : GaussianGrid} (h : read hemisphereRows text = .ok g) :
    g.layout.IsFilled := by
  obtain ⟨known, rows, layout, total, proper, -⟩ := read_eq_ok h
  have positive : ∀ n ∈ Gaussian.allowedRows, 0 < n := by decide
  refine ⟨rows, layout, ?_, fun row hrow => (proper row hrow).1.1⟩
  rintro rfl
  have := positive _ known
  rw [List.length_nil] at total
  omega

/-- A grid that was built has rows, none of them empty. -/
theorem Grid.isFilled_of_build {kind : GridKind} {rows : Nat}
    {grid : Grid Float} (h : build kind rows = .ok grid) :
    grid.IsFilled := by
  cases kind with
  | regular =>
      obtain ⟨g, -, rfl⟩ := map_eq_ok.mp h
      trivial
  | reducedGaussian =>
      obtain ⟨g, hg, rfl⟩ := map_eq_ok.mp h
      exact Gaussian.isFilled_of_ofRows? hg
  | equalArea =>
      obtain ⟨l, hl, rfl⟩ := map_eq_ok.mp h
      exact EqualArea.isFilled_of_ofRows? hl

-- ============================================================ positions

variable {α : Type} [Scalar α]

/-- A row is chosen from the rows there are. -/
theorem RowLayout.nearestRow_lt {l : RowLayout α} (h : 0 < l.numRows)
    (lat : α) : l.nearestRow lat < l.numRows := by
  unfold nearestRow
  dsimp only
  split
  · rename_i north southern _ inside
    obtain ⟨inside, -⟩ := Array.getElem?_eq_some_iff.mp inside
    have inside : partitionPoint (fun r => decide (lat ≤ r.centerLat))
      l.rows < l.numRows := inside
    split
    · exact h
    · split
      · omega
      · exact inside
  · omega

/-- Whether a bin lies in a row of a grid: it is one of its bins, the row
is found for it, and it is a column of the row. -/
def Grid.InRow (grid : Grid α) (row bin : Nat) : Prop :=
  bin < grid.numBins ∧ grid.rowOfBin bin = row ∧ row < grid.numRows
    ∧ ∃ first columns, grid.firstBin row = .ok first
      ∧ grid.columns row = .ok columns
      ∧ first ≤ bin ∧ bin < first + columns

/-- The row that a grid chooses for a latitude. -/
def Grid.rowAt (grid : Grid α) (lat : α) : Nat :=
  match grid with
  | regular g => g.rowOf lat
  | reducedGaussian _ l => l.nearestRow lat
  | equalArea l => l.nearestRow lat

/-- In a filled layout a position has a bin in the row chosen for it. -/
theorem RowLayout.binOf_inRow {l : RowLayout α} (filled : l.IsFilled)
    (lat lon : α) :
    (Grid.equalArea l).InRow (l.nearestRow lat) (l.binOf lat lon) := by
  obtain ⟨rows, rfl, nonempty, columns⟩ := filled
  have inside := nearestRow_lt (l := ofRows rows)
    (by rw [numRows_ofRows]; exact List.length_pos_of_ne_nil nonempty) lat
  have hr := inside
  rw [numRows_ofRows] at hr
  have column := Longitude.column_lt lon
    (columns _ (List.getElem_mem hr))
  have bin : (ofRows rows).binOf lat lon
      = start rows ((ofRows rows).nearestRow lat)
        + Longitude.column lon
          rows[(ofRows rows).nearestRow lat].1 := by
    rw [binOf, row?_ofRows hr]
  obtain ⟨lt, found⟩ := rowOfBin_start_add hr column
  rw [← bin] at lt found
  refine ⟨lt, found, inside, start rows ((ofRows rows).nearestRow lat),
    rows[(ofRows rows).nearestRow lat].1, ?_, ?_, ?_, ?_⟩
  · show orOutOfBounds (((ofRows rows).row? _).map Row.firstBin) = _
    rw [row?_ofRows hr]
    rfl
  · show orOutOfBounds (((ofRows rows).row? _).map Row.columns) = _
    rw [row?_ofRows hr]
    rfl
  · omega
  · omega

/-- In a regular grid a position has a bin in the row chosen for it. -/
theorem RegularGrid.binOf_inRow (g : RegularGrid) (lat lon : α) :
    (Grid.regular g : Grid α).InRow (g.rowOf lat) (g.binOf lat lon) := by
  have inside : g.rowOf lat < g.numRows := by
    have := g.two_le
    unfold rowOf
    omega
  have column := Longitude.column_lt lon g.columns_pos
  obtain ⟨lt, found⟩ := g.columns_of_row inside column
  refine ⟨lt, found, inside, g.firstBin (g.rowOf lat), g.columns, rfl, rfl,
    Nat.le_add_right _ _, ?_⟩
  exact Nat.add_lt_add_left column _

/-- Every position has a bin of its grid, for all numbers a latitude and a
longitude can be, the infinities and NaN among them: the bin is one of the
grid, the row found for it is the row chosen for the latitude, and it is a
column of that row. This takes rows without an empty one, which every grid
has that can be built or read from a table. -/
theorem Grid.binOf_inRow_rowAt :
    (∀ grid : Grid Float, grid.IsFilled → ∀ lat lon : Float,
      grid.InRow (grid.rowAt lat) (grid.binOf lat lon))
    ∧ (∀ kind rows grid, Grid.build kind rows = .ok grid → grid.IsFilled)
    ∧ ∀ hemisphereRows text g, RowTable.read hemisphereRows text = .ok g →
      (Grid.ofGaussian g).IsFilled := by
  refine ⟨?_, fun _ _ _ => Grid.isFilled_of_build,
    fun _ _ _ => RowTable.isFilled_of_read⟩
  intro grid filled lat lon
  cases grid with
  | regular g => exact g.binOf_inRow lat lon
  | reducedGaussian _ l => exact RowLayout.binOf_inRow filled lat lon
  | equalArea l => exact RowLayout.binOf_inRow filled lat lon

/-- One column at each pole, and two between. -/
def diamond : Grid Float :=
  .equalArea (RowLayout.ofRows [(1, 60), (2, 0), (1, -60)])

/-- No latitude and no longitude is outside. -/
theorem Grid.binOf_inRow_rowAt_diamond : diamond.IsFilled
    ∧ diamond.InRow (diamond.rowAt nan) (diamond.binOf nan infinity)
    ∧ diamond.InRow (diamond.rowAt (-infinity))
      (diamond.binOf (-infinity) nan) := by
  have filled : diamond.IsFilled := ⟨_, rfl, by simp, by decide⟩
  exact ⟨filled, Grid.binOf_inRow_rowAt.1 diamond filled nan infinity,
    Grid.binOf_inRow_rowAt.1 diamond filled (-infinity) nan⟩

end EarthBins
