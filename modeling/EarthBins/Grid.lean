/-
Planetary grids of any family.

A grid divides the globe into latitude rows, numbered from the north, and
each row into equally wide columns, numbered eastwards from -180 degrees.
Bins are numbered row by row:

    bin = first bin of the row + column

This module puts the three families behind one set of queries.
-/
import EarthBins.Grid.EqualArea
import EarthBins.Grid.Gaussian
import EarthBins.Grid.Kind
import EarthBins.Grid.Regular

namespace EarthBins

/-- A planetary grid. -/
inductive Grid (α : Type) where
  | regular (grid : RegularGrid)
  | reducedGaussian (hemisphereRows : Nat) (layout : RowLayout α)
  | equalArea (layout : RowLayout α)

namespace Grid

/-- The reduced Gaussian grid as a planetary grid. -/
def ofGaussian (g : GaussianGrid) : Grid Float :=
  reducedGaussian g.hemisphereRows g.layout

/-- The grid of a family with the given row count: all rows, or the rows
per hemisphere for a reduced Gaussian grid. -/
def build (kind : GridKind) (rows : Nat) : Except Error (Grid Float) :=
  match kind with
  | .regular => regular <$> RegularGrid.ofRows? rows
  | .reducedGaussian => ofGaussian <$> Gaussian.ofRows? rows
  | .equalArea => equalArea <$> EqualArea.ofRows? rows

variable {α : Type}

/-- The family of a grid. -/
def kind : Grid α → GridKind
  | regular _ => .regular
  | reducedGaussian _ _ => .reducedGaussian
  | equalArea _ => .equalArea

/-- Number of bins. -/
def numBins : Grid α → Nat
  | regular g => g.numBins
  | reducedGaussian _ l => l.numBins
  | equalArea l => l.numBins

/-- Number of rows. -/
def numRows : Grid α → Nat
  | regular g => g.numRows
  | reducedGaussian _ l => l.numRows
  | equalArea l => l.numRows

/-- Columns of a row. A regular grid has the same number in any row. -/
def columns (grid : Grid α) (row : Nat) : Except Error Nat :=
  match grid with
  | regular g => .ok g.columns
  | reducedGaussian _ l => orOutOfBounds ((l.row? row).map Row.columns)
  | equalArea l => orOutOfBounds ((l.row? row).map Row.columns)

/-- First bin of a row. -/
def firstBin (grid : Grid α) (row : Nat) : Except Error Nat :=
  match grid with
  | regular g => .ok (g.firstBin row)
  | reducedGaussian _ l => orOutOfBounds ((l.row? row).map Row.firstBin)
  | equalArea l => orOutOfBounds ((l.row? row).map Row.firstBin)

/-- Row of a bin. -/
def rowOfBin (grid : Grid α) (bin : Nat) : Nat :=
  match grid with
  | regular g => g.rowOfBin bin
  | reducedGaussian _ l => l.rowOfBin bin
  | equalArea l => l.rowOfBin bin

variable [Scalar α]

/-- Bin of a position: the row is chosen by latitude, the column by
longitude modulo 360 degrees. -/
def binOf (grid : Grid α) (lat lon : α) : Nat :=
  match grid with
  | regular g => g.binOf lat lon
  | reducedGaussian _ l => l.binOf lat lon
  | equalArea l => l.binOf lat lon

/-- Latitude and longitude of the center of a bin. -/
def centerOf (grid : Grid α) (bin : Nat) : α × α :=
  match grid with
  | regular g => g.centerOf bin
  | reducedGaussian _ l => l.centerOf bin
  | equalArea l => l.centerOf bin

/-- Longitudes of the column centers of a row. -/
def centerLongitudes (grid : Grid α) (row : Nat) : Except Error (List α) :=
  return Longitude.centers (← grid.columns row)

end Grid

end EarthBins
