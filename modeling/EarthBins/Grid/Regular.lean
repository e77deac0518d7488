/-
Grids with equal angles in both directions.

A regular grid with `n` rows has `2 n` columns in every row, and its cells
span `180 / n` degrees each way. Nothing has to be looked up: rows, columns
and centers follow from the bin number by division.
-/
import EarthBins.Error
import EarthBins.Grid.Longitude

namespace EarthBins

open Scalar

/-- A regular grid. The number of rows is even, so that the equator is a
row boundary. -/
structure RegularGrid where
  numRows : Nat
  even : numRows % 2 = 0
  two_le : 2 ≤ numRows

namespace RegularGrid

/-- The regular grid with the given number of rows. -/
def ofRows? (rows : Nat) : Except Error RegularGrid :=
  if h : rows % 2 = 0 ∧ 2 ≤ rows then .ok ⟨rows, h.1, h.2⟩
  else .error (.settings (.regularRows rows))

/-- Columns of every row. -/
def columns (g : RegularGrid) : Nat := 2 * g.numRows

/-- Number of bins. -/
def numBins (g : RegularGrid) : Nat := g.numRows * g.columns

/-- First bin of a row. -/
def firstBin (g : RegularGrid) (row : Nat) : Nat := row * g.columns

/-- Row of a bin. -/
def rowOfBin (g : RegularGrid) (bin : Nat) : Nat := bin / g.columns

variable {α : Type} [Scalar α]

/-- Cell size in degrees. -/
def resolution (g : RegularGrid) : α := 180 / ofNat g.numRows

/-- Row of a latitude; latitudes beyond the poles belong to the outermost
rows. -/
def rowOf (g : RegularGrid) (lat : α) : Nat :=
  min (toNat ((90 - lat) / g.resolution)) (g.numRows - 1)

/-- Center latitude of a row. -/
def centerLat (g : RegularGrid) (row : Nat) : α :=
  90 - (ofNat row + half) * g.resolution

/-- Bin of a position. -/
def binOf (g : RegularGrid) (lat lon : α) : Nat :=
  g.firstBin (g.rowOf lat) + Longitude.column lon g.columns

/-- Latitude and longitude of the center of a bin. -/
def centerOf (g : RegularGrid) (bin : Nat) : α × α :=
  (g.centerLat (g.rowOfBin bin),
    Longitude.center (bin % g.columns) g.columns)

end RegularGrid

end EarthBins
