/-
Grids made of latitude rows with a column count of their own.

Rows run from north to south. Bins are numbered row by row, and within a
row eastwards, so a row is known by its first bin: the number of columns in
all rows before it. A position belongs to the row with the nearest center
latitude, the northern one of two equally near, and to the column of its
longitude.

# Searching

Both searches are for a partition point: the number of leading rows that
satisfy a test which, on a well-formed layout, holds on a prefix only.
`partitionPoint` halves the range; where the test is not monotone (which a
layout with unordered latitudes or a NaN can bring about) it still ends,
at a place fixed by the halving.
-/
import EarthBins.Grid.Longitude

namespace EarthBins

open Scalar

/-- One step of the search: the range `[base, base + size)` is halved and
the half that holds the boundary is kept. -/
def partitionSearch {β : Type} (test : β → Bool) (items : Array β)
    (base size : Nat) : Nat :=
  if size ≤ 1 then base
  else
    let middle := base + size / 2
    if (items[middle]?).any test then
      partitionSearch test items middle (size - size / 2)
    else partitionSearch test items base (size - size / 2)
termination_by size

/-- Number of leading items that pass a test, found by halving. -/
def partitionPoint {β : Type} (test : β → Bool) (items : Array β) : Nat :=
  let base := partitionSearch test items 0 items.size
  if (items[base]?).any test then base + 1 else base

/-- One latitude row. -/
structure Row (α : Type) where
  columns : Nat
  centerLat : α
  firstBin : Nat
  deriving Repr

/-- Rows from north to south, numbered through. -/
structure RowLayout (α : Type) where
  rows : Array (Row α)
  numBins : Nat

namespace RowLayout

variable {α : Type}

/-- Number the rows from a first bin on. -/
def place (first : Nat) : List (Nat × α) → List (Row α)
  | [] => []
  | (columns, lat) :: rest =>
    ⟨columns, lat, first⟩ :: place (first + columns) rest

/-- The layout with the given column counts and center latitudes, from
north to south. -/
def ofRows (rows : List (Nat × α)) : RowLayout α :=
  { rows := (place 0 rows).toArray
    numBins := rows.foldr (fun row total => row.1 + total) 0 }

theorem length_place (first : Nat) (rows : List (Nat × α)) :
    (place first rows).length = rows.length := by
  induction rows generalizing first with
  | nil => rfl
  | cons row rest ih => simp [place, ih]

/-- Number of rows. -/
def numRows (l : RowLayout α) : Nat := l.rows.size

/-- The layout has a row for every row given. -/
theorem numRows_ofRows (rows : List (Nat × α)) :
    (ofRows rows).numRows = rows.length := by
  simp [numRows, ofRows, length_place]

/-- A row by its number. -/
def row? (l : RowLayout α) (row : Nat) : Option (Row α) := l.rows[row]?

/-- Row of a bin: the last one that does not start behind it. -/
def rowOfBin (l : RowLayout α) (bin : Nat) : Nat :=
  min (partitionPoint (fun r => decide (r.firstBin ≤ bin)) l.rows - 1)
    (l.numRows - 1)

variable [Scalar α]

/-- Row with the nearest center latitude. A latitude beyond the outermost
centers belongs to the first or last row; one half way between two centers
to the northern row. -/
def nearestRow (l : RowLayout α) (lat : α) : Nat :=
  let south := partitionPoint (fun r => decide (lat ≤ r.centerLat)) l.rows
  match l.rows[south - 1]?, l.rows[south]? with
  | some north, some southern =>
    if south = 0 then 0
    else if north.centerLat - lat ≤ lat - southern.centerLat then south - 1
    else south
  | _, _ => l.numRows - 1

/-- Bin of a position. -/
def binOf (l : RowLayout α) (lat lon : α) : Nat :=
  match l.row? (l.nearestRow lat) with
  | some row => row.firstBin + Longitude.column lon row.columns
  | none => 0

/-- Latitude and longitude of the center of a bin. A bin beyond the last
one continues the columns of the last row, counted in 32 bits. -/
def centerOf (l : RowLayout α) (bin : Nat) : α × α :=
  match l.row? (l.rowOfBin bin) with
  | some row =>
    let column := (bin - row.firstBin) % UInt32.size
    (row.centerLat, Longitude.center column row.columns)
  | none => (nan, nan)

end RowLayout

end EarthBins
