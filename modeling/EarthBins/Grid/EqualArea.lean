/-
Grids whose cells cover about the same area.

The rows have equal height, and a row at latitude `φ` has as many columns
as the equator's `2 n` shrunk by the cosine of `φ` and rounded, at least
one. This is the integerized sinusoidal layout of ocean colour products.
-/
import EarthBins.Error
import EarthBins.Grid.RowLayout

namespace EarthBins.EqualArea

open Scalar

variable {α : Type} [Scalar α]

/-- Center latitude of a row. -/
def centerLat (rows row : Nat) : α :=
  90 - (ofNat row + half) * (180 / ofNat rows)

/-- Columns of a row. -/
def columns (α : Type) [Scalar α] (rows row : Nat) : Nat :=
  let lat : α := centerLat rows row
  max (roundNat (2 * ofNat rows * cos (toRadians lat))) 1

/-- The rows of the equal-area grid with the given number of them. -/
def layout (rows : Nat) : RowLayout α :=
  RowLayout.ofRows ((List.range rows).map fun row =>
    (columns α rows row, centerLat rows row))

/-- The equal-area grid with the given number of rows, which has to be even
and at least two. -/
def ofRows? (rows : Nat) : Except Error (RowLayout α) :=
  if rows % 2 = 0 ∧ 2 ≤ rows then .ok (layout rows)
  else .error (.settings (.equalAreaRows rows))

end EarthBins.EqualArea
