/-
Longitudes and the columns of a row.

A row is cut into equally wide columns starting at -180 degrees. The column
of a longitude is found by wrapping the longitude into `[-180, 180)`,
scaling it to `[0, columns)` and dropping the fraction. Wrapping can round
up to the upper end for a longitude just west of -180; the correction after
it, and the limit to the last column, keep the result inside the row for
every input, NaN and the infinities included.
-/
import EarthBins.Scalar

namespace EarthBins.Longitude

open Scalar

variable {α : Type} [Scalar α]

/-- A longitude wrapped into `[-180, 180)`. -/
def wrap (lon : α) : α :=
  let wrapped := mod (lon + 180) 360 - 180
  if (180 : α) ≤ wrapped then wrapped - 360 else wrapped

/-- Column of a longitude in a row of `columns` equally wide columns. -/
def column (lon : α) (columns : Nat) : Nat :=
  min (toNat ((wrap lon + 180) / 360 * ofNat columns)) (columns - 1)

/-- Longitude of the center of a column. -/
def center (column columns : Nat) : α :=
  360 * ((ofNat column + half) / ofNat columns) - 180

/-- Longitudes of all column centers of a row, from west to east. -/
def centers (columns : Nat) : List α :=
  (List.range columns).map fun column => center column columns

/-- A column of a nonempty row lies in the row. -/
theorem column_lt {columns : Nat} (lon : α) (h : 0 < columns) :
    column lon columns < columns := by
  unfold column
  omega

end EarthBins.Longitude
