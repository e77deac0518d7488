/-
Made-up row tables, in order and out of order.

The rows are evenly spaced, and their column counts shrink with the cosine
of the latitude down to twenty. The two damaged forms have one row with a
column count that is no number, and one row too few; both end without a
line feed.
-/
import EarthBins.Decimal.Fixed
import EarthBins.Scalar.Double

namespace EarthBins.Synthetic

open Scalar

/-- The smallest natural number that is not below a nonnegative number. -/
def ceilNat (x : Float) : Nat :=
  let n := toNat x
  if (ofNat n : Float) < x then n + 1 else n

/-- Center latitude of a row. -/
def rowLatitude (rows row : Nat) : Float :=
  90 - (ofNat row + half) * 180 / ofNat rows

/-- The fields of a row: its columns, the columns of a regular grid, and
its latitude. -/
def tableRow (n row : Nat) : List String :=
  let lat := rowLatitude (2 * n) row
  let columns := ceilNat (ofNat (4 * n) * cos (toRadians lat))
  [toString (max columns 20), toString (4 * n), Decimal.fixed 6 lat]

/-- The two lines in front of the rows. -/
def tableHeader (n : Nat) : List String :=
  [s!"# synthetic reduced Gaussian grid N{n}",
    "# reduced\tregular\tlatitude"]

/-- The lines of a table whose rows are given by their fields. -/
def tableLines (n : Nat) (rows : List (List String)) : List String :=
  tableHeader n ++ rows.map ("\t".intercalate ·)

/-- The rows of a table with `n` rows per hemisphere. -/
def tableRows (n : Nat) : List (List String) :=
  (List.range (2 * n)).map (tableRow n)

/-- A table in order. -/
def rowTable (n : Nat) : String :=
  String.join ((tableLines n (tableRows n)).map (· ++ "\n"))

/-- A table whose third row has no number of columns. -/
def damagedTable (n : Nat) : String :=
  let rows := (tableRows n).modify 2 fun fields => "abc" :: fields.drop 1
  "\n".intercalate (tableLines n rows)

/-- A table without its last line. -/
def shortTable (n : Nat) : String :=
  "\n".intercalate (tableLines n (tableRows n)).dropLast

end EarthBins.Synthetic
