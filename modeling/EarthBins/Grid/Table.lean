/-
Reduced Gaussian grids from a table of rows.

A table lists one row of the grid per line, both hemispheres, north first:

    columns <tab> regular columns <tab> center latitude

Lines that are blank, or whose first visible character is `#`, are skipped
but counted. White space around a line and around a field does not matter,
the second field is not read, and fields after the third are ignored. The
number of rows has to be that of a known resolution.

The first line that does not fit decides the error. On one line the fields
are counted first, then read from left to right, then checked for their
ranges, and last compared with the row before. The number of rows is
checked when no line is at fault.
-/
import EarthBins.Decimal.Reading
import EarthBins.Grid.Gaussian
import EarthBins.Text.Blank

namespace EarthBins.RowTable

/-- Whether a trimmed line holds no row. -/
def isSkipped (line : List Char) : Bool :=
  match line with
  | [] => true
  | c :: _ => c == '#'

/-- The lines that hold rows, trimmed, each with its number in the text
counted from one. -/
def rowLines (text : String) : List (Nat × List Char) :=
  ((Text.lines text.toList).zipIdx 1).filterMap fun (line, number) =>
    let trimmed := Text.trim line
    if isSkipped trimmed then none else some (number, trimmed)

/-- Whether a latitude lies between the poles. -/
def inRange (lat : Float) : Bool := decide (-90 ≤ lat) && decide (lat ≤ 90)

/-- Column count and latitude of a line, without regard to the rows
around it. -/
def readRow (line : List Char) : Except RowError (Nat × Float) :=
  match (Text.splitOn '\t' line).map Text.trim with
  | columnField :: _ :: latField :: _ =>
    match Decimal.word? columnField, Decimal.number? latField with
    | none, _ => .error (.badColumnCount (String.ofList columnField))
    | some _, none => .error (.badLatitude (String.ofList latField))
    | some columns, some lat =>
      if columns = 0 then .error .noColumns
      else if !inRange lat then .error (.latitudeOutOfRange lat)
      else .ok (columns.toNat, lat)
  | fields => .error (.tooFewFields fields.length)

/-- The rows of the given lines, each to lie south of the one before. -/
def readRows (north : Option Float) :
    List (Nat × List Char) → Except Error (List (Nat × Float))
  | [] => .ok []
  | (number, line) :: rest =>
    match readRow line with
    | .error cause => .error (.settings (.tableRow number cause))
    | .ok (columns, lat) =>
      if north.any (fun previous => decide (previous ≤ lat)) then
        .error (.settings (.tableRow number .notDescending))
      else do
        let rows ← readRows (some lat) rest
        return (columns, lat) :: rows

/-- The grid that a table describes, for a number of rows per
hemisphere. -/
def read (rows : Nat) (text : String) : Except Error GaussianGrid := do
  if !Gaussian.allowedRows.contains rows then
    throw (Gaussian.unsupported rows)
  let found ← readRows none (rowLines text)
  if found.length ≠ 2 * rows then
    throw (.settings (.tableLength rows (2 * rows) found.length))
  return ⟨rows, RowLayout.ofRows found⟩

/-- The error for a table that cannot be read from its file. -/
def unreadable (path reason : String) : Error :=
  .settings (.unreadableTable path reason)

end EarthBins.RowTable
