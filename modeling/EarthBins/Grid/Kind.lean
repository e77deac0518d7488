/-
The families of planetary grids and their names.

A family has one name, which configurations and results carry. Names typed
by people are read more freely: letter case does not count, and two
families have a short form.
-/
import EarthBins.Text.Blank

namespace EarthBins

/-- Layout family of a planetary grid. -/
inductive GridKind where
  /-- Equal angles in both directions. -/
  | regular
  /-- Gaussian latitudes with rows that shrink toward the poles. -/
  | reducedGaussian
  /-- Rows whose cells all cover about the same area. -/
  | equalArea
  deriving DecidableEq, Repr

namespace GridKind

/-- All families. -/
def all : List GridKind := [regular, reducedGaussian, equalArea]

/-- The name of a family. -/
def name : GridKind → String
  | regular => "regular"
  | reducedGaussian => "reduced_gaussian"
  | equalArea => "equal_area"

/-- The family with exactly this name. -/
def ofName? (s : String) : Option GridKind := all.find? (·.name == s)

/-- The family meant by a name in any letter case, short forms included. -/
def read? (s : String) : Option GridKind :=
  match Text.lowerCase s with
  | "regular" => some regular
  | "reduced_gaussian" | "gaussian" => some reducedGaussian
  | "equal_area" | "sea" => some equalArea
  | _ => none

end GridKind

end EarthBins
