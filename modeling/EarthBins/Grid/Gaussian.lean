/-
Reduced Gaussian grids.

A reduced Gaussian grid N`n` has `n` rows in each hemisphere, at the
Gaussian latitudes, with fewer columns toward the poles. Eleven resolutions
are known. Each is given by its northern rows; the southern hemisphere
reflects them, so a grid is symmetric about the equator by construction.
-/
import EarthBins.Error
import EarthBins.Grid.Gaussian.N32
import EarthBins.Grid.Gaussian.N48
import EarthBins.Grid.Gaussian.N80
import EarthBins.Grid.Gaussian.N128
import EarthBins.Grid.Gaussian.N160
import EarthBins.Grid.Gaussian.N200
import EarthBins.Grid.Gaussian.N256
import EarthBins.Grid.Gaussian.N320
import EarthBins.Grid.Gaussian.N400
import EarthBins.Grid.Gaussian.N512
import EarthBins.Grid.Gaussian.N640
import EarthBins.Grid.RowLayout
import EarthBins.Scalar.Double

namespace EarthBins

/-- A reduced Gaussian grid: rows per hemisphere, and all rows. -/
structure GaussianGrid where
  hemisphereRows : Nat
  layout : RowLayout Float

namespace Gaussian

/-- The known resolutions, each with its northern rows. -/
def resolutions : List (Nat × List (Nat × Nat)) := [
    (32, n32), (48, n48), (80, n80), (128, n128), (160, n160),
    (200, n200), (256, n256), (320, n320), (400, n400), (512, n512),
    (640, n640)
  ]

/-- Row counts per hemisphere of the known resolutions. -/
def allowedRows : List Nat := resolutions.map Prod.fst

/-- A latitude given in millionths of a degree. -/
def degrees (micro : Nat) : Float := Float.ofNat micro / 1000000

/-- All rows from north to south, the southern ones reflected. -/
def reflected (northern : List (Nat × Nat)) : List (Nat × Float) :=
  northern.map (fun (columns, micro) => (columns, degrees micro))
    ++ northern.reverse.map
      (fun (columns, micro) => (columns, -degrees micro))

/-- The error for a row count that no known resolution has. -/
def unsupported (rows : Nat) : Error :=
  .settings (.unsupportedGaussian rows allowedRows)

/-- The known grid with the given number of rows per hemisphere. -/
def ofRows? (rows : Nat) : Except Error GaussianGrid :=
  match resolutions.find? (·.1 == rows) with
  | some (_, northern) =>
    .ok ⟨rows, RowLayout.ofRows (reflected northern)⟩
  | none => .error (unsupported rows)

end Gaussian

end EarthBins
