/-
The settings of a binning run.

Settings choose the grid, name the variables of the sample vectors in
order, select the statistics, and say how finely pixels are sampled and
which period counts. Everything has a default, so that a document only
states what differs from it.

`check` is what can be said without loading a grid or resolving variables.
It looks at the grid, the super-sampling, the number of statistics, the
variable names and the period, in this order.
-/
import EarthBins.Grid
import EarthBins.Scene.Period
import EarthBins.Scene.Sampling
import EarthBins.Statistic.Spec
import EarthBins.Text.Repeats

namespace EarthBins

/-- The choice of a grid: all rows, or the rows per hemisphere for a
reduced Gaussian grid. -/
structure GridChoice where
  kind : GridKind := .reducedGaussian
  rows : UInt32 := 128
  deriving DecidableEq, Repr

namespace GridChoice

/-- What is wrong with a choice, if anything is. -/
def fault? (g : GridChoice) : Option SettingsError :=
  let rows := g.rows.toNat
  match g.kind with
  | .reducedGaussian =>
    if Gaussian.allowedRows.contains rows then none
    else some (.gaussianRows rows Gaussian.allowedRows)
  | .regular | .equalArea =>
    if rows < 2 ∨ rows % 2 ≠ 0 then some (.evenRows rows) else none

/-- The grid of a choice. -/
def build (g : GridChoice) : Except Error (Grid Float) :=
  Grid.build g.kind g.rows.toNat

end GridChoice

/-- The settings of a run. -/
structure Settings where
  grid : GridChoice := {}
  /-- Names of the planes, in the order in which passes have them. -/
  variableNames : List String := []
  /-- The statistics of every bin, in the order of the output. -/
  statistics : List (StatisticSpec Float) := []
  /-- Sample points per pixel edge. -/
  superSampling : UInt32 := 1
  /-- Only observations of this period are binned. -/
  period : Option (Period Float) := none
  /-- Whether passes are binned and bins merged side by side. -/
  parallel : Bool := true

namespace Settings

/-- Whether the settings are usable as far as they can be judged alone. -/
def check (s : Settings) : Except Error Unit := do
  if let some fault := s.grid.fault? then throw (.settings fault)
  let factor := s.superSampling.toNat
  if factor < 1 ∨ Sampling.maxFactor < factor then
    throw (.settings (.superSampling Sampling.maxFactor factor))
  if s.statistics.isEmpty then throw (.settings .noStatistics)
  if let some name := Text.firstRepeat? s.variableNames then
    throw (.settings (.duplicateVariable name))
  match s.period with
  | some period => period.check
  | none => return ()

end Settings

end EarthBins
