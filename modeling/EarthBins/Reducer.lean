/-
Binning runs.

A reducer is what usable settings amount to: a grid, a panel of statistics
and a rule for which observations count. It bins each pass on its own and
merges the bins of all passes.

A pass that lacks something is refused before any of its samples is read.
The first fault in this order is reported: no times though a period
selects by time, a number of planes other than that of the variables, no
plane at all, planes or mask of different sizes, a window outside them,
and too fine a sampling.

A run that is cancelled before it starts bins no pass. Whether the bins
are merged in one go or by shards makes no difference to the result.
-/
import EarthBins.Binning.Pass
import EarthBins.Binning.Run
import EarthBins.Settings

namespace EarthBins

/-- One source raster, for instance one overpass of a satellite. -/
structure Pass (α : Type) where
  name : String
  scene : Scene α
  /-- The slice to bin, the whole raster where there is none. -/
  window : Option Window

/-- What a run is carried out with. -/
structure Reducer (α : Type) where
  variableNames : List String
  superSampling : Nat
  parallel : Bool
  rule : BinningRule α

/-- The result of a run. Only bins with observations are in it. -/
structure Report (α : Type) where
  gridKind : GridKind
  numRows : Nat
  numBins : Nat
  featureNames : List String
  fillValue : α
  numPasses : Nat
  bins : OutputMap α

namespace Reducer

/-- The reducer for some settings. -/
def ofSettings? (s : Settings) : Except Error (Reducer Float) := do
  s.check
  let grid ← s.grid.build
  let panel ← Panel.ofSpecs? s.statistics s.variableNames
  return ⟨s.variableNames, s.superSampling.toNat, s.parallel,
    ⟨panel, grid, s.period⟩⟩

/-- Number of shards of a merge that is split. -/
def shardCount : Nat := 4

variable {α : Type} [Scalar α]

/-- The window of a pass and the points to sample in it, if the pass is in
order. -/
def samplingOf (r : Reducer α) (pass : Pass α) : Except Error Sampling := do
  let scene := pass.scene
  if r.rule.period.isSome && scene.timing.isNone then
    throw (.missingTime pass.name)
  if scene.planes.length ≠ r.variableNames.length then
    throw (.input (.planeCount pass.name scene.planes.length
      r.variableNames.length r.variableNames))
  match Scene.rasterSize? scene.planes scene.mask with
  | none => throw (.input (.passWithoutPlanes pass.name))
  | some (width, height) =>
    let window := pass.window.getD (Window.full width height)
    Scene.checkRasters scene.planes scene.mask window
    Sampling.of? window r.superSampling

/-- The completed bins of one pass. -/
def binPass (r : Reducer α) (pass : Pass α) :
    Except Error (List (PassBin α)) := do
  let sampling ← r.samplingOf pass
  let observations ← pass.scene.observations sampling
  let binner ← PassBinner.empty.addAll r.rule observations
  binner.complete r.rule

/-- The same, unless the run was cancelled. -/
def binPassUnless (r : Reducer α) (cancelled : Bool) (pass : Pass α) :
    Except Error (List (PassBin α)) :=
  if cancelled then .error .cancelled else r.binPass pass

/-- Merge the completed bins of all passes. -/
def merge (r : Reducer α) (bins : List (PassBin α)) :
    Except Error (OutputMap α) :=
  if r.parallel then mergeSharded r.rule.panel shardCount bins
  else mergePasses r.rule.panel bins

/-- Bin all passes and merge their bins. -/
def run (r : Reducer α) (passes : List (Pass α)) (cancelled : Bool) :
    Except Error (Report α) := do
  let bins ← passes.mapM (r.binPassUnless cancelled)
  let merged ← r.merge bins.flatten
  let grid := r.rule.grid
  return {
    gridKind := grid.kind
    numRows := grid.numRows
    numBins := grid.numBins
    featureNames := (r.rule.panel.schema .output).names
    fillValue := r.rule.panel.fillValue
    numPasses := passes.length
    bins := merged }

end Reducer

/-- A feature of a bin by its name, nothing where the bin or the name is
not in the report. -/
def Report.feature? {α : Type} (r : Report α) (bin : Nat) (name : String) :
    Except Error (Option α) :=
  match r.featureNames.findIdx? (· == name), r.bins[bin]? with
  | some slot, some out => some <$> out.features.value slot
  | _, _ => .ok none

end EarthBins
