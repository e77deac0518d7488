/-
The statistics of a run, side by side.

A bin carries one vector per phase, and each statistic owns a part of it,
in the order of the configuration:

    [ features of the first | features of the second | … ]

The parts are as wide as the statistic has names in the role at hand. All
statistics of a bin share one scratch storage. Output features are told
apart by name, so a panel has no output name twice.

An observation, a pass or a vector that is too short for its statistics is
an access out of bounds.
-/
import EarthBins.Statistic.Spec
import EarthBins.Text.Repeats

namespace EarthBins

/-- One pass's part of a bin. -/
structure PassBin (α : Type) where
  index : Nat
  numObs : Nat
  features : FeatureVector α

/-- A bin across passes. -/
structure RunBin (α : Type) where
  index : Nat
  numObs : Nat
  numPasses : Nat
  features : FeatureVector α

/-- What a run reports of a bin. -/
structure OutputBin (α : Type) where
  index : Nat
  numObs : Nat
  numPasses : Nat
  features : FeatureVector α

/-- The statistics of a run: at least one, with distinct output names. -/
structure Panel (α : Type) where
  statistics : List (Statistic α)
  nonempty : statistics ≠ []
  nodup_output : (statistics.flatMap (·.names.output)).Nodup

namespace Panel

variable {α : Type}

/-- The names of a role, statistic after statistic. -/
def namesOf (role : Role) (statistics : List (Statistic α)) : List String :=
  statistics.flatMap fun s => s.names.ofRole role

/-- The panel of some statistics. -/
def ofList? (statistics : List (Statistic α)) : Except Error (Panel α) :=
  if nonempty : statistics = [] then .error (.settings .noStatistics)
  else
    match h : Text.firstRepeat? (statistics.flatMap (·.names.output)) with
    | some name => .error (.settings (.duplicateFeature name))
    | none =>
      .ok ⟨statistics, nonempty, Text.firstRepeat?_eq_none_iff.mp h⟩

/-- The schema of a role. -/
def schema (p : Panel α) (role : Role) : FeatureSchema :=
  ⟨role, namesOf role p.statistics⟩

/-- Width of the part of a statistic. -/
def width (role : Role) (s : Statistic α) : Nat :=
  (s.names.ofRole role).length

/-- The part at the front of a vector and what follows it. -/
def splitPart (width : Nat) (v : FeatureVector α) :
    Except Error (FeatureVector α × FeatureVector α) :=
  if v.length < width then .error .outOfBounds
  else .ok (v.take width, v.drop width)

/-- Take a step with every statistic on its part of a vector. -/
def stepEach (role : Role) (step : Statistic α → Phase α) :
    List (Statistic α) → Phase α
  | [], scratch, v => .ok (scratch, v)
  | s :: rest, scratch, v => do
    let (part, others) ← splitPart (width role s) v
    let (scratch, part) ← step s scratch part
    let (scratch, others) ← stepEach role step rest scratch others
    return (scratch, part ++ others)

variable [Scalar α]

/-- The panel of the statistics that a configuration selects. -/
def ofSpecs? (specs : List (StatisticSpec α)) (known : List String) :
    Except Error (Panel α) := do
  ofList? (← specs.mapM (·.resolve known))

/-- What stands for features without data. -/
def fillValue (p : Panel α) : α :=
  match p.statistics with
  | s :: _ => s.fillValue
  | [] => Scalar.nan

/-- Take the temporal step of every statistic on its parts of the vectors of
a pass and of the run. -/
def mergeEach (numObs : Nat) :
    List (Statistic α) → FeatureVector α → Phase α
  | [], _, scratch, v => .ok (scratch, v)
  | s :: rest, pass, scratch, v => do
    let (passPart, passOthers) ← splitPart (width .spatial s) pass
    let (part, others) ← splitPart (width .temporal s) v
    let (scratch, part) ← s.phases.addPass passPart numObs scratch part
    let (scratch, others) ← mergeEach numObs rest passOthers scratch others
    return (scratch, part ++ others)

/-- The output of every statistic from its part of a vector. -/
def outputEach : List (Statistic α) → FeatureVector α →
    Except Error (FeatureVector α)
  | [], _ => .ok []
  | s :: rest, v => do
    let (part, others) ← splitPart (width .temporal s) v
    return (← s.phases.output part) ++ (← outputEach rest others)

/-- A bin before the first observation of a pass. -/
def createPassBin (p : Panel α) (scratch : Scratch α) :
    Except Error (Scratch α × PassBin α) := do
  let v := FeatureVector.empty (namesOf .spatial p.statistics).length
  let (scratch, features) ←
    stepEach .spatial (·.phases.initSpatial) p.statistics scratch v
  return (scratch, ⟨scratch.bin, 0, features⟩)

/-- Fold the samples of one observation. -/
def observe (p : Panel α) (samples : List α) (scratch : Scratch α)
    (bin : PassBin α) : Except Error (Scratch α × PassBin α) := do
  let (scratch, features) ← stepEach .spatial (·.phases.observe samples)
    p.statistics scratch bin.features
  return (scratch,
    { bin with numObs := bin.numObs + 1, features := features })

/-- Complete a bin after the last observation of a pass. -/
def completePassBin (p : Panel α) (scratch : Scratch α) (bin : PassBin α) :
    Except Error (Scratch α × PassBin α) := do
  let (scratch, features) ←
    stepEach .spatial (·.phases.completeSpatial bin.numObs)
      p.statistics scratch bin.features
  return (scratch, { bin with features := features })

/-- A bin before the first pass. -/
def createRunBin (p : Panel α) (scratch : Scratch α) :
    Except Error (Scratch α × RunBin α) := do
  let v := FeatureVector.empty (namesOf .temporal p.statistics).length
  let (scratch, features) ←
    stepEach .temporal (·.phases.initTemporal) p.statistics scratch v
  return (scratch, ⟨scratch.bin, 0, 0, features⟩)

/-- Fold a completed bin of one pass. -/
def addPass (p : Panel α) (pass : PassBin α) (scratch : Scratch α)
    (bin : RunBin α) : Except Error (Scratch α × RunBin α) := do
  let (scratch, features) ←
    mergeEach pass.numObs p.statistics pass.features scratch bin.features
  return (scratch,
    { bin with
      numObs := bin.numObs + pass.numObs
      numPasses := bin.numPasses + 1
      features := features })

/-- Complete a bin after the last pass. -/
def completeRunBin (p : Panel α) (scratch : Scratch α) (bin : RunBin α) :
    Except Error (Scratch α × RunBin α) := do
  let (scratch, features) ←
    stepEach .temporal (·.phases.completeTemporal bin.numObs)
      p.statistics scratch bin.features
  return (scratch, { bin with features := features })

/-- The output features of a completed bin. -/
def output (p : Panel α) (bin : RunBin α) : Except Error (OutputBin α) :=
  return ⟨bin.index, bin.numObs, bin.numPasses,
    ← outputEach p.statistics bin.features⟩

end Panel

end EarthBins
