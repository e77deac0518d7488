/-
What every statistic does, phase by phase.

    spatial:   init, then each observation, then complete   (one pass)
    temporal:  init, then each pass, then complete          (all passes)
    output:    from the completed temporal vector

A statistic has no state. Its phase functions take the scratch storage and
the feature vector of a bin and return both as they are afterwards. The
vectors are as long as the statistic has features in the role at hand; a
vector or a sample list that is too short is an access out of bounds, and
slots behind the ones a statistic knows are left alone.

The number of observations is offered to the functions that complete or
merge a pass. None of the statistics here depends on it: each keeps the
count of the samples it could use.
-/
import EarthBins.Feature.Scratch
import EarthBins.Feature.Vector

namespace EarthBins

/-- Names of the features of a statistic in the three roles. -/
structure FeatureNames where
  spatial : List String
  temporal : List String
  output : List String
  deriving DecidableEq, Repr

namespace FeatureNames

/-- Names that consist of a variable and a suffix each. -/
def ofSuffixes (source : String) (spatial temporal output : List String) :
    FeatureNames :=
  let expand := List.map fun suffix => s!"{source}_{suffix}"
  ⟨expand spatial, expand temporal, expand output⟩

/-- The names of one role. -/
def ofRole (n : FeatureNames) : Role → List String
  | .spatial => n.spatial
  | .temporal => n.temporal
  | .output => n.output

end FeatureNames

/-- A step on the storage and the feature vector of a bin. -/
abbrev Phase (α : Type) :=
  Scratch α → FeatureVector α → Except Error (Scratch α × FeatureVector α)

/-- The phase functions of a statistic. -/
structure Phases (α : Type) where
  /-- The state before the first observation of a pass. -/
  initSpatial : Phase α
  /-- Fold the samples of one observation. -/
  observe : List α → Phase α
  /-- Normalize after the last observation of a pass; the number is that of
  the observations. -/
  completeSpatial : Nat → Phase α
  /-- The state before the first pass. -/
  initTemporal : Phase α
  /-- Fold the completed vector of one pass; the number is that of the
  observations in the pass. -/
  addPass : FeatureVector α → Nat → Phase α
  /-- Finish after the last pass; the number is that of all
  observations. -/
  completeTemporal : Nat → Phase α
  /-- The output features of a completed temporal vector. -/
  output : FeatureVector α → Except Error (FeatureVector α)

namespace Phase

variable {α : Type}

/-- The step that changes nothing. -/
def skip : Phase α := fun scratch v => .ok (scratch, v)

/-- A step that does without scratch storage. -/
def ofVector (f : FeatureVector α → Except Error (FeatureVector α)) :
    Phase α :=
  fun scratch v => return (scratch, ← f v)

end Phase

end EarthBins
