/-
Vectors of features, and the names of their slots.

Every bin carries one vector of numbers per phase: the `spatial` phase
folds the observations of one pass, the `temporal` phase the passes, and
`output` is what a run reports. A slot without data holds NaN. The names
of the slots are kept apart from the numbers, in a schema that all vectors
of one role share.
-/
import EarthBins.Error
import EarthBins.Scalar

namespace EarthBins

/-- The phase that a feature vector belongs to. -/
inductive Role where
  | spatial
  | temporal
  | output
  deriving DecidableEq, Repr

/-- The name of a role. -/
def Role.name : Role → String
  | spatial => "spatial"
  | temporal => "temporal"
  | output => "output"

/-- The role of a name. -/
def Role.ofName? (s : String) : Option Role :=
  [Role.spatial, .temporal, .output].find? (·.name == s)

/-- The numbers of one bin in one phase. -/
abbrev FeatureVector (α : Type) := List α

namespace FeatureVector

variable {α : Type}

/-- A vector of slots without data. -/
def empty [Scalar α] (size : Nat) : FeatureVector α :=
  List.replicate size Scalar.nan

/-- The number in a slot. -/
def value (v : FeatureVector α) (slot : Nat) : Except Error α :=
  orOutOfBounds v[slot]?

/-- The vector with another number in a slot. -/
def replace (v : FeatureVector α) (slot : Nat) (x : α) :
    Except Error (FeatureVector α) :=
  if slot < v.length then .ok (v.set slot x) else .error .outOfBounds

/-- The slots of a vector can be read. -/
theorem value_eq_ok (v : FeatureVector α) {slot : Nat}
    (h : slot < v.length) : v.value slot = .ok v[slot] := by
  simp [value, orOutOfBounds, h]

end FeatureVector

/-- The slot names of one role, in order. -/
structure FeatureSchema where
  role : Role
  names : List String
  deriving DecidableEq, Repr

namespace FeatureSchema

/-- The first slot of a name. -/
def slotOf? (s : FeatureSchema) (name : String) : Option Nat :=
  s.names.findIdx? (· == name)

/-- The number under a name, nothing if the schema does not know it. -/
def valueOf? {α : Type} (s : FeatureSchema) (v : FeatureVector α)
    (name : String) : Except Error (Option α) :=
  match s.slotOf? name with
  | none => .ok none
  | some slot => some <$> v.value slot

end FeatureSchema

end EarthBins
