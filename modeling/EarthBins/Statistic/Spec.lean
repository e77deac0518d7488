/-
Statistics as configurations select them.

A selection names variables; resolving it against the variables of a run
finds their places in the sample vectors and checks the parameters. Of two
faults the first in this order is reported: a parameter out of range, then
an unknown variable, where recorded variables come before their key.
-/
import EarthBins.Statistic.Average
import EarthBins.Statistic.Extrema
import EarthBins.Statistic.LogNormal
import EarthBins.Statistic.OnMax
import EarthBins.Statistic.Percentile

namespace EarthBins

open Scalar

/-- A statistic of a run, with its variables resolved. -/
inductive Statistic (α : Type) where
  | logNormal (statistic : LogNormal)
  | onMax (statistic : OnMax)
  | average (statistic : Average α)
  | extrema (statistic : Extrema)
  | percentile (statistic : Percentile)

namespace Statistic

variable {α : Type}

/-- The name of the kind, as configurations use it. -/
def typeName : Statistic α → String
  | logNormal _ => "average_log_normal"
  | onMax _ => "on_max_set"
  | average _ => "average"
  | extrema _ => "min_max"
  | percentile _ => "percentile"

/-- The percentage, where the statistic has one. -/
def percentage? : Statistic α → Option Nat
  | percentile p => some p.percentage
  | _ => none

/-- The names of the features. -/
def names : Statistic α → FeatureNames
  | logNormal s => s.names
  | onMax s => s.names
  | average s => s.names
  | extrema s => s.names
  | percentile s => s.names

variable [Scalar α]

/-- The phases of a statistic. -/
def phases : Statistic α → Phases α
  | logNormal s => s.phases
  | onMax s => s.phases
  | average s => s.phases
  | extrema s => s.phases
  | percentile s => s.phases

/-- What stands for features without data. -/
def fillValue (_ : Statistic α) : α := nan

end Statistic

/-- The place of a variable in the sample vectors of a run. -/
def requireVariable (known : List String) (name : String) :
    Except Error Nat :=
  match known.findIdx? (· == name) with
  | some slot => .ok slot
  | none => .error (.settings (.unknownVariable name known))

/-- A statistic as a configuration selects it. -/
inductive StatisticSpec (α : Type) where
  | logNormal (source : String)
  | onMax (key : String) (payload : List String)
  | average (source : String) (weightCoeff : α)
  | extrema (source : String)
  | percentile (source : String) (percentage : UInt32)
  deriving DecidableEq, Repr

namespace StatisticSpec

variable {α : Type} [Scalar α]

/-- The statistic of a selection, with its variables found among those of
the run. -/
def resolve (spec : StatisticSpec α) (known : List String) :
    Except Error (Statistic α) :=
  match spec with
  | logNormal name =>
    return .logNormal ⟨name, ← requireVariable known name⟩
  | onMax key payload => do
    let slots ← payload.mapM (requireVariable known)
    return .onMax ⟨key, ← requireVariable known key, payload, slots⟩
  | average name weightCoeff => do
    if !isFinite weightCoeff then throw (.settings .weightNotFinite)
    return .average ⟨name, ← requireVariable known name, weightCoeff⟩
  | extrema name =>
    return .extrema ⟨name, ← requireVariable known name⟩
  | percentile name percentage => do
    if 100 < percentage then
      throw (.settings (.percentageTooLarge percentage.toNat))
    return .percentile
      ⟨name, ← requireVariable known name, percentage.toNat⟩

end StatisticSpec

end EarthBins
