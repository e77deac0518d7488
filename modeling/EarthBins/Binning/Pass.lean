/-
Binning the observations of one pass.

Each observation inside the period goes to the bin of its position and is
folded there; observations outside the period are counted and dropped. A
bin comes into being with its first observation, together with a scratch
storage of its own. Completed bins come in the order of their numbers.
-/
import EarthBins.Grid
import EarthBins.Panel
import EarthBins.Scene.Observation
import EarthBins.Scene.Period

namespace EarthBins

/-- What observations are binned by. -/
structure BinningRule (α : Type) where
  panel : Panel α
  grid : Grid α
  period : Option (Period α)

/-- The bins of a pass that is being read, with their scratch storage. -/
structure PassBinner (α : Type) where
  bins : Std.ExtTreeMap Nat (Scratch α × PassBin α)
  /-- Observations binned so far. -/
  numBinned : Nat
  /-- Observations dropped because of their time. -/
  numOutside : Nat

/-- Whether a time passes the rule. -/
def BinningRule.accepts {α : Type} [Scalar α] (r : BinningRule α)
    (mjd : α) : Bool :=
  r.period.all (·.contains mjd)

namespace PassBinner

variable {α : Type}

/-- No observation yet. -/
def empty : PassBinner α := ⟨∅, 0, 0⟩

/-- Number of bins with an observation. -/
def numBins (b : PassBinner α) : Nat := b.bins.size

variable [Scalar α]

/-- The bin of a number as it is so far. -/
def bin (b : PassBinner α) (rule : BinningRule α) (index : Nat) :
    Except Error (Scratch α × PassBin α) :=
  match b.bins[index]? with
  | some entry => .ok entry
  | none => rule.panel.createPassBin (Scratch.empty index)

/-- Fold one observation. -/
def add (rule : BinningRule α) (b : PassBinner α) (o : Observation α) :
    Except Error (PassBinner α) := do
  if !rule.accepts o.mjd then
    return { b with numOutside := b.numOutside + 1 }
  let index := rule.grid.binOf o.lat o.lon
  let (scratch, bin) ← b.bin rule index
  let entry ← rule.panel.observe o.samples scratch bin
  return { b with
    bins := b.bins.insert index entry
    numBinned := b.numBinned + 1 }

/-- Fold observations in order. -/
def addAll (rule : BinningRule α) (b : PassBinner α)
    (observations : List (Observation α)) : Except Error (PassBinner α) :=
  observations.foldlM (add rule) b

/-- Complete all bins, in the order of their numbers. -/
def complete (rule : BinningRule α) (b : PassBinner α) :
    Except Error (List (PassBin α)) :=
  b.bins.toList.mapM fun (_, scratch, bin) =>
    Prod.snd <$> rule.panel.completePassBin scratch bin

end PassBinner

end EarthBins
