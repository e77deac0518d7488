/-
Merging the bins of many passes.

Completed bins of passes are folded by number, in the order in which they
come; a bin without observations leaves no trace. The result holds one
output bin per number.

Bins of different numbers have nothing in common, so the merge can be split
by number into shards: each shard is merged on its own, and the results,
which share no number, are put together.
-/
import EarthBins.Panel

namespace EarthBins

/-- Output bins by number. -/
abbrev OutputMap (α : Type) := Std.ExtTreeMap Nat (OutputBin α)

/-- The bins of a run so far, with their scratch storage. -/
structure RunBinner (α : Type) where
  bins : Std.ExtTreeMap Nat (Scratch α × RunBin α)

namespace RunBinner

variable {α : Type}

/-- No pass yet. -/
def empty : RunBinner α := ⟨∅⟩

/-- Number of bins. -/
def numBins (b : RunBinner α) : Nat := b.bins.size

variable [Scalar α]

/-- The bin of a number as it is so far. -/
def bin (b : RunBinner α) (panel : Panel α) (index : Nat) :
    Except Error (Scratch α × RunBin α) :=
  match b.bins[index]? with
  | some entry => .ok entry
  | none => panel.createRunBin (Scratch.empty index)

/-- Fold one completed bin of a pass. -/
def add (panel : Panel α) (b : RunBinner α) (pass : PassBin α) :
    Except Error (RunBinner α) := do
  if pass.numObs = 0 then return b
  let (scratch, bin) ← b.bin panel pass.index
  let entry ← panel.addPass pass scratch bin
  return ⟨b.bins.insert pass.index entry⟩

/-- Fold completed bins in order. -/
def addAll (panel : Panel α) (b : RunBinner α) (bins : List (PassBin α)) :
    Except Error (RunBinner α) :=
  bins.foldlM (add panel) b

/-- Complete a bin and compute its output. -/
def finishBin (panel : Panel α) (entry : Scratch α × RunBin α) :
    Except Error (OutputBin α) := do
  let (_, bin) ← panel.completeRunBin entry.1 entry.2
  panel.output bin

/-- Complete all bins and compute their outputs. -/
def finish (panel : Panel α) (b : RunBinner α) :
    Except Error (OutputMap α) := do
  let outputs ← b.bins.toList.mapM fun (index, entry) =>
    return (index, ← finishBin panel entry)
  return Std.ExtTreeMap.ofList outputs

end RunBinner

variable {α : Type} [Scalar α]

/-- The output bins of the completed bins of some passes. -/
def mergePasses (panel : Panel α) (bins : List (PassBin α)) :
    Except Error (OutputMap α) := do
  (← RunBinner.empty.addAll panel bins).finish panel

/-- Put the outputs of shards together. -/
def combineShards (maps : List (OutputMap α)) : OutputMap α :=
  maps.foldl (fun combined part => combined.insertMany part.toList) ∅

/-- The same by shards: the bins whose numbers leave the same remainder are
merged together. -/
def mergeSharded (panel : Panel α) (shards : Nat) (bins : List (PassBin α)) :
    Except Error (OutputMap α) := do
  let maps ← (List.range shards).mapM fun shard =>
    mergePasses panel (bins.filter fun b => b.index % shards == shard)
  return combineShards maps

end EarthBins
