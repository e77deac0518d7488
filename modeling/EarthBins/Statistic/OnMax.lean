/-
The values of other variables where a key variable is largest.

The vector of every phase is the key followed by its payload. An
observation, and later a pass, replaces the whole vector only if its key
is strictly larger, so the first of several equal keys wins and key and
payload always belong together. Before the first key stands minus
infinity: a key that is NaN or minus infinity never wins.
-/
import EarthBins.Statistic.Phases

namespace EarthBins

open Scalar

/-- A key variable and the variables recorded at its maximum. -/
structure OnMax where
  key : String
  keySlot : Nat
  payload : List String
  payloadSlots : List Nat

namespace OnMax

/-- The names of the features, the same in every phase. -/
def names (m : OnMax) : FeatureNames :=
  let names := s!"{m.key}_max" :: m.payload
  ⟨names, names, names⟩

variable {α : Type} [Scalar α]

/-- No key yet. -/
def clear : FeatureVector α → Except Error (FeatureVector α)
  | _ :: rest => .ok (-infinity :: FeatureVector.empty rest.length)
  | [] => .error .outOfBounds

/-- The payload samples, as many as there are slots for. -/
def record (samples : List α) :
    List Nat → FeatureVector α → Except Error (FeatureVector α)
  | index :: indices, _ :: slots => do
    let x ← FeatureVector.value samples index
    return x :: (← record samples indices slots)
  | _, slots => .ok slots

/-- Fold the samples of one observation. -/
def observe (m : OnMax) (samples : List α) (v : FeatureVector α) :
    Except Error (FeatureVector α) := do
  let key ← FeatureVector.value samples m.keySlot
  match v with
  | largest :: slots =>
    if largest < key then
      return key :: (← record samples m.payloadSlots slots)
    else return v
  | [] => throw .outOfBounds

/-- Fold a completed pass. -/
def addPass (pass v : FeatureVector α) : Except Error (FeatureVector α) :=
  match pass, v with
  | key :: _, largest :: _ =>
    if largest < key then
      if pass.length = v.length then .ok pass else .error .outOfBounds
    else .ok v
  | _, _ => .error .outOfBounds

/-- Key and payload, or no data. -/
def output (m : OnMax) (v : FeatureVector α) :
    Except Error (FeatureVector α) :=
  match v with
  | key :: _ =>
    if -infinity < key then
      if v.length = m.payload.length + 1 then .ok v
      else .error .outOfBounds
    else .ok (FeatureVector.empty (m.payload.length + 1))
  | [] => .error .outOfBounds

/-- The phases of the recording. -/
def phases (m : OnMax) : Phases α where
  initSpatial := .ofVector clear
  observe samples := .ofVector (m.observe samples)
  completeSpatial _ := .skip
  initTemporal := .ofVector clear
  addPass pass _ := .ofVector (addPass pass)
  completeTemporal _ := .skip
  output := m.output

end OnMax

end EarthBins
