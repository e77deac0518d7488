/-
One statistic through all of its phases, and what comes out of it.

A cycle takes passes, each with the sample vectors of a bin, and returns
output features. On the way it folds vectors and keeps entries in a
storage. A `Reduction` tells the same without either: what is read in a
sample vector, if it is of use, and how readings make a pass and passes
make a run.

# From phases to a reduction

`ReducesTo` asks of every phase that it does to vector and storage what the
reduction does to its states; `Holds` and `HoldsRun` say what vector and
storage hold in a state. One induction over the observations and one over
the passes carry this through a cycle (`runVector_eq`). So the run vector
depends on nothing but the readings: not on the bin, not on the numbers of
observations that are offered, and not on passes without a reading
(`ofRun_filter`).
-/
import EarthBins.Proofs.Scalar.Order
import EarthBins.Proofs.Statistic.Kinds

namespace EarthBins

open Scalar Outcome

variable {α : Type} [Scalar α]

-- ============================================================ the cycle

/-- What a bin gets of one pass: sample vectors, and the number of
observations that is offered with them. -/
structure PassSamples (α : Type) where
  numObs : Nat
  samples : List (List α)

namespace Statistic

/-- The completed vector of a pass. -/
def passVector (x : Statistic α) (bin : Nat) (pass : PassSamples α) :
    Except Error (FeatureVector α) := do
  let fresh ← x.phases.initSpatial (Scratch.empty bin)
    (FeatureVector.empty x.names.spatial.length)
  let folded ← pass.samples.foldlM
    (fun entry samples => x.phases.observe samples entry.1 entry.2) fresh
  Prod.snd <$> x.phases.completeSpatial pass.numObs folded.1 folded.2

/-- The completed vector of a run. -/
def runVector (x : Statistic α) (bin : Nat) (passes : List (PassSamples α))
    (numObs : Nat) : Except Error (FeatureVector α) := do
  let fresh ← x.phases.initTemporal (Scratch.empty bin)
    (FeatureVector.empty x.names.temporal.length)
  let folded ← passes.foldlM
    (fun entry pass => do
      x.phases.addPass (← x.passVector bin pass) pass.numObs entry.1 entry.2)
    fresh
  Prod.snd <$> x.phases.completeTemporal numObs folded.1 folded.2

/-- The output features of a run. -/
def cycle (x : Statistic α) (bin : Nat) (passes : List (PassSamples α))
    (numObs : Nat) : Except Error (FeatureVector α) :=
  x.runVector bin passes numObs >>= x.phases.output

/-- Whether sample vectors have all the samples that a statistic reads. -/
def Fits (x : Statistic α) (passes : List (PassSamples α)) : Prop :=
  ∀ pass ∈ passes, ∀ samples ∈ pass.samples, ∀ slot ∈ x.slots,
    slot < samples.length

omit [Scalar α] in
/-- A statistic that reads one slot needs one sample. -/
theorem fits_of_slots_eq {x : Statistic α} {passes : List (PassSamples α)}
    {slot : Nat} (hx : x.slots = [slot])
    (enough : ∀ pass ∈ passes, ∀ samples ∈ pass.samples,
      slot < samples.length) : x.Fits passes := by
  intro pass hpass samples hsamples i hi
  rw [hx, List.mem_singleton] at hi
  rw [hi]
  exact enough pass hpass samples hsamples

end Statistic

-- =========================================================== reductions

/-- What a statistic computes, step by step, and how it is held in vectors
and storages. -/
structure Reduction (α : Type) where
  Reading : Type
  PassState : Type
  RunState : Type
  /-- What a sample vector has for the statistic, if it is of use. -/
  read : List α → Option Reading
  start : PassState
  fold : PassState → Reading → PassState
  /-- The vector of a completed pass. -/
  vector : PassState → FeatureVector α
  begin : RunState
  merge : RunState → PassState → RunState
  /-- The vector of a completed run. -/
  finish : RunState → Except Error (FeatureVector α)
  Holds : PassState → Scratch α → FeatureVector α → Prop
  HoldsRun : RunState → Scratch α → FeatureVector α → Prop

namespace Reduction

variable (r : Reduction α)

/-- The state after the readings of a pass. -/
def ofPass (readings : List r.Reading) : r.PassState :=
  readings.foldl r.fold r.start

/-- The state after the readings of some passes. -/
def ofRun (passes : List (List r.Reading)) : r.RunState :=
  passes.foldl (fun run readings => r.merge run (r.ofPass readings)) r.begin

/-- The readings of a pass. -/
def readings (pass : PassSamples α) : List r.Reading :=
  pass.samples.filterMap r.read

omit [Scalar α] in
/-- The readings of all passes are read in all sample vectors on end. -/
theorem flatten_readings (passes : List (PassSamples α)) :
    (passes.map r.readings).flatten
      = (passes.flatMap (·.samples)).filterMap r.read := by
  rw [List.filterMap_flatMap]
  rfl

end Reduction

/-- Phases do to vectors and storages what a reduction does to its
states. -/
structure Phases.ReducesTo (p : Phases α) (names : FeatureNames)
    (slots : List Nat) (r : Reduction α) : Prop where
  initSpatial : ∀ s {v : FeatureVector α}, v.length = names.spatial.length →
    ∃ s' v', p.initSpatial s v = .ok (s', v') ∧ r.Holds r.start s' v'
  observe : ∀ {samples : List α}, (∀ slot ∈ slots, slot < samples.length) →
    ∀ {state s v}, r.Holds state s v →
      ∃ s' v', p.observe samples s v = .ok (s', v')
        ∧ r.Holds ((r.read samples).elim state (r.fold state)) s' v'
  completeSpatial : ∀ n {state s v}, r.Holds state s v →
    ∃ s', p.completeSpatial n s v = .ok (s', r.vector state)
  initTemporal : ∀ s {v : FeatureVector α}, v.length = names.temporal.length →
    ∃ s' v', p.initTemporal s v = .ok (s', v') ∧ r.HoldsRun r.begin s' v'
  addPass : ∀ n {pass s v}, r.Holds pass s v →
    ∀ {run t w}, r.HoldsRun run t w →
      ∃ t' w', p.addPass (r.vector pass) n t w = .ok (t', w')
        ∧ r.HoldsRun (r.merge run pass) t' w'
  completeTemporal : ∀ n {run s v}, r.HoldsRun run s v →
    Prod.snd <$> p.completeTemporal n s v = r.finish run
  /-- A pass without a reading adds nothing. -/
  merge_start : ∀ run, r.merge run r.start = run

/-- A statistic computes a reduction. -/
def Statistic.ReducesTo (x : Statistic α) (r : Reduction α) : Prop :=
  x.phases.ReducesTo x.names x.slots r

-- ============================================================ one induction

/-- Steps that may fail follow steps that cannot, as long as each does. -/
theorem foldlM_follows {ι σ β : Type} (Follows : σ → β → Prop)
    {f : β → ι → Except Error β} {g : σ → ι → σ} {l : List ι}
    (step : ∀ a ∈ l, ∀ state b, Follows state b →
      ∃ b', f b a = .ok b' ∧ Follows (g state a) b')
    {s : σ} {b : β} (h : Follows s b) :
    ∃ b', l.foldlM f b = .ok b' ∧ Follows (l.foldl g s) b' := by
  induction l generalizing s b with
  | nil => exact ⟨b, rfl, h⟩
  | cons a l ih =>
      obtain ⟨b₁, h₁, follows⟩ := step a List.mem_cons_self s b h
      obtain ⟨b', h', follows'⟩ :=
        ih (fun a' ha' => step a' (List.mem_cons_of_mem _ ha')) follows
      exact ⟨b', by rw [List.foldlM_cons, h₁, ok_bind, h'], follows'⟩

/-- What every step keeps holds of what comes out, if each succeeds where it
holds. -/
theorem foldlM_keeps {ι β : Type} (Keeps : β → Prop)
    {f : β → ι → Except Error β} {l : List ι}
    (step : ∀ a ∈ l, ∀ b, Keeps b → ∃ b', f b a = .ok b' ∧ Keeps b')
    {b : β} (h : Keeps b) : ∃ b', l.foldlM f b = .ok b' ∧ Keeps b' :=
  foldlM_follows (fun _ => Keeps) (g := fun _ _ => ())
    (fun a ha _ => step a ha) (s := ()) h

/-- Folding what is read folds the readings. -/
theorem foldl_elim {ι ρ σ : Type} (read : ι → Option ρ) (fold : σ → ρ → σ)
    (items : List ι) (state : σ) :
    items.foldl (fun state a => (read a).elim state (fold state)) state
      = (items.filterMap read).foldl fold state := by
  induction items generalizing state with
  | nil => rfl
  | cons a items ih =>
      rw [List.foldl_cons, ih]
      cases h : read a with
      | none => rw [List.filterMap_cons_none h, Option.elim_none]
      | some b =>
          rw [List.filterMap_cons_some h, List.foldl_cons, Option.elim_some]

-- ======================================================== a cycle succeeds

omit [Scalar α] in
/-- A confined step succeeds and keeps the width. -/
theorem Phase.Confined.isOk {names : List String} {width : Nat}
    {f : Phase α} (h : Phase.Confined names width f) (s : Scratch α)
    {v : FeatureVector α} (hv : v.length = width) :
    ∃ s' v', f s v = .ok (s', v') ∧ v'.length = width := by
  obtain ⟨s', -, v', hs', -, hv', -⟩ := h hv (Scratch.AgreeOn.refl names s)
  exact ⟨s', v', hs', hv'⟩

namespace Statistic

variable [LawfulIndex α]

theorem passVector_isOk (x : Statistic α) (bin : Nat)
    {pass : PassSamples α} (fits : ∀ samples ∈ pass.samples,
      ∀ slot ∈ x.slots, slot < samples.length) :
    ∃ v, x.passVector bin pass = .ok v
      ∧ v.length = x.names.spatial.length := by
  obtain ⟨s, v, fresh, width⟩ := x.confined.initSpatial.isOk
    (Scratch.empty bin) (v := FeatureVector.empty x.names.spatial.length)
    List.length_replicate
  obtain ⟨⟨s', v'⟩, folded, width'⟩ := foldlM_keeps
    (fun entry => entry.2.length = x.names.spatial.length)
    (f := fun entry samples => x.phases.observe samples entry.1 entry.2)
    (l := pass.samples)
    (by
      rintro samples hsamples ⟨s, v⟩ width
      obtain ⟨s', v', observed, width'⟩ :=
        (x.confined.observe (fits samples hsamples)).isOk s width
      exact ⟨(s', v'), observed, width'⟩)
    (b := (s, v)) width
  obtain ⟨s'', v'', completed, width''⟩ :=
    (x.confined.completeSpatial pass.numObs).isOk s' width'
  refine ⟨v'', ?_, width''⟩
  rw [passVector, fresh, ok_bind, folded, ok_bind, completed]
  rfl

theorem runVector_isOk (x : Statistic α) {passes : List (PassSamples α)}
    (fits : x.Fits passes) (bin numObs : Nat) :
    ∃ v, x.runVector bin passes numObs = .ok v
      ∧ v.length = x.names.temporal.length := by
  obtain ⟨s, v, fresh, width⟩ := x.confined.initTemporal.isOk
    (Scratch.empty bin) (v := FeatureVector.empty x.names.temporal.length)
    List.length_replicate
  obtain ⟨⟨s', v'⟩, folded, width'⟩ := foldlM_keeps
    (fun entry => entry.2.length = x.names.temporal.length)
    (f := fun entry pass => do
      x.phases.addPass (← x.passVector bin pass) pass.numObs entry.1 entry.2)
    (l := passes)
    (by
      rintro pass hpass ⟨s, v⟩ width
      obtain ⟨vector, made, long⟩ := x.passVector_isOk bin (fits pass hpass)
      obtain ⟨s', v', added, width'⟩ :=
        (x.confined.addPass pass.numObs long).isOk s width
      exact ⟨(s', v'), by rw [made, ok_bind, added], width'⟩)
    (b := (s, v)) width
  obtain ⟨s'', v'', completed, width''⟩ :=
    (x.confined.completeTemporal numObs).isOk s' width'
  refine ⟨v'', ?_, width''⟩
  rw [runVector, fresh, ok_bind, folded, ok_bind, completed]
  rfl

/-- A cycle on vectors with all samples succeeds. -/
theorem cycle_isOk (x : Statistic α) {passes : List (PassSamples α)}
    (fits : x.Fits passes) (bin numObs : Nat) :
    ∃ out, x.cycle bin passes numObs = .ok out
      ∧ out.length = x.names.output.length := by
  obtain ⟨v, made, width⟩ := x.runVector_isOk fits bin numObs
  obtain ⟨out, hout, width'⟩ := x.confined.output width
  exact ⟨out, by rw [cycle, made, ok_bind, hout], width'⟩

end Statistic

-- ========================================================== a whole cycle

namespace Statistic.ReducesTo

variable {x : Statistic α} {r : Reduction α} (h : x.ReducesTo r)
include h

/-- A completed pass shows the state after its readings, and some vector and
storage held it. -/
theorem passVector_eq (bin : Nat) {pass : PassSamples α}
    (fits : ∀ samples ∈ pass.samples, ∀ slot ∈ x.slots,
      slot < samples.length) :
    x.passVector bin pass = .ok (r.vector (r.ofPass (r.readings pass)))
    ∧ ∃ s v, r.Holds (r.ofPass (r.readings pass)) s v := by
  obtain ⟨s, v, fresh, starts⟩ := h.initSpatial (Scratch.empty bin)
    (v := FeatureVector.empty x.names.spatial.length) List.length_replicate
  -- the state goes along with the observations
  obtain ⟨⟨s', v'⟩, folded, holds⟩ := foldlM_follows
    (fun state entry => r.Holds state entry.1 entry.2)
    (f := fun entry samples => x.phases.observe samples entry.1 entry.2)
    (g := fun state samples => (r.read samples).elim state (r.fold state))
    (l := pass.samples)
    (by
      rintro samples hsamples state ⟨s, v⟩ holds
      obtain ⟨s', v', observed, holds'⟩ :=
        h.observe (fits samples hsamples) holds
      exact ⟨(s', v'), observed, holds'⟩)
    (b := (s, v)) starts
  rw [foldl_elim] at holds
  obtain ⟨s'', completed⟩ := h.completeSpatial pass.numObs holds
  refine ⟨?_, s', v', holds⟩
  rw [passVector, fresh, ok_bind, folded, ok_bind, completed]
  rfl

/-- A completed run shows the state after the readings of its passes. -/
theorem runVector_eq {passes : List (PassSamples α)} (fits : x.Fits passes)
    (bin numObs : Nat) :
    x.runVector bin passes numObs
      = r.finish (r.ofRun (passes.map r.readings)) := by
  obtain ⟨s, v, fresh, begins⟩ := h.initTemporal (Scratch.empty bin)
    (v := FeatureVector.empty x.names.temporal.length) List.length_replicate
  obtain ⟨⟨s', v'⟩, folded, holds⟩ := foldlM_follows
    (fun run entry => r.HoldsRun run entry.1 entry.2)
    (f := fun entry pass => do
      x.phases.addPass (← x.passVector bin pass) pass.numObs entry.1 entry.2)
    (g := fun run pass => r.merge run (r.ofPass (r.readings pass)))
    (l := passes)
    (by
      rintro pass hpass run ⟨t, w⟩ holds
      obtain ⟨vector, s, v, held⟩ := h.passVector_eq bin (fits pass hpass)
      obtain ⟨t', w', added, holds'⟩ := h.addPass pass.numObs held holds
      exact ⟨(t', w'), by rw [vector, ok_bind, added], holds'⟩)
    (b := (s, v)) begins
  rw [runVector, fresh, ok_bind, folded, ok_bind,
    h.completeTemporal numObs holds, Reduction.ofRun, List.foldl_map]

/-- Passes without a reading do not matter. -/
theorem ofRun_filter (passes : List (List r.Reading)) :
    r.ofRun (passes.filter fun readings => !readings.isEmpty)
      = r.ofRun passes := by
  unfold Reduction.ofRun
  generalize r.begin = run
  induction passes generalizing run with
  | nil => rfl
  | cons readings passes ih =>
      cases readings with
      | nil =>
          rw [List.filter_cons_of_neg (by simp), List.foldl_cons, ih]
          exact congrArg (List.foldl _ · passes) (h.merge_start run).symm
      | cons a readings =>
          rw [List.filter_cons_of_pos (by simp), List.foldl_cons,
            List.foldl_cons, ih]

end Statistic.ReducesTo

end EarthBins
