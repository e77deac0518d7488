/-
Statistics that share a panel do not interfere.

A workspace holds the storages and bins of a run in any number, and the
calls of a panel are made on them in any order: a storage may serve several
bins, and passes and runs may be interleaved. The same calls are made on
two workspaces, one for a panel and one for a single statistic of it.

# The relation

`Alike` relates the two: every bin of the second holds the part of the
statistic in that of the first, and the storages agree under the names of
the statistic. Every call preserves it (`call_alike`), and with it that the
vectors of the panel keep their width, which is why no call fails. So after
any calls the statistic has got the numbers it gets alone
(`calls_alike`).
-/
import EarthBins.Proofs.Panel.Alone
import Mathlib.Logic.Function.Basic

namespace EarthBins

open Outcome

variable {α : Type}

-- ======================================================== the workspace

/-- Storages, bins of passes, bins of a run and outputs, by number. -/
structure Workspace (α : Type) where
  storages : Nat → Scratch α
  passBins : Nat → Option (PassBin α)
  runBins : Nat → Option (RunBin α)
  outputs : Nat → Option (OutputBin α)

/-- A call of a panel. Storages and bins are given by their numbers in the
workspace. -/
inductive PanelCall (α : Type) where
  /-- A new storage for a bin of the grid. -/
  | openStorage (storage bin : Nat)
  | createPassBin (storage bin : Nat)
  | observe (storage bin : Nat) (samples : List α)
  | completePassBin (storage bin : Nat)
  | createRunBin (storage bin : Nat)
  | addPass (storage pass bin : Nat)
  | completeRunBin (storage bin : Nat)
  | output (bin : Nat)

/-- Whether the samples of a call, if it has any, are as many as there are
variables. -/
def PanelCall.Fits (known : Nat) : PanelCall α → Prop
  | .observe _ _ samples => samples.length = known
  | _ => True

namespace Workspace

/-- No bin yet, and empty storages. -/
def empty : Workspace α :=
  ⟨fun _ => .empty 0, fun _ => none, fun _ => none, fun _ => none⟩

/-- Put back a storage and a bin of a pass. -/
def putPass (w : Workspace α) (storage bin : Nat)
    (made : Scratch α × PassBin α) : Workspace α :=
  { w with
    storages := Function.update w.storages storage made.1
    passBins := Function.update w.passBins bin (some made.2) }

/-- Put back a storage and a bin of a run. -/
def putRun (w : Workspace α) (storage bin : Nat)
    (made : Scratch α × RunBin α) : Workspace α :=
  { w with
    storages := Function.update w.storages storage made.1
    runBins := Function.update w.runBins bin (some made.2) }

end Workspace

namespace Panel

variable [Scalar α]

/-- One call on a workspace. A call on a bin that was not made does
nothing. -/
def call (p : Panel α) (w : Workspace α) :
    PanelCall α → Except Error (Workspace α)
  | .openStorage storage bin =>
    .ok { w with
      storages := Function.update w.storages storage (.empty bin) }
  | .createPassBin storage bin => do
    return w.putPass storage bin
      (← p.createPassBin (w.storages storage))
  | .observe storage bin samples =>
    match w.passBins bin with
    | none => .ok w
    | some pass => do
      return w.putPass storage bin
        (← p.observe samples (w.storages storage) pass)
  | .completePassBin storage bin =>
    match w.passBins bin with
    | none => .ok w
    | some pass => do
      return w.putPass storage bin
        (← p.completePassBin (w.storages storage) pass)
  | .createRunBin storage bin => do
    return w.putRun storage bin (← p.createRunBin (w.storages storage))
  | .addPass storage pass bin =>
    match w.passBins pass, w.runBins bin with
    | some pass, some run => do
      return w.putRun storage bin
        (← p.addPass pass (w.storages storage) run)
    | _, _ => .ok w
  | .completeRunBin storage bin =>
    match w.runBins bin with
    | none => .ok w
    | some run => do
      return w.putRun storage bin
        (← p.completeRunBin (w.storages storage) run)
  | .output bin =>
    match w.runBins bin with
    | none => .ok w
    | some run => do
      let out ← p.output run
      return { w with outputs := Function.update w.outputs bin (some out) }

/-- One call after the other. -/
def calls (p : Panel α) (w : Workspace α) (cs : List (PanelCall α)) :
    Except Error (Workspace α) :=
  cs.foldlM p.call w

end Panel

-- ======================================================== bins and parts

/-- A bin of a pass with the part of one statistic. -/
def PassBin.part (before : List (Statistic α)) (x : Statistic α)
    (bin : PassBin α) : PassBin α :=
  { bin with features := partAt .spatial before x bin.features }

/-- A bin of a run with the part of one statistic. -/
def RunBin.part (before : List (Statistic α)) (x : Statistic α)
    (bin : RunBin α) : RunBin α :=
  { bin with features := partAt .temporal before x bin.features }

/-- An output bin with the part of one statistic. -/
def OutputBin.part (before : List (Statistic α)) (x : Statistic α)
    (bin : OutputBin α) : OutputBin α :=
  { bin with features := partAt .output before x bin.features }

/-- Storages of one bin that agree under the names of a statistic. -/
def Scratch.Alike (x : Statistic α) (s t : Scratch α) : Prop :=
  s.AgreeOn x.storageNames t ∧ s.bin = t.bin

/-- The statistics of a panel around one of them, and a panel of that one
alone. -/
structure Among (panel alone : Panel α) (before : List (Statistic α))
    (x : Statistic α) (after : List (Statistic α)) : Prop where
  whole : panel.statistics = before ++ x :: after
  single : alone.statistics = [x]

namespace Among

variable [Scalar α] [LawfulIndex α] {panel alone : Panel α}
  {before after : List (Statistic α)} {x : Statistic α}
  (h : Among panel alone before x after)
include h

omit [Scalar α] [LawfulIndex α] in
theorem totalWidth_eq (role : Role) : panel.totalWidth role
    = (Panel.namesOf role (before ++ x :: after)).length := by
  rw [Panel.totalWidth, h.whole]

omit [LawfulIndex α] in
theorem partAt_empty (role : Role) :
    partAt role before x (FeatureVector.empty (panel.totalWidth role))
      = FeatureVector.empty (alone.totalWidth role) := by
  rw [h.totalWidth_eq, length_namesOf_append, length_namesOf_cons,
    Panel.totalWidth, h.single, partAt, slice, FeatureVector.empty,
    FeatureVector.empty, List.drop_replicate, List.take_replicate,
    length_namesOf_cons]
  congr 1
  show _ = Panel.width role x + 0
  omega

omit [Scalar α] [LawfulIndex α] in
/-- A step with every statistic of the panel and with the one alone. -/
theorem stepEach {role : Role} {step : Statistic α → Phase α}
    (confined : ∀ y ∈ panel.statistics,
      Phase.Confined y.storageNames (Panel.width role y) (step y))
    {s t : Scratch α} {v : FeatureVector α}
    (hv : v.length = panel.totalWidth role) (agree : s.Alike x t) :
    ∃ s' t' v', Panel.stepEach role step panel.statistics s v = .ok (s', v')
      ∧ Panel.stepEach role step alone.statistics t (partAt role before x v)
        = .ok (t', partAt role before x v')
      ∧ v'.length = panel.totalWidth role ∧ s'.Alike x t' := by
  have apart := panel.storageNames_apart h.whole
  rw [h.totalWidth_eq] at hv ⊢
  rw [h.whole] at confined ⊢
  rw [h.single]
  obtain ⟨s', t', v', hs, ht, hv', agree', bin, bin'⟩ :=
    stepEach_alone confined apart hv agree.1
  exact ⟨s', t', v', hs, ht, hv'.trans hv, agree',
    bin.trans (agree.2.trans bin'.symm)⟩

-- =============================================== one call on both sides

-- The calls of a bin in the order in which it goes through them, each made
-- with the panel on a bin and with the statistic alone on its part of it.

theorem createPassBin {s t : Scratch α} (agree : s.Alike x t) :
    ∃ s' t' bin, panel.createPassBin s = .ok (s', bin)
      ∧ alone.createPassBin t = .ok (t', bin.part before x)
      ∧ bin.features.length = panel.totalWidth .spatial ∧ s'.Alike x t' := by
  have confined : ∀ y ∈ panel.statistics, Phase.Confined y.storageNames
      (Panel.width .spatial y) y.phases.initSpatial :=
    fun y _ => y.confined.initSpatial
  obtain ⟨s', t', v', hs, ht, hv', agree'⟩ :=
    h.stepEach confined List.length_replicate agree
  rw [← FeatureVector.empty, h.partAt_empty] at ht
  refine ⟨s', t', ⟨s'.bin, 0, v'⟩, ?_, ?_, hv', agree'⟩
  · exact bind_eq_ok.mpr ⟨_, hs, rfl⟩
  · refine bind_eq_ok.mpr ⟨_, ht, ?_⟩
    rw [PassBin.part, agree'.2]
    rfl

theorem observe {samples : List α}
    (enough : ∀ y ∈ panel.statistics, ∀ slot ∈ y.slots,
      slot < samples.length)
    {s t : Scratch α} {bin : PassBin α}
    (hbin : bin.features.length = panel.totalWidth .spatial)
    (agree : s.Alike x t) :
    ∃ s' t' bin', panel.observe samples s bin = .ok (s', bin')
      ∧ alone.observe samples t (bin.part before x)
        = .ok (t', bin'.part before x)
      ∧ bin'.features.length = panel.totalWidth .spatial
      ∧ s'.Alike x t' := by
  have confined : ∀ y ∈ panel.statistics, Phase.Confined y.storageNames
      (Panel.width .spatial y) (y.phases.observe samples) :=
    fun y hy => y.confined.observe (enough y hy)
  obtain ⟨s', t', v', hs, ht, hv', agree'⟩ := h.stepEach confined hbin agree
  refine ⟨s', t', { bin with
    numObs := bin.numObs + 1
    features := v' }, ?_, ?_, hv', agree'⟩
  · exact bind_eq_ok.mpr ⟨_, hs, rfl⟩
  · exact bind_eq_ok.mpr ⟨_, ht, rfl⟩

theorem completePassBin {s t : Scratch α} {bin : PassBin α}
    (hbin : bin.features.length = panel.totalWidth .spatial)
    (agree : s.Alike x t) :
    ∃ s' t' bin', panel.completePassBin s bin = .ok (s', bin')
      ∧ alone.completePassBin t (bin.part before x)
        = .ok (t', bin'.part before x)
      ∧ bin'.features.length = panel.totalWidth .spatial
      ∧ s'.Alike x t' := by
  have confined : ∀ y ∈ panel.statistics, Phase.Confined y.storageNames
      (Panel.width .spatial y) (y.phases.completeSpatial bin.numObs) :=
    fun y _ => y.confined.completeSpatial bin.numObs
  obtain ⟨s', t', v', hs, ht, hv', agree'⟩ := h.stepEach confined hbin agree
  refine ⟨s', t', { bin with features := v' }, ?_, ?_, hv', agree'⟩
  · exact bind_eq_ok.mpr ⟨_, hs, rfl⟩
  · exact bind_eq_ok.mpr ⟨_, ht, rfl⟩

theorem createRunBin {s t : Scratch α} (agree : s.Alike x t) :
    ∃ s' t' bin, panel.createRunBin s = .ok (s', bin)
      ∧ alone.createRunBin t = .ok (t', bin.part before x)
      ∧ bin.features.length = panel.totalWidth .temporal
      ∧ s'.Alike x t' := by
  have confined : ∀ y ∈ panel.statistics, Phase.Confined y.storageNames
      (Panel.width .temporal y) y.phases.initTemporal :=
    fun y _ => y.confined.initTemporal
  obtain ⟨s', t', v', hs, ht, hv', agree'⟩ :=
    h.stepEach confined List.length_replicate agree
  rw [← FeatureVector.empty, h.partAt_empty] at ht
  refine ⟨s', t', ⟨s'.bin, 0, 0, v'⟩, ?_, ?_, hv', agree'⟩
  · exact bind_eq_ok.mpr ⟨_, hs, rfl⟩
  · refine bind_eq_ok.mpr ⟨_, ht, ?_⟩
    rw [RunBin.part, agree'.2]
    rfl

theorem addPass {s t : Scratch α} {pass : PassBin α} {bin : RunBin α}
    (hpass : pass.features.length = panel.totalWidth .spatial)
    (hbin : bin.features.length = panel.totalWidth .temporal)
    (agree : s.Alike x t) :
    ∃ s' t' bin', panel.addPass pass s bin = .ok (s', bin')
      ∧ alone.addPass (pass.part before x) t (bin.part before x)
        = .ok (t', bin'.part before x)
      ∧ bin'.features.length = panel.totalWidth .temporal
      ∧ s'.Alike x t' := by
  have apart := panel.storageNames_apart h.whole
  rw [h.totalWidth_eq] at hpass hbin
  obtain ⟨s', t', v', hs, ht, hv', agree', b, b'⟩ :=
    mergeEach_alone apart pass.numObs hpass hbin agree.1
  rw [← h.whole] at hs
  rw [← h.single] at ht
  refine ⟨s', t', { bin with
    numObs := bin.numObs + pass.numObs
    numPasses := bin.numPasses + 1
    features := v' }, ?_, ?_, ?_, agree', b.trans (agree.2.trans b'.symm)⟩
  · exact bind_eq_ok.mpr ⟨_, hs, rfl⟩
  · exact bind_eq_ok.mpr ⟨_, ht, rfl⟩
  · rw [h.totalWidth_eq]
    exact hv'.trans hbin

theorem completeRunBin {s t : Scratch α} {bin : RunBin α}
    (hbin : bin.features.length = panel.totalWidth .temporal)
    (agree : s.Alike x t) :
    ∃ s' t' bin', panel.completeRunBin s bin = .ok (s', bin')
      ∧ alone.completeRunBin t (bin.part before x)
        = .ok (t', bin'.part before x)
      ∧ bin'.features.length = panel.totalWidth .temporal
      ∧ s'.Alike x t' := by
  have confined : ∀ y ∈ panel.statistics, Phase.Confined y.storageNames
      (Panel.width .temporal y) (y.phases.completeTemporal bin.numObs) :=
    fun y _ => y.confined.completeTemporal bin.numObs
  obtain ⟨s', t', v', hs, ht, hv', agree'⟩ := h.stepEach confined hbin agree
  refine ⟨s', t', { bin with features := v' }, ?_, ?_, hv', agree'⟩
  · exact bind_eq_ok.mpr ⟨_, hs, rfl⟩
  · exact bind_eq_ok.mpr ⟨_, ht, rfl⟩

theorem output {bin : RunBin α}
    (hbin : bin.features.length = panel.totalWidth .temporal) :
    ∃ out, panel.output bin = .ok out
      ∧ alone.output (bin.part before x) = .ok (out.part before x) := by
  rw [h.totalWidth_eq] at hbin
  obtain ⟨out, hout, halone⟩ := outputEach_alone hbin
  rw [← h.whole] at hout
  rw [← h.single] at halone
  refine ⟨⟨bin.index, bin.numObs, bin.numPasses, out⟩, ?_, ?_⟩
  · exact bind_eq_ok.mpr ⟨_, hout, rfl⟩
  · exact bind_eq_ok.mpr ⟨_, halone, rfl⟩

end Among

-- ======================================================= the two runs

namespace Workspace

/-- The second workspace is what the first is for one statistic. -/
structure Alike (before : List (Statistic α)) (x : Statistic α)
    (w w' : Workspace α) : Prop where
  storages : ∀ i, (w.storages i).Alike x (w'.storages i)
  passBins : ∀ i, w'.passBins i = (w.passBins i).map (·.part before x)
  runBins : ∀ i, w'.runBins i = (w.runBins i).map (·.part before x)
  outputs : ∀ i, w'.outputs i = (w.outputs i).map (·.part before x)

/-- The vectors of all bins have the width of the panel. -/
structure Wide (panel : Panel α) (w : Workspace α) : Prop where
  passBins : ∀ i bin, w.passBins i = some bin →
    bin.features.length = panel.totalWidth .spatial
  runBins : ∀ i bin, w.runBins i = some bin →
    bin.features.length = panel.totalWidth .temporal

variable {before : List (Statistic α)} {x : Statistic α} {panel : Panel α}
  {w w' : Workspace α} {s t : Scratch α}

/-- Entries that were replaced by images are images again. -/
theorem update_eq_map {β γ : Type} {f : β → γ} {bins : Nat → Option β}
    {bins' : Nat → Option γ} (h : ∀ i, bins' i = (bins i).map f) (j : Nat)
    (b : β) (i : Nat) :
    Function.update bins' j (some (f b)) i
      = (Function.update bins j (some b) i).map f := by
  by_cases hi : i = j
  · subst hi
    rw [Function.update_self, Function.update_self]
    rfl
  · rw [Function.update_of_ne hi, Function.update_of_ne hi, h i]

theorem update_alike (h : ∀ i, (w.storages i).Alike x (w'.storages i))
    (hst : s.Alike x t) (j i : Nat) :
    (Function.update w.storages j s i).Alike x
      (Function.update w'.storages j t i) := by
  by_cases hi : i = j
  · subst hi
    rw [Function.update_self, Function.update_self]
    exact hst
  · rw [Function.update_of_ne hi, Function.update_of_ne hi]
    exact h i

/-- Entries of which one was replaced have a property that they had and
that the new one has. -/
theorem update_forall {β : Type} {good : β → Prop} {bins : Nat → Option β}
    (h : ∀ i b, bins i = some b → good b) {j : Nat} {b : β} (hb : good b)
    (i : Nat) (c : β) (hc : Function.update bins j (some b) i = some c) :
    good c := by
  by_cases hi : i = j
  · subst hi
    rw [Function.update_self] at hc
    cases hc
    exact hb
  · rw [Function.update_of_ne hi] at hc
    exact h i c hc

/-- Bins of passes are put back alike. -/
theorem Alike.putPass (h : Alike before x w w') (hst : s.Alike x t)
    (i j : Nat) (bin : PassBin α) :
    Alike before x (w.putPass i j (s, bin))
      (w'.putPass i j (t, bin.part before x)) where
  storages := update_alike h.storages hst i
  passBins := update_eq_map h.passBins j bin
  runBins := h.runBins
  outputs := h.outputs

theorem Alike.putRun (h : Alike before x w w') (hst : s.Alike x t)
    (i j : Nat) (bin : RunBin α) :
    Alike before x (w.putRun i j (s, bin))
      (w'.putRun i j (t, bin.part before x)) where
  storages := update_alike h.storages hst i
  passBins := h.passBins
  runBins := update_eq_map h.runBins j bin
  outputs := h.outputs

/-- A bin of a pass that is as wide as the panel is put back. -/
theorem Wide.putPass (h : Wide panel w) {bin : PassBin α}
    (hbin : bin.features.length = panel.totalWidth .spatial) (i j : Nat)
    (s : Scratch α) : Wide panel (w.putPass i j (s, bin)) where
  passBins := update_forall h.passBins hbin
  runBins := h.runBins

theorem Wide.putRun (h : Wide panel w) {bin : RunBin α}
    (hbin : bin.features.length = panel.totalWidth .temporal) (i j : Nat)
    (s : Scratch α) : Wide panel (w.putRun i j (s, bin)) where
  passBins := h.passBins
  runBins := update_forall h.runBins hbin

end Workspace

namespace Among

variable [Scalar α] [LawfulIndex α] {panel alone : Panel α}
  {before after : List (Statistic α)} {x : Statistic α}
  (h : Among panel alone before x after)
include h

/-- Every call succeeds for the panel and for the statistic alone, and
leaves alike workspaces alike. -/
theorem call_alike {known : Nat}
    (slots : ∀ y ∈ panel.statistics, ∀ slot ∈ y.slots, slot < known)
    {w w' : Workspace α} (alike : w.Alike before x w')
    (wide : w.Wide panel) (c : PanelCall α) (fits : c.Fits known) :
    ∃ v v', panel.call w c = .ok v ∧ alone.call w' c = .ok v'
      ∧ v.Alike before x v' ∧ v.Wide panel := by
  cases c with
  | openStorage i k =>
      refine ⟨_, _, rfl, rfl, ⟨?_, alike.passBins, alike.runBins,
        alike.outputs⟩, wide.passBins, wide.runBins⟩
      exact Workspace.update_alike alike.storages
        ⟨Scratch.AgreeOn.refl _ _, rfl⟩ i
  | createPassBin i j =>
      obtain ⟨s, t, bin, hs, ht, hbin, agree⟩ :=
        h.createPassBin (alike.storages i)
      exact ⟨_, _, bind_eq_ok.mpr ⟨_, hs, rfl⟩, bind_eq_ok.mpr ⟨_, ht, rfl⟩,
        alike.putPass agree i j bin, wide.putPass hbin i j s⟩
  | observe i j samples =>
      have enough : ∀ y ∈ panel.statistics, ∀ slot ∈ y.slots,
          slot < samples.length := by
        have fits : samples.length = known := fits
        rw [fits]
        exact slots
      -- a bin that was not made is missing in both workspaces
      have hw' := alike.passBins j
      simp only [Panel.call, hw']
      cases hw : w.passBins j with
      | none => exact ⟨w, w', rfl, rfl, alike, wide⟩
      | some bin =>
          obtain ⟨s, t, bin', hs, ht, hbin, agree⟩ :=
            h.observe enough (wide.passBins j bin hw) (alike.storages i)
          exact ⟨_, _, bind_eq_ok.mpr ⟨_, hs, rfl⟩,
            bind_eq_ok.mpr ⟨_, ht, rfl⟩, alike.putPass agree i j bin',
            wide.putPass hbin i j s⟩
  | completePassBin i j =>
      have hw' := alike.passBins j
      simp only [Panel.call, hw']
      cases hw : w.passBins j with
      | none => exact ⟨w, w', rfl, rfl, alike, wide⟩
      | some bin =>
          obtain ⟨s, t, bin', hs, ht, hbin, agree⟩ :=
            h.completePassBin (wide.passBins j bin hw) (alike.storages i)
          exact ⟨_, _, bind_eq_ok.mpr ⟨_, hs, rfl⟩,
            bind_eq_ok.mpr ⟨_, ht, rfl⟩, alike.putPass agree i j bin',
            wide.putPass hbin i j s⟩
  | createRunBin i j =>
      obtain ⟨s, t, bin, hs, ht, hbin, agree⟩ :=
        h.createRunBin (alike.storages i)
      exact ⟨_, _, bind_eq_ok.mpr ⟨_, hs, rfl⟩, bind_eq_ok.mpr ⟨_, ht, rfl⟩,
        alike.putRun agree i j bin, wide.putRun hbin i j s⟩
  | addPass i k j =>
      have hk' := alike.passBins k
      have hw' := alike.runBins j
      simp only [Panel.call, hk', hw']
      cases hk : w.passBins k with
      | none => exact ⟨w, w', rfl, rfl, alike, wide⟩
      | some pass =>
          cases hw : w.runBins j with
          | none => exact ⟨w, w', rfl, rfl, alike, wide⟩
          | some bin =>
              obtain ⟨s, t, bin', hs, ht, hbin, agree⟩ :=
                h.addPass (wide.passBins k pass hk) (wide.runBins j bin hw)
                  (alike.storages i)
              exact ⟨_, _, bind_eq_ok.mpr ⟨_, hs, rfl⟩,
                bind_eq_ok.mpr ⟨_, ht, rfl⟩, alike.putRun agree i j bin',
                wide.putRun hbin i j s⟩
  | completeRunBin i j =>
      have hw' := alike.runBins j
      simp only [Panel.call, hw']
      cases hw : w.runBins j with
      | none => exact ⟨w, w', rfl, rfl, alike, wide⟩
      | some bin =>
          obtain ⟨s, t, bin', hs, ht, hbin, agree⟩ :=
            h.completeRunBin (wide.runBins j bin hw) (alike.storages i)
          exact ⟨_, _, bind_eq_ok.mpr ⟨_, hs, rfl⟩,
            bind_eq_ok.mpr ⟨_, ht, rfl⟩, alike.putRun agree i j bin',
            wide.putRun hbin i j s⟩
  | output j =>
      have hw' := alike.runBins j
      simp only [Panel.call, hw']
      cases hw : w.runBins j with
      | none => exact ⟨w, w', rfl, rfl, alike, wide⟩
      | some bin =>
          obtain ⟨out, hout, halone⟩ := h.output (wide.runBins j bin hw)
          exact ⟨_, _, bind_eq_ok.mpr ⟨_, hout, rfl⟩,
            bind_eq_ok.mpr ⟨_, halone, rfl⟩,
            ⟨alike.storages, alike.passBins, alike.runBins,
              Workspace.update_eq_map alike.outputs j out⟩,
            wide.passBins, wide.runBins⟩

/-- So do all calls, in any order. -/
theorem calls_alike {known : Nat}
    (slots : ∀ y ∈ panel.statistics, ∀ slot ∈ y.slots, slot < known)
    {w w' : Workspace α} (alike : w.Alike before x w')
    (wide : w.Wide panel) {cs : List (PanelCall α)}
    (fits : ∀ c ∈ cs, c.Fits known) :
    ∃ v v', panel.calls w cs = .ok v ∧ alone.calls w' cs = .ok v'
      ∧ v.Alike before x v' := by
  -- along the calls: both relations hold again after each of them
  induction cs generalizing w w' with
  | nil => exact ⟨w, w', rfl, rfl, alike⟩
  | cons c cs ih =>
      obtain ⟨v, v', hv, hv', alike', wide'⟩ :=
        h.call_alike slots alike wide c (fits c List.mem_cons_self)
      obtain ⟨u, u', hu, hu', final⟩ :=
        ih alike' wide' fun d hd => fits d (List.mem_cons_of_mem _ hd)
      refine ⟨u, u', ?_, ?_, final⟩
      · exact bind_eq_ok.mpr ⟨v, hv, hu⟩
      · exact bind_eq_ok.mpr ⟨v', hv', hu'⟩

end Among

end EarthBins
