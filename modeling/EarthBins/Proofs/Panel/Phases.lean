/-
What the phases of a panel do to a bin.

Each phase of a panel is a row of confined parts, so on vectors of the
panel's widths it succeeds, keeps the width and stays in the bin. The
lemmas below say this of the calls a bin goes through; the counts of
observations and passes are kept by the panel itself. The one call that can
fail is given a vector from outside: a pass that is too short for the
panel.
-/
import EarthBins.Binning.Run
import EarthBins.Proofs.Panel.Parts

namespace EarthBins

open Outcome

variable {α : Type}

-- =============================================================== as rows

/-- The steps of some statistics as the parts of a row. -/
def partsOf (role : Role) (step : Statistic α → Phase α)
    (statistics : List (Statistic α)) : List (Part α) :=
  statistics.map fun x => ⟨x.storageNames, Panel.width role x, step x⟩

theorem totalWidth_partsOf (role : Role) (step : Statistic α → Phase α)
    (statistics : List (Statistic α)) :
    totalWidth (partsOf role step statistics)
      = (Panel.namesOf role statistics).length := by
  rw [totalWidth, partsOf, List.map_map, Panel.namesOf, List.length_flatMap]
  rfl

/-- A step with every statistic runs the row of their steps. -/
theorem stepEach_eq_runParts (role : Role) (step : Statistic α → Phase α)
    (statistics : List (Statistic α)) :
    Panel.stepEach role step statistics
      = runParts (partsOf role step statistics) := by
  induction statistics with
  | nil => rfl
  | cons x rest ih =>
      funext s v
      rw [Panel.stepEach, ih]
      rfl

theorem partsOf_confined {role : Role} {step : Statistic α → Phase α}
    {statistics : List (Statistic α)}
    (h : ∀ x ∈ statistics,
      Phase.Confined x.storageNames (Panel.width role x) (step x)) :
    ∀ p ∈ partsOf role step statistics, p.Confined := by
  intro p hp
  obtain ⟨x, hx, rfl⟩ := List.mem_map.mp hp
  exact h x hx

/-- Confined steps with every statistic succeed, keep the width and stay in
the bin. -/
theorem stepEach_isOk {role : Role} {step : Statistic α → Phase α}
    {statistics : List (Statistic α)}
    (h : ∀ x ∈ statistics,
      Phase.Confined x.storageNames (Panel.width role x) (step x))
    (s : Scratch α) {v : FeatureVector α}
    (hv : v.length = (Panel.namesOf role statistics).length) :
    ∃ s' v', Panel.stepEach role step statistics s v = .ok (s', v')
      ∧ v'.length = (Panel.namesOf role statistics).length
      ∧ s'.bin = s.bin := by
  rw [← totalWidth_partsOf role step] at hv ⊢
  obtain ⟨s', -, v', hs', -, hv', -, changed, -⟩ :=
    runParts_confined (partsOf_confined h) hv (Scratch.AgreeOn.refl _ s)
  exact ⟨s', v', by rw [stepEach_eq_runParts, hs'], hv', changed.1⟩

theorem length_namesOf_cons (role : Role) (x : Statistic α)
    (rest : List (Statistic α)) :
    (Panel.namesOf role (x :: rest)).length
      = Panel.width role x + (Panel.namesOf role rest).length :=
  List.length_append

variable [Scalar α]

/-- The temporal steps of some statistics on a pass, as the parts of a
row. -/
def mergeParts (numObs : Nat) :
    List (Statistic α) → FeatureVector α → List (Part α)
  | [], _ => []
  | x :: rest, pass =>
    ⟨x.storageNames, Panel.width .temporal x,
      x.phases.addPass (pass.take (Panel.width .spatial x)) numObs⟩
      :: mergeParts numObs rest (pass.drop (Panel.width .spatial x))

theorem totalWidth_mergeParts (numObs : Nat)
    (statistics : List (Statistic α)) (pass : FeatureVector α) :
    totalWidth (mergeParts numObs statistics pass)
      = (Panel.namesOf .temporal statistics).length := by
  induction statistics generalizing pass with
  | nil => rfl
  | cons x rest ih =>
      show Panel.width .temporal x + totalWidth (mergeParts numObs rest _) = _
      rw [ih]
      rw [length_namesOf_cons]

/-- Adding a pass that is long enough runs the row of the temporal
steps. -/
theorem mergeEach_eq_runParts {numObs : Nat}
    {statistics : List (Statistic α)} {pass : FeatureVector α}
    (enough : (Panel.namesOf .spatial statistics).length ≤ pass.length) :
    Panel.mergeEach numObs statistics pass
      = runParts (mergeParts numObs statistics pass) := by
  induction statistics generalizing pass with
  | nil => rfl
  | cons x rest ih =>
      rw [length_namesOf_cons] at enough
      have behind : (Panel.namesOf .spatial rest).length
          ≤ (pass.drop (Panel.width .spatial x)).length := by
        rw [List.length_drop]
        omega
      funext s v
      -- the pass has the part of `x`, so it can be split
      rw [Panel.mergeEach, Panel.splitPart, if_neg (by omega), ok_bind]
      simp only [ih behind]
      rfl

variable [LawfulIndex α]

theorem mergeParts_confined {numObs : Nat} {statistics : List (Statistic α)}
    {pass : FeatureVector α}
    (enough : (Panel.namesOf .spatial statistics).length ≤ pass.length) :
    ∀ p ∈ mergeParts numObs statistics pass, p.Confined := by
  induction statistics generalizing pass with
  | nil =>
      intro p hp
      cases hp
  | cons x rest ih =>
      rw [length_namesOf_cons] at enough
      intro p hp
      rcases List.mem_cons.mp hp with rfl | hp
      · refine x.confined.addPass numObs ?_
        rw [List.length_take]
        exact Nat.min_eq_left (by omega)
      · exact ih (by rw [List.length_drop]; omega) p hp

/-- A pass that is too short for the panel is an access out of bounds. -/
theorem mergeEach_short {numObs : Nat} {statistics : List (Statistic α)}
    {pass : FeatureVector α}
    (short : pass.length < (Panel.namesOf .spatial statistics).length)
    (s : Scratch α) {v : FeatureVector α}
    (hv : v.length = (Panel.namesOf .temporal statistics).length) :
    Panel.mergeEach numObs statistics pass s v = .error .outOfBounds := by
  induction statistics generalizing pass s v with
  | nil => cases short
  | cons x rest ih =>
      rw [length_namesOf_cons] at short hv
      by_cases fits : pass.length < Panel.width .spatial x
      · rw [Panel.mergeEach, Panel.splitPart, if_pos fits, error_bind]
      -- the first statistic has its part, and one behind it has not
      obtain ⟨hsplit, htake, hdrop⟩ := splitPart_of_length hv
      have part : (pass.take (Panel.width .spatial x)).length
          = Panel.width .spatial x := by
        rw [List.length_take]
        omega
      obtain ⟨s₁, -, v₁, hs₁, -, -⟩ :=
        x.confined.addPass numObs part htake (Scratch.AgreeOn.refl _ s)
      have behind : (pass.drop (Panel.width .spatial x)).length
          < (Panel.namesOf .spatial rest).length := by
        rw [List.length_drop]
        omega
      rw [Panel.mergeEach, Panel.splitPart, if_neg fits, ok_bind]
      simp only [hsplit, ok_bind, hs₁, ih behind s₁ hdrop, error_bind]

/-- The outputs of some statistics, from a vector of their width. -/
theorem outputEach_isOk {statistics : List (Statistic α)}
    {v : FeatureVector α}
    (hv : v.length = (Panel.namesOf .temporal statistics).length) :
    ∃ out, Panel.outputEach statistics v = .ok out
      ∧ out.length = (Panel.namesOf .output statistics).length := by
  induction statistics generalizing v with
  | nil => exact ⟨[], rfl, rfl⟩
  | cons x rest ih =>
      rw [length_namesOf_cons] at hv
      obtain ⟨hsplit, htake, hdrop⟩ := splitPart_of_length hv
      obtain ⟨part, hpart, hlen⟩ := x.confined.output htake
      obtain ⟨others, hothers, hlen'⟩ := ih hdrop
      refine ⟨part ++ others, ?_, ?_⟩
      · rw [Panel.outputEach, hsplit, ok_bind]
        simp only [hpart, ok_bind, hothers]
        rfl
      · rw [length_namesOf_cons, List.length_append, hlen, hlen']
        rfl

-- ================================================================= bins

namespace Panel

omit [Scalar α] [LawfulIndex α] in
/-- Width of the vectors of a role. -/
def totalWidth (p : Panel α) (role : Role) : Nat :=
  (namesOf role p.statistics).length

/-- A new bin of a pass. -/
theorem createPassBin_isOk (p : Panel α) (s : Scratch α) :
    ∃ s' v, p.createPassBin s = .ok (s', ⟨s.bin, 0, v⟩)
      ∧ v.length = p.totalWidth .spatial ∧ s'.bin = s.bin := by
  have confined : ∀ x ∈ p.statistics, Phase.Confined x.storageNames
      (width .spatial x) x.phases.initSpatial :=
    fun x _ => x.confined.initSpatial
  obtain ⟨s', v, hs', hv, hbin⟩ :=
    stepEach_isOk confined s
      (v := FeatureVector.empty (namesOf .spatial p.statistics).length)
      List.length_replicate
  refine ⟨s', v, ?_, hv, hbin⟩
  simp only [createPassBin, hs', ok_bind, hbin]
  rfl

/-- A new bin of a run. -/
theorem createRunBin_isOk (p : Panel α) (s : Scratch α) :
    ∃ s' v, p.createRunBin s = .ok (s', ⟨s.bin, 0, 0, v⟩)
      ∧ v.length = p.totalWidth .temporal ∧ s'.bin = s.bin := by
  have confined : ∀ x ∈ p.statistics, Phase.Confined x.storageNames
      (width .temporal x) x.phases.initTemporal :=
    fun x _ => x.confined.initTemporal
  obtain ⟨s', v, hs', hv, hbin⟩ :=
    stepEach_isOk confined s
      (v := FeatureVector.empty (namesOf .temporal p.statistics).length)
      List.length_replicate
  refine ⟨s', v, ?_, hv, hbin⟩
  simp only [createRunBin, hs', ok_bind, hbin]
  rfl

/-- A pass that is long enough is added to a bin. -/
theorem addPass_isOk {p : Panel α} {pass : PassBin α}
    (enough : p.totalWidth .spatial ≤ pass.features.length) (s : Scratch α)
    {bin : RunBin α} (hbin : bin.features.length = p.totalWidth .temporal) :
    ∃ s' v, p.addPass pass s bin = .ok (s', { bin with
        numObs := bin.numObs + pass.numObs
        numPasses := bin.numPasses + 1
        features := v })
      ∧ v.length = p.totalWidth .temporal := by
  have hwidth := totalWidth_mergeParts pass.numObs p.statistics pass.features
  obtain ⟨s', -, v, hs', -, hv, -⟩ :=
    runParts_confined (mergeParts_confined enough)
      (hbin.trans hwidth.symm) (Scratch.AgreeOn.refl _ s)
  refine ⟨s', v, ?_, hv.trans hwidth⟩
  simp only [addPass, mergeEach_eq_runParts enough, hs', ok_bind]
  rfl

theorem addPass_short {p : Panel α} {pass : PassBin α}
    (short : pass.features.length < p.totalWidth .spatial) (s : Scratch α)
    {bin : RunBin α} (hbin : bin.features.length = p.totalWidth .temporal) :
    p.addPass pass s bin = .error .outOfBounds := by
  simp only [addPass, mergeEach_short short s hbin, error_bind]

/-- A bin of a run is completed, and its output computed. -/
theorem finish_isOk {p : Panel α} (s : Scratch α) {bin : RunBin α}
    (hbin : bin.features.length = p.totalWidth .temporal) :
    ∃ out, RunBinner.finishBin p (s, bin) = .ok out := by
  have confined : ∀ x ∈ p.statistics, Phase.Confined x.storageNames
      (width .temporal x) (x.phases.completeTemporal bin.numObs) :=
    fun x _ => x.confined.completeTemporal bin.numObs
  obtain ⟨s', v, hs', hv, -⟩ := stepEach_isOk confined s hbin
  obtain ⟨out, hout, -⟩ := outputEach_isOk hv
  refine ⟨⟨bin.index, bin.numObs, bin.numPasses, out⟩, ?_⟩
  simp only [RunBinner.finishBin, completeRunBin, hs', ok_bind, pure_bind,
    output, hout]
  rfl

end Panel

end EarthBins
