/-
Vectors as wide as their schemas.

The vectors of a run are made as long as their role has names, and from
then on no step changes a length. Nothing has to be known of what is
folded for that: a step that succeeds keeps the width, be the samples and
the completed bins what they may, and one that fails ends the run.

# One step

A confined step keeps its width. The fold of an observation is confined
only where all samples are there; that it keeps the width wherever it
succeeds is a matter of each kind (`Statistic.observe_keeps`). From one
statistic to the panel it is an induction over the row (`stepEach_keeps`),
and from one call to the entries of a pass or a merge the invariant of a
group (`PassBinner.wide_of_addAll`, `RunBinner.wide_of_addAll`).
-/
import EarthBins.Proofs.Binning.Features
import EarthBins.Proofs.Statistic.Reductions

namespace EarthBins

open Outcome

variable {α : Type}

-- ============================================================= one step

/-- A step that leads from vectors of its width to such, where it
succeeds. -/
def Phase.Keeps (width : Nat) (f : Phase α) : Prop :=
  ∀ ⦃s s' : Scratch α⦄ ⦃v v' : FeatureVector α⦄, v.length = width →
    f s v = .ok (s', v') → v'.length = width

theorem Phase.Confined.keeps {names : List String} {width : Nat}
    {f : Phase α} (h : Phase.Confined names width f) : f.Keeps width := by
  intro s s' v v' hv made
  obtain ⟨t, -, w, made', -, hw, -⟩ := h hv (Scratch.AgreeOn.refl names s)
  rw [made] at made'
  cases made'
  exact hw

theorem Phase.eq_ok_of_ofVector
    {f : FeatureVector α → Except Error (FeatureVector α)}
    {s s' : Scratch α} {v v' : FeatureVector α}
    (h : Phase.ofVector f s v = .ok (s', v')) : f v = .ok v' := by
  obtain ⟨w, hw, made⟩ := bind_eq_ok.mp h
  cases made
  exact hw

variable [Scalar α]

namespace OnMax

omit [Scalar α] in
theorem length_record {samples : List α} {indices : List Nat}
    {v w : FeatureVector α} (h : record samples indices v = .ok w) :
    w.length = v.length := by
  induction indices generalizing v w with
  | nil =>
      cases v <;> cases h <;> rfl
  | cons index indices ih =>
      cases v with
      | nil =>
          cases h
          rfl
      | cons slot slots =>
          obtain ⟨x, -, h⟩ := bind_eq_ok.mp h
          obtain ⟨others, recorded, h⟩ := bind_eq_ok.mp h
          cases h
          rw [List.length_cons, List.length_cons, ih recorded]

/-- Recording keeps the length, also where a variable of the payload is not
among the samples but its key does not win. -/
theorem length_observe {m : OnMax} {samples : List α}
    {v w : FeatureVector α} (h : m.observe samples v = .ok w) :
    w.length = v.length := by
  obtain ⟨key, -, h⟩ := bind_eq_ok.mp h
  cases v with
  | nil => cases h
  | cons largest slots =>
      dsimp only at h
      split at h
      · obtain ⟨others, recorded, h⟩ := bind_eq_ok.mp h
        cases h
        rw [List.length_cons, List.length_cons, length_record recorded]
      · cases h
        rfl

end OnMax

section Keeps

variable [LawfulIndex α]

/-- Folding an observation keeps the width of every statistic. -/
theorem Statistic.observe_keeps (x : Statistic α) (samples : List α) :
    (x.phases.observe samples).Keeps x.names.spatial.length := by
  -- a statistic of one variable has found its sample, where it succeeds
  have one {slot : Nat} (hx : x.slots = [slot]) {sample : α}
      (found : FeatureVector.value samples slot = .ok sample) :
      (x.phases.observe samples).Keeps x.names.spatial.length := by
    refine (x.confined.observe fun other hother => ?_).keeps
    rw [hx, List.mem_singleton] at hother
    rw [hother]
    exact (List.getElem?_eq_some_iff.mp
      (FeatureVector.value_eq_ok_iff.mp found)).1
  intro s s' v v' hv made
  cases x with
  | logNormal a =>
      obtain ⟨_, found, -⟩ := bind_eq_ok.mp (Phase.eq_ok_of_ofVector made)
      exact one rfl found hv made
  | onMax m =>
      exact (OnMax.length_observe (Phase.eq_ok_of_ofVector made)).trans hv
  | average a =>
      obtain ⟨_, found, -⟩ := bind_eq_ok.mp (Phase.eq_ok_of_ofVector made)
      exact one rfl found hv made
  | extrema e =>
      obtain ⟨_, found, -⟩ := bind_eq_ok.mp (Phase.eq_ok_of_ofVector made)
      exact one rfl found hv made
  | percentile p =>
      obtain ⟨_, found, -⟩ := bind_eq_ok.mp made
      exact one rfl found hv made

omit [Scalar α] [LawfulIndex α] in
/-- Steps that keep their widths, one for every statistic, keep the width
of the panel. -/
theorem stepEach_keeps {role : Role} {step : Statistic α → Phase α}
    {statistics : List (Statistic α)}
    (h : ∀ x ∈ statistics, (step x).Keeps (Panel.width role x)) :
    (Panel.stepEach role step statistics).Keeps
      (Panel.namesOf role statistics).length := by
  induction statistics with
  | nil =>
      intro s s' v v' hv made
      cases made
      exact hv
  | cons x rest ih =>
      intro s s' v v' hv made
      rw [length_namesOf_cons] at hv ⊢
      obtain ⟨hsplit, htake, hdrop⟩ := splitPart_of_length hv
      rw [Panel.stepEach, hsplit, ok_bind] at made
      obtain ⟨⟨s₁, part⟩, hpart, made⟩ := bind_eq_ok.mp made
      obtain ⟨⟨s₂, others⟩, hothers, made⟩ := bind_eq_ok.mp made
      cases made
      rw [List.length_append, h x List.mem_cons_self htake hpart,
        ih (fun y hy => h y (List.mem_cons_of_mem _ hy)) hdrop hothers]

end Keeps

-- ============================================================= one call

namespace Panel

variable [LawfulIndex α] {p : Panel α} {s s' : Scratch α}

theorem length_createPassBin {bin : PassBin α}
    (h : p.createPassBin s = .ok (s', bin)) :
    bin.features.length = p.totalWidth .spatial := by
  obtain ⟨t, v, made, width, -⟩ := p.createPassBin_isOk s
  rw [h] at made
  cases made
  exact width

theorem length_observe {samples : List α} {bin bin' : PassBin α}
    (hbin : bin.features.length = p.totalWidth .spatial)
    (h : p.observe samples s bin = .ok (s', bin')) :
    bin'.features.length = p.totalWidth .spatial := by
  have keeps : ∀ x ∈ p.statistics,
      (x.phases.observe samples).Keeps (width .spatial x) :=
    fun x _ => x.observe_keeps samples
  obtain ⟨⟨t, v⟩, stepped, h⟩ := bind_eq_ok.mp h
  cases h
  exact stepEach_keeps keeps hbin stepped

theorem length_completePassBin {bin bin' : PassBin α}
    (hbin : bin.features.length = p.totalWidth .spatial)
    (h : p.completePassBin s bin = .ok (s', bin')) :
    bin'.features.length = p.totalWidth .spatial := by
  have keeps : ∀ x ∈ p.statistics,
      (x.phases.completeSpatial bin.numObs).Keeps (width .spatial x) :=
    fun x _ => (x.confined.completeSpatial bin.numObs).keeps
  obtain ⟨⟨t, v⟩, stepped, h⟩ := bind_eq_ok.mp h
  cases h
  exact stepEach_keeps keeps hbin stepped

theorem length_createRunBin {bin : RunBin α}
    (h : p.createRunBin s = .ok (s', bin)) :
    bin.features.length = p.totalWidth .temporal := by
  obtain ⟨t, v, made, width, -⟩ := p.createRunBin_isOk s
  rw [h] at made
  cases made
  exact width

/-- A pass that is too short is refused, so one that was added was not. -/
theorem length_addPass {pass : PassBin α} {bin bin' : RunBin α}
    (hbin : bin.features.length = p.totalWidth .temporal)
    (h : p.addPass pass s bin = .ok (s', bin')) :
    bin'.features.length = p.totalWidth .temporal := by
  by_cases enough : p.totalWidth .spatial ≤ pass.features.length
  · obtain ⟨t, v, made, width⟩ := addPass_isOk enough s hbin
    rw [h] at made
    cases made
    exact width
  · rw [addPass_short (Nat.lt_of_not_le enough) s hbin] at h
    cases h

theorem length_completeRunBin {bin bin' : RunBin α}
    (hbin : bin.features.length = p.totalWidth .temporal)
    (h : p.completeRunBin s bin = .ok (s', bin')) :
    bin'.features.length = p.totalWidth .temporal := by
  have keeps : ∀ x ∈ p.statistics,
      (x.phases.completeTemporal bin.numObs).Keeps (width .temporal x) :=
    fun x _ => (x.confined.completeTemporal bin.numObs).keeps
  obtain ⟨⟨t, v⟩, stepped, h⟩ := bind_eq_ok.mp h
  cases h
  exact stepEach_keeps keeps hbin stepped

theorem length_output {bin : RunBin α} {out : OutputBin α}
    (hbin : bin.features.length = p.totalWidth .temporal)
    (h : p.output bin = .ok out) :
    out.features.length = p.totalWidth .output := by
  obtain ⟨v, made, width⟩ := outputEach_isOk hbin
  obtain ⟨w, made', h⟩ := bind_eq_ok.mp h
  cases h
  rw [made] at made'
  cases made'
  exact width

end Panel

-- ============================================================ the entries

variable [LawfulIndex α]

/-- While the observations of a pass are folded, all entries have the width
of the panel. -/
theorem PassBinner.wide_of_addAll {rule : BinningRule α}
    {observations : List (Observation α)} {b : PassBinner α}
    (h : empty.addAll rule observations = .ok b) : b.Wide rule.panel := by
  intro k
  refine GroupRule.of_foldlM_visit
    (fun entry fresh => Panel.length_createPassBin fresh)
    (fun o entry entry' observed width =>
      Panel.length_observe width observed)
    (fun entry none_some => by cases none_some) (groupOf_of_addAll h k)

/-- So have the completed bins of the pass. -/
theorem PassBinner.length_of_complete {rule : BinningRule α}
    {b : PassBinner α} (wide : b.Wide rule.panel) {bins : List (PassBin α)}
    (h : b.complete rule = .ok bins) :
    ∀ bin ∈ bins, bin.features.length = rule.panel.totalWidth .spatial := by
  intro bin hbin
  obtain ⟨⟨k, entry⟩, hentry, made⟩ := exists_of_mem_mapM h hbin
  rw [Std.ExtTreeMap.mem_toList_iff_getElem?_eq_some] at hentry
  obtain ⟨⟨s, done⟩, completed, rfl⟩ := map_eq_ok.mp made
  exact Panel.length_completePassBin (wide k entry hentry) completed

namespace RunBinner

variable {panel : Panel α} {bins : List (PassBin α)} {b : RunBinner α}

omit [LawfulIndex α] in
/-- The entry of a number is the group of its completed bins. -/
theorem groupOf_of_addAll (h : empty.addAll panel bins = .ok b) (k : Nat) :
    (runRule panel).groupOf k bins = .ok b.bins[k]? := by
  rw [addAll_eq_place] at h
  obtain ⟨m, placed, rfl⟩ := map_eq_ok.mp h
  exact GroupRule.foldlM_visit_of_place placed k

omit [Scalar α] [LawfulIndex α] in
/-- Whether all entries of a merge have the width of the panel. -/
def Wide (b : RunBinner α) (panel : Panel α) : Prop :=
  ∀ (k : Nat) (entry : Scratch α × RunBin α), b.bins[k]? = some entry →
    entry.2.features.length = panel.totalWidth .temporal

/-- While completed bins are folded, all entries have the width of the
panel. -/
theorem wide_of_addAll (h : empty.addAll panel bins = .ok b) :
    b.Wide panel := by
  intro k
  refine GroupRule.of_foldlM_visit
    (fun entry fresh => Panel.length_createRunBin fresh)
    (fun pass entry entry' added width => Panel.length_addPass width added)
    (fun entry none_some => by cases none_some) (groupOf_of_addAll h k)

end RunBinner

-- ======================================================== completed bins

omit [LawfulIndex α] in
/-- Whether a bin is what a merge has under a number, after the last
pass. -/
def Panel.Completes (p : Panel α) (bins : List (PassBin α)) (k : Nat)
    (done : RunBin α) : Prop :=
  ∃ b entry s, RunBinner.empty.addAll p bins = .ok b
    ∧ b.bins[k]? = some entry
    ∧ p.completeRunBin entry.1 entry.2 = .ok (s, done)

theorem Panel.Completes.width {panel : Panel α} {bins : List (PassBin α)}
    {k : Nat} {done : RunBin α} (h : panel.Completes bins k done) :
    done.features.length = panel.totalWidth .temporal := by
  obtain ⟨b, entry, s, folded, found, completed⟩ := h
  exact Panel.length_completeRunBin
    (RunBinner.wide_of_addAll folded k entry found) completed

omit [LawfulIndex α] in
/-- An output bin of a merge is the output of a completed bin of it. -/
theorem completes_of_mergePasses {panel : Panel α} {bins : List (PassBin α)}
    {m : OutputMap α} (h : mergePasses panel bins = .ok m) {k : Nat}
    {out : OutputBin α} (hout : m[k]? = some out) :
    ∃ done, panel.Completes bins k done ∧ panel.output done = .ok out := by
  obtain ⟨b, folded, -⟩ := bind_eq_ok.mp h
  obtain ⟨o, group, finished⟩ :=
    bind_eq_ok.mp ((mergePasses_tabulates panel bins).entries h k)
  rw [hout] at finished
  cases o with
  | none => cases finished
  | some entry =>
      obtain ⟨out', finished, same⟩ := map_eq_ok.mp finished
      cases same
      obtain ⟨⟨s, done⟩, completed, output⟩ := bind_eq_ok.mp finished
      rw [RunBinner.groupOf_of_addAll folded k] at group
      exact ⟨done, ⟨b, entry, s, folded, Except.ok.inj group, completed⟩,
        output⟩

/-- Under a number of its own a shard has what the split merge has. -/
theorem mergePasses_shard {panel : Panel α} {n : Nat}
    {bins : List (PassBin α)} {m : OutputMap α} (hn : 0 < n)
    (h : mergeSharded panel n bins = .ok m) (k : Nat) :
    ∃ part, mergePasses panel
        (bins.filter fun b => b.index % n == k % n) = .ok part
      ∧ part[k]? = m[k]? := by
  have whole := (mergeSharded_eq_mergePasses panel hn bins).symm.trans h
  obtain ⟨maps, merged, -⟩ := bind_eq_ok.mp h
  have own : k % n < (List.range n).length := by
    rw [List.length_range]
    exact Nat.mod_lt k hn
  obtain ⟨part, -, hpart⟩ := getElem_of_mapM merged own
  rw [List.getElem_range] at hpart
  refine ⟨part, hpart, ?_⟩
  have entry := (mergePasses_tabulates panel _).entries hpart k
  rw [outputOf_filter, onShards, if_pos (List.mem_singleton_self _),
    (mergePasses_tabulates panel bins).entries whole k] at entry
  exact (Except.ok.inj entry).symm

end EarthBins
