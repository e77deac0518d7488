/-
What the features of an output bin are made of.

A bin gets of a pass the samples of the observations that fall into it, and
of a run the passes that have such observations. Each statistic of the panel
goes through its cycle with these, and its part of the output features is
what the cycle returns (`BinningRule.cycle_of_run`). Nothing else matters:
no observation of another bin, no other statistic, no pass that missed the
bin.

# Two folds side by side

The entry of a bin is folded by the panel, and storage and vector of one
statistic by its phases. `Carries` relates the two after every observation
and every pass.
-/
import EarthBins.Proofs.Binning.Tallies
import EarthBins.Proofs.Panel.Alone
import EarthBins.Proofs.Statistic.Cycle

namespace EarthBins

open Outcome

variable {α : Type}

-- ====================================================== folds and groups

/-- A fold that succeeds takes another one along, if each of its steps
does. -/
theorem foldlM_alongside {ι κ β γ : Type} {R : ι → κ → Prop}
    (C : β → γ → Prop) {f : β → ι → Except Error β}
    {g : γ → κ → Except Error γ}
    (step : ∀ {a b}, R a b → ∀ {s t s'}, C s t → f s a = .ok s' →
      ∃ t', g t b = .ok t' ∧ C s' t')
    {l : List ι} {l' : List κ} (same : List.Forall₂ R l l') {s s' : β} {t : γ}
    (hst : C s t) (hs : l.foldlM f s = .ok s') :
    ∃ t', l'.foldlM g t = .ok t' ∧ C s' t' := by
  induction same generalizing s t with
  | nil =>
      cases hs
      exact ⟨t, rfl, hst⟩
  | cons hab _ ih =>
      rw [List.foldlM_cons, bind_eq_ok] at hs
      obtain ⟨s₁, h₁, hs⟩ := hs
      obtain ⟨t₁, h₁', hst₁⟩ := step hab hst h₁
      obtain ⟨t', h', hst'⟩ := ih hst₁ hs
      exact ⟨t', by rw [List.foldlM_cons, h₁', ok_bind, h'], hst'⟩

namespace GroupRule

variable {ι γ : Type} {r : GroupRule ι γ} {k : Nat}

/-- A group that is there is folded by its members. -/
theorem foldlM_visit_some {items : List ι}
    (all : ∀ a ∈ items, r.key a = some k) (g : γ) :
    items.foldlM (r.visit k) (some g)
      = some <$> items.foldlM (fun g a => r.step a g) g := by
  induction items generalizing g with
  | nil => rfl
  | cons a items ih =>
      rw [List.foldlM_cons, List.foldlM_cons, visit,
        if_pos (all a List.mem_cons_self), Option.elim_some, ok_bind]
      cases r.step a g with
      | error e => rfl
      | ok g' => exact ih (fun b hb => all b (List.mem_cons_of_mem _ hb)) g'

/-- The group of a number is a new one that its members were folded into. -/
theorem foldlM_members_of_groupOf {items : List ι} {g : γ}
    (h : r.groupOf k items = .ok (some g)) :
    ∃ g₀, r.fresh k = .ok g₀
      ∧ (r.members k items).foldlM (fun g a => r.step a g) g₀ = .ok g := by
  have filtered : (r.members k items).foldlM (r.visit k) none
      = items.foldlM (r.visit k) none :=
    foldlM_visit_filter (fun a _ ha => decide_eq_true ha) none
  rw [groupOf, ← filtered] at h
  have all : ∀ a ∈ r.members k items, r.key a = some k :=
    fun a ha => of_decide_eq_true (List.mem_filter.mp ha).2
  cases members : r.members k items with
  | nil =>
      rw [members] at h
      cases h
  | cons a rest =>
      rw [members] at h all
      rw [List.foldlM_cons, visit, if_pos (all a List.mem_cons_self)] at h
      obtain ⟨o, hfirst, h⟩ := bind_eq_ok.mp h
      obtain ⟨g₀, fresh, hfirst⟩ := bind_eq_ok.mp hfirst
      obtain ⟨g₁, first, rfl⟩ := map_eq_ok.mp hfirst
      rw [foldlM_visit_some fun b hb => all b (List.mem_cons_of_mem _ hb)] at h
      obtain ⟨g', folded, same⟩ := map_eq_ok.mp h
      cases same
      exact ⟨g₀, fresh, by rw [List.foldlM_cons, first, ok_bind, folded]⟩

end GroupRule

-- ============================================ one statistic of a panel

variable [Scalar α] {panel : Panel α} {before after : List (Statistic α)}
  {x : Statistic α}

/-- Storage and vector of a panel carry storage and vector of one of its
statistics. -/
structure Carries (panel : Panel α) (role : Role)
    (before : List (Statistic α)) (x : Statistic α)
    (entry own : Scratch α × FeatureVector α) : Prop where
  agree : entry.1.AgreeOn x.storageNames own.1
  part : own.2 = partAt role before x entry.2
  width : entry.2.length = panel.totalWidth role

omit [Scalar α] in
/-- Whether a sample vector has all the samples that a panel reads. -/
def Panel.Enough (p : Panel α) (samples : List α) : Prop :=
  ∀ x ∈ p.statistics, ∀ slot ∈ x.slots, slot < samples.length

section Carries

variable [LawfulIndex α]
  (whole : panel.statistics = before ++ x :: after) {role : Role}
include whole

omit [LawfulIndex α] in
theorem carries_empty (k : Nat) :
    Carries panel role before x
      (Scratch.empty k, FeatureVector.empty (panel.totalWidth role))
      (Scratch.empty k, FeatureVector.empty (Panel.width role x)) where
  agree := Scratch.AgreeOn.refl _ _
  part := by
    show FeatureVector.empty _ = partAt role before x (FeatureVector.empty _)
    rw [Panel.totalWidth, whole, length_namesOf_append, length_namesOf_cons,
      partAt, slice, FeatureVector.empty, FeatureVector.empty,
      List.drop_replicate, List.take_replicate]
    congr 1
    omega
  width := List.length_replicate

omit [Scalar α] [LawfulIndex α] in
/-- A step with every statistic takes the step of each. -/
theorem Carries.stepEach {step : Statistic α → Phase α}
    {s s' t : Scratch α} {v v' w : FeatureVector α}
    (h : Carries panel role before x (s, v) (t, w))
    (hs : Panel.stepEach role step panel.statistics s v = .ok (s', v'))
    (confined : ∀ y ∈ panel.statistics,
      Phase.Confined y.storageNames (Panel.width role y) (step y)) :
    ∃ t' w', step x t w = .ok (t', w')
      ∧ Carries panel role before x (s', v') (t', w') := by
  obtain ⟨agree, rfl, width⟩ := h
  have apart := panel.storageNames_apart whole
  rw [whole] at confined hs
  have long : v.length
      = (Panel.namesOf role (before ++ x :: after)).length := by
    rw [← whole]
    exact width
  obtain ⟨s₁, t', v₁, hs₁, ht, hv, agree', -⟩ :=
    stepEach_alone confined apart long agree
  rw [hs] at hs₁
  cases hs₁
  rw [stepEach_singleton (length_partAt long)] at ht
  exact ⟨t', _, ht, agree', rfl, hv.trans width⟩

/-- Adding a pass adds the part of each statistic to its own. -/
theorem Carries.mergeEach {numObs : Nat} {pass : FeatureVector α}
    (hpass : pass.length = panel.totalWidth .spatial)
    {s s' t : Scratch α} {v v' w : FeatureVector α}
    (h : Carries panel .temporal before x (s, v) (t, w))
    (hs : Panel.mergeEach numObs panel.statistics pass s v = .ok (s', v')) :
    ∃ t' w', x.phases.addPass (partAt .spatial before x pass) numObs t w
        = .ok (t', w')
      ∧ Carries panel .temporal before x (s', v') (t', w') := by
  obtain ⟨agree, rfl, width⟩ := h
  have apart := panel.storageNames_apart whole
  have long : v.length
      = (Panel.namesOf .temporal (before ++ x :: after)).length := by
    rw [← whole]
    exact width
  rw [Panel.totalWidth, whole] at hpass
  rw [whole] at hs
  obtain ⟨s₁, t', v₁, hs₁, ht, hv, agree', -⟩ :=
    mergeEach_alone apart numObs hpass long agree
  rw [hs] at hs₁
  cases hs₁
  rw [mergeEach_singleton numObs (length_partAt hpass)
    (length_partAt long)] at ht
  exact ⟨t', _, ht, agree', rfl, hv.trans width⟩

/-- An observation folded by a panel is folded by each statistic. -/
theorem Carries.observe {samples : List α} (enough : panel.Enough samples)
    {s s' : Scratch α} {bin bin' : PassBin α} {own : Scratch α × FeatureVector α}
    (h : Carries panel .spatial before x (s, bin.features) own)
    (hs : panel.observe samples s bin = .ok (s', bin')) :
    ∃ own', x.phases.observe samples own.1 own.2 = .ok own'
      ∧ Carries panel .spatial before x (s', bin'.features) own' := by
  obtain ⟨⟨s₁, v₁⟩, hs₁, made⟩ := bind_eq_ok.mp hs
  cases made
  obtain ⟨t', w', ht, h'⟩ := h.stepEach whole hs₁
    fun y hy => y.confined.observe (enough y hy)
  exact ⟨(t', w'), ht, h'⟩

/-- A pass added by a panel is added by each statistic. -/
theorem Carries.addPass {pass : PassBin α}
    (hpass : pass.features.length = panel.totalWidth .spatial)
    {s s' : Scratch α} {bin bin' : RunBin α} {own : Scratch α × FeatureVector α}
    (h : Carries panel .temporal before x (s, bin.features) own)
    (hs : panel.addPass pass s bin = .ok (s', bin')) :
    ∃ own', x.phases.addPass (partAt .spatial before x pass.features)
        pass.numObs own.1 own.2 = .ok own'
      ∧ Carries panel .temporal before x (s', bin'.features) own' := by
  obtain ⟨⟨s₁, v₁⟩, hs₁, made⟩ := bind_eq_ok.mp hs
  cases made
  obtain ⟨t', w', ht, h'⟩ := h.mergeEach whole hpass hs₁
  exact ⟨(t', w'), ht, h'⟩

/-- The output of a panel has the output of each statistic. -/
theorem output_part {v out : FeatureVector α}
    (hv : v.length = panel.totalWidth .temporal)
    (h : Panel.outputEach panel.statistics v = .ok out) :
    x.phases.output (partAt .temporal before x v)
      = .ok (partAt .output before x out) := by
  rw [Panel.totalWidth, whole] at hv
  rw [whole] at h
  obtain ⟨out', hout', own⟩ := outputEach_alone hv
  rw [h] at hout'
  cases hout'
  obtain ⟨mine, hmine, -⟩ := x.confined.output (length_partAt hv)
  rw [outputEach_singleton (length_partAt hv) hmine] at own
  rw [hmine, own]

end Carries

-- =============================================================== a pass

namespace BinningRule

/-- What a bin gets of the observations of a pass. -/
def samplesAt (rule : BinningRule α) (k : Nat)
    (observations : List (Observation α)) : PassSamples α :=
  let members := (passRule rule).members k observations
  ⟨members.length, members.map (·.samples)⟩

/-- What a bin gets of some passes. A pass without an observation in the bin
does not count. -/
def passesAt (rule : BinningRule α) (k : Nat)
    (passes : List (List (Observation α))) : List (PassSamples α) :=
  (passes.map (rule.samplesAt k)).filter fun pass => pass.numObs != 0

end BinningRule

/-- A completed bin has counted what the bin got of a pass, and holds what
each statistic makes of it. -/
structure Panel.Shows (p : Panel α) (k : Nat) (pass : PassSamples α)
    (bin : PassBin α) : Prop where
  numObs : bin.numObs = pass.numObs
  width : bin.features.length = p.totalWidth .spatial
  part : ∀ {before x after}, p.statistics = before ++ x :: after →
    x.passVector k pass = .ok (partAt .spatial before x bin.features)

section Pass

variable [LawfulIndex α] {rule : BinningRule α}
  {observations : List (Observation α)}

/-- The completed bin of a number has the part of each statistic. -/
theorem part_of_complete {k : Nat} {b : PassBinner α}
    (h : PassBinner.empty.addAll rule observations = .ok b)
    (enough : ∀ o ∈ observations, rule.panel.Enough o.samples)
    {entry : Scratch α × PassBin α} (hentry : b.bins[k]? = some entry)
    {s : Scratch α} {bin : PassBin α}
    (hbin : rule.panel.completePassBin entry.1 entry.2 = .ok (s, bin))
    (whole : rule.panel.statistics = before ++ x :: after) :
    x.passVector k (rule.samplesAt k observations)
      = .ok (partAt .spatial before x bin.features)
    ∧ bin.features.length = rule.panel.totalWidth .spatial := by
  have group := PassBinner.groupOf_of_addAll h k
  rw [hentry] at group
  obtain ⟨first, fresh, folded⟩ := GroupRule.foldlM_members_of_groupOf group
  -- before the first observation
  obtain ⟨⟨s₀, v₀⟩, hs₀, made⟩ := bind_eq_ok.mp fresh
  cases made
  obtain ⟨t₀, w₀, begun, carries⟩ := (carries_empty whole k).stepEach whole
    hs₀ fun y _ => y.confined.initSpatial
  -- the observations in the bin
  have same : List.Forall₂
      (fun (o : Observation α) samples =>
        samples = o.samples ∧ rule.panel.Enough samples)
      ((passRule rule).members k observations)
      (rule.samplesAt k observations).samples := by
    refine List.forall₂_map_right_iff.mpr (List.forall₂_same.mpr ?_)
    exact fun o ho => ⟨rfl, enough o (List.mem_filter.mp ho).1⟩
  obtain ⟨⟨t₁, w₁⟩, own, carries⟩ := foldlM_alongside
    (fun (entry : Scratch α × PassBin α) own =>
      Carries rule.panel .spatial before x (entry.1, entry.2.features) own)
    (g := fun own samples => x.phases.observe samples own.1 own.2)
    (by
      rintro o _ ⟨rfl, enough⟩ _ _ _ carries observed
      exact carries.observe whole enough observed)
    same (t := (t₀, w₀)) carries folded
  -- after the last one
  obtain ⟨⟨s₂, v₂⟩, hs₂, made⟩ := bind_eq_ok.mp hbin
  cases made
  obtain ⟨t₂, w₂, completed, carries⟩ := carries.stepEach whole hs₂
    fun y _ => y.confined.completeSpatial entry.2.numObs
  refine ⟨?_, carries.width⟩
  have counted : entry.2.numObs = (rule.samplesAt k observations).numObs :=
    ((PassBinner.entry_of_addAll h k).2 entry hentry).2
  rw [counted] at completed
  have begun : x.phases.initSpatial (Scratch.empty k)
      (FeatureVector.empty x.names.spatial.length) = .ok (t₀, w₀) :=
    begun
  rw [Statistic.passVector, begun, ok_bind, own, ok_bind, completed, map_ok,
    carries.part]

/-- A completed bin of a number shows what the bin got of the pass. -/
theorem shows_of_members {k : Nat} {b : PassBinner α}
    (h : PassBinner.empty.addAll rule observations = .ok b)
    (enough : ∀ o ∈ observations, rule.panel.Enough o.samples)
    {bins : List (PassBin α)} (hbins : b.complete rule = .ok bins)
    {bin : PassBin α} (hbin : bin ∈ (runRule rule.panel).members k bins) :
    rule.panel.Shows k (rule.samplesAt k observations) bin := by
  obtain ⟨hmem, hkey⟩ := List.mem_filter.mp hbin
  obtain ⟨-, index⟩ := runRule_key_eq_some.mp (of_decide_eq_true hkey)
  -- the entry that was completed is that of the number
  obtain ⟨⟨j, entry⟩, hentry, completed⟩ := exists_of_mem_mapM hbins hmem
  rw [Std.ExtTreeMap.mem_toList_iff_getElem?_eq_some] at hentry
  obtain ⟨⟨s, bin'⟩, done, rfl⟩ := map_eq_ok.mp completed
  obtain ⟨hj, hcount⟩ := (PassBinner.entry_of_addAll h j).2 entry hentry
  obtain ⟨same, counted⟩ := Panel.completePassBin_eq_ok done
  obtain rfl : j = k := by rw [← hj, ← same, index]
  obtain ⟨y, rest, first⟩ : ∃ y rest, rule.panel.statistics = [] ++ y :: rest :=
    List.exists_cons_of_ne_nil rule.panel.nonempty
  have parts {before x after}
      (whole : rule.panel.statistics = before ++ x :: after) :=
    part_of_complete h enough hentry done whole
  exact ⟨counted.trans hcount, (parts first).2,
    fun whole => (parts whole).1⟩

omit [LawfulIndex α] in
/-- Whether all entries of a pass that is being read have the width of the
panel. -/
def PassBinner.Wide (b : PassBinner α) (panel : Panel α) : Prop :=
  ∀ (k : Nat) (entry : Scratch α × PassBin α), b.bins[k]? = some entry →
    entry.2.features.length = panel.totalWidth .spatial

namespace PassBinner

theorem bin_isOk {b : PassBinner α} (wide : b.Wide rule.panel) (k : Nat) :
    ∃ entry, b.bin rule k = .ok entry
      ∧ entry.2.features.length = rule.panel.totalWidth .spatial := by
  unfold bin
  cases found : b.bins[k]? with
  | none =>
      obtain ⟨s, v, made, width, -⟩ :=
        rule.panel.createPassBin_isOk (Scratch.empty k)
      exact ⟨_, made, width⟩
  | some entry => exact ⟨entry, rfl, wide k entry found⟩

/-- An observation with all samples is folded. -/
theorem add_isOk {b : PassBinner α} (wide : b.Wide rule.panel)
    {o : Observation α} (enough : rule.panel.Enough o.samples) :
    ∃ b', b.add rule o = .ok b' ∧ b'.Wide rule.panel := by
  unfold add
  by_cases accepted : rule.accepts o.mjd = true
  · rw [accepted]
    obtain ⟨⟨s, bin⟩, current, width⟩ :=
      bin_isOk wide (rule.grid.binOf o.lat o.lon)
    have confined : ∀ x ∈ rule.panel.statistics, Phase.Confined
        x.storageNames (Panel.width .spatial x) (x.phases.observe o.samples) :=
      fun x hx => x.confined.observe (enough x hx)
    obtain ⟨s', v, observed, width', -⟩ := stepEach_isOk confined s width
    refine ⟨_, bind_eq_ok.mpr ⟨_, current, bind_eq_ok.mpr
      ⟨_, bind_eq_ok.mpr ⟨_, observed, rfl⟩, rfl⟩⟩, ?_⟩
    intro k entry found
    rw [Std.ExtTreeMap.getElem?_insert] at found
    split at found
    · cases found
      exact width'
    · exact wide k entry found
  · rw [Bool.not_eq_true] at accepted
    rw [accepted]
    exact ⟨_, rfl, wide⟩

/-- Observations with all samples are folded. -/
theorem addAll_isOk
    (enough : ∀ o ∈ observations, rule.panel.Enough o.samples) :
    ∃ b, empty.addAll rule observations = .ok b ∧ b.Wide rule.panel := by
  refine foldlM_keeps (fun b : PassBinner α => b.Wide rule.panel)
    (fun o ho b wide => add_isOk wide (enough o ho)) ?_
  intro k entry found
  simp [empty] at found

/-- The entries of a pass are completed. -/
theorem complete_isOk {b : PassBinner α} (wide : b.Wide rule.panel) :
    ∃ bins, b.complete rule = .ok bins := by
  refine mapM_isOk ?_
  rintro ⟨k, s, bin⟩ hmem
  have width := wide k (s, bin)
    (Std.ExtTreeMap.mem_toList_iff_getElem?_eq_some.mp hmem)
  have confined : ∀ x ∈ rule.panel.statistics, Phase.Confined x.storageNames
      (Panel.width .spatial x) (x.phases.completeSpatial bin.numObs) :=
    fun x _ => x.confined.completeSpatial bin.numObs
  obtain ⟨s', v, completed, -⟩ := stepEach_isOk confined s width
  exact ⟨_, map_eq_ok.mpr ⟨_, bind_eq_ok.mpr ⟨_, completed, rfl⟩, rfl⟩⟩

end PassBinner

end Pass

-- ================================================================ a run

namespace BinningRule

variable {rule : BinningRule α} {passes : List (List (Observation α))}

/-- The completed bins of the observations of a pass. -/
def binPass (rule : BinningRule α) (observations : List (Observation α)) :
    Except Error (List (PassBin α)) := do
  (← PassBinner.empty.addAll rule observations).complete rule

/-- The output bins of the observations of some passes, merged in turn. -/
def run (rule : BinningRule α) (passes : List (List (Observation α))) :
    Except Error (OutputMap α) := do
  mergeInTurn rule.panel (← passes.mapM rule.binPass)

/-- Whether observations have all the samples that the panel reads. -/
def Fits (rule : BinningRule α) (passes : List (List (Observation α))) :
    Prop :=
  ∀ observations ∈ passes, ∀ o ∈ observations, rule.panel.Enough o.samples

variable [LawfulIndex α]

theorem shows_of_binPass {observations : List (Observation α)}
    (enough : ∀ o ∈ observations, rule.panel.Enough o.samples)
    {bins : List (PassBin α)} (h : rule.binPass observations = .ok bins)
    (k : Nat) :
    List.Forall₂ (rule.panel.Shows k)
      ([rule.samplesAt k observations].filter fun pass => pass.numObs != 0)
      ((runRule rule.panel).members k bins) := by
  obtain ⟨b, hb, hbins⟩ := bind_eq_ok.mp h
  have counts := PassBinner.members_complete hb hbins k
  by_cases missed : ((passRule rule).members k observations).length = 0
  · rw [List.filter_cons_of_neg (by simpa [samplesAt] using missed)]
    rw [missed] at counts
    rw [List.map_eq_nil_iff.mp counts]
    exact .nil
  · rw [List.filter_cons_of_pos (by simpa [samplesAt] using missed)]
    rw [List.filter_cons_of_pos (by simpa using missed)] at counts
    obtain ⟨bin, single, -⟩ := List.map_eq_singleton_iff.mp counts
    have here : bin ∈ (runRule rule.panel).members k bins := by
      rw [single]
      exact List.mem_singleton_self bin
    rw [single]
    exact .cons (shows_of_members hb enough hbins here) .nil

/-- The completed bins of a number show what the bin got of the passes. -/
theorem shows_of_mapM (fits : rule.Fits passes)
    {bins : List (List (PassBin α))}
    (h : passes.mapM rule.binPass = .ok bins) (k : Nat) :
    List.Forall₂ (rule.panel.Shows k) (rule.passesAt k passes)
      ((runRule rule.panel).members k bins.flatten) := by
  have made := mapM_eq_ok.mp h
  clear h
  induction made with
  | nil => exact .nil
  | @cons observations bins passes rest first _ ih =>
      have one := shows_of_binPass (fits observations List.mem_cons_self)
        first k
      have others := ih fun l hl => fits l (List.mem_cons_of_mem _ hl)
      rw [List.flatten_cons, GroupRule.members, List.filter_append, passesAt,
        List.map_cons, ← List.singleton_append, List.filter_append]
      exact List.rel_append one others

/-- Observations with all samples are binned. -/
theorem binPass_isOk {observations : List (Observation α)}
    (enough : ∀ o ∈ observations, rule.panel.Enough o.samples) :
    ∃ bins, rule.binPass observations = .ok bins := by
  obtain ⟨b, hb, wide⟩ := PassBinner.addAll_isOk enough
  obtain ⟨bins, hbins⟩ := PassBinner.complete_isOk wide
  exact ⟨bins, bind_eq_ok.mpr ⟨b, hb, hbins⟩⟩

/-- A run over observations with all samples succeeds. -/
theorem run_isOk (fits : rule.Fits passes) :
    ∃ m, rule.run passes = .ok m := by
  obtain ⟨bins, hbins⟩ := mapM_isOk fun l hl => binPass_isOk (fits l hl)
  have wide : ∀ bin ∈ bins.flatten, bin.numObs ≠ 0 →
      rule.panel.totalWidth .spatial ≤ bin.features.length := by
    intro bin hbin counts
    obtain ⟨ofPass, hofPass, hbin⟩ := List.mem_flatten.mp hbin
    obtain ⟨l, hl, made⟩ := exists_of_mem_mapM hbins hofPass
    obtain ⟨b, hb, completed⟩ := bind_eq_ok.mp made
    have here : bin ∈ (runRule rule.panel).members bin.index ofPass :=
      List.mem_filter.mpr ⟨hbin, decide_eq_true
        (runRule_key_eq_some.mpr ⟨counts, rfl⟩)⟩
    exact (shows_of_members hb (fits l hl) completed here).width.ge
  obtain ⟨m, hm⟩ := (mergePasses_tabulates rule.panel bins.flatten).isOk
    (outputOf_isOk rule.panel wide)
  rw [← mergeInTurn_eq] at hm
  exact ⟨m, bind_eq_ok.mpr ⟨bins, hbins, hm⟩⟩

/-- The part of a statistic in an output bin is what its cycle makes of the
observations in the bin. -/
theorem cycle_of_run (fits : rule.Fits passes) {m : OutputMap α}
    (h : rule.run passes = .ok m) {k : Nat} {out : OutputBin α}
    (hout : m[k]? = some out)
    (whole : rule.panel.statistics = before ++ x :: after) :
    x.cycle k (rule.passesAt k passes) out.numObs
      = .ok (partAt .output before x out.features) := by
  obtain ⟨bins, hbins, h⟩ := bind_eq_ok.mp h
  rw [mergeInTurn_eq] at h
  obtain ⟨o, group, finished⟩ := bind_eq_ok.mp
    ((mergePasses_tabulates rule.panel bins.flatten).entries h k)
  rw [hout] at finished
  cases o with
  | none => cases finished
  | some entry =>
      obtain ⟨out', finished, same⟩ := map_eq_ok.mp finished
      cases same
      obtain ⟨first, fresh, folded⟩ :=
        GroupRule.foldlM_members_of_groupOf group
      -- before the first pass
      obtain ⟨⟨s₀, v₀⟩, hs₀, made⟩ := bind_eq_ok.mp fresh
      cases made
      obtain ⟨t₀, w₀, begun, carries⟩ := (carries_empty whole k).stepEach
        whole hs₀ fun y _ => y.confined.initTemporal
      -- the passes that reach the bin
      obtain ⟨⟨t₁, w₁⟩, own, carries⟩ := foldlM_alongside
        (fun (entry : Scratch α × RunBin α) own =>
          Carries rule.panel .temporal before x
            (entry.1, entry.2.features) own)
        (g := fun own pass => do
          x.phases.addPass (← x.passVector k pass) pass.numObs own.1 own.2)
        (by
          rintro bin pass (shows : rule.panel.Shows k pass bin) _ _ _ carries
            added
          obtain ⟨own', ht, carries⟩ :=
            carries.addPass whole shows.width added
          refine ⟨own', ?_, carries⟩
          rw [shows.part whole, ok_bind, ← shows.numObs, ht])
        (shows_of_mapM fits hbins k).flip (t := (t₀, w₀)) carries folded
      -- after the last one
      obtain ⟨⟨s₂, bin⟩, completed, outputs⟩ := bind_eq_ok.mp finished
      obtain ⟨⟨s₃, v₃⟩, hs₃, made⟩ := bind_eq_ok.mp completed
      cases made
      obtain ⟨t₂, w₂, done, carries⟩ := carries.stepEach whole hs₃
        fun y _ => y.confined.completeTemporal entry.2.numObs
      obtain ⟨features, houtput, made⟩ := bind_eq_ok.mp outputs
      cases made
      have begun : x.phases.initTemporal (Scratch.empty k)
          (FeatureVector.empty x.names.temporal.length) = .ok (t₀, w₀) :=
        begun
      rw [Statistic.cycle, Statistic.runVector, begun, ok_bind, own, ok_bind,
        done, map_ok, ok_bind, carries.part]
      exact output_part whole carries.width houtput

/-- The output bins of a run are those of the observations; each has counted
the observations in it and the passes with such. -/
theorem counts_of_run (fits : rule.Fits passes) {m : OutputMap α}
    (h : rule.run passes = .ok m) (k : Nat) :
    (k ∈ m ↔ rule.passesAt k passes ≠ [])
    ∧ ∀ out, m[k]? = some out → out.index = k
      ∧ out.numObs = ((rule.passesAt k passes).map (·.numObs)).sum
      ∧ out.numPasses = (rule.passesAt k passes).length := by
  obtain ⟨bins, hbins, h⟩ := bind_eq_ok.mp h
  rw [mergeInTurn_eq] at h
  have shows := shows_of_mapM fits hbins k
  have counts : (rule.passesAt k passes).map (·.numObs)
      = ((runRule rule.panel).members k bins.flatten).map (·.numObs) := by
    refine List.forall₂_eq_eq_eq ▸ ?_
    rw [List.forall₂_map_left_iff, List.forall₂_map_right_iff]
    exact shows.imp fun _ _ h => h.numObs.symm
  have empty : rule.passesAt k passes = []
      ↔ (runRule rule.panel).members k bins.flatten = [] := by
    rw [← List.length_eq_zero_iff, shows.length_eq, List.length_eq_zero_iff]
  rw [counts, shows.length_eq, ne_eq, empty]
  exact output_of_mergePasses h k

end BinningRule

end EarthBins
