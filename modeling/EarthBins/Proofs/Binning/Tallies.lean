/-
What the bins of a pass and of a run have counted.

The bins of a pass are groups of its observations, and each has counted its
members; completing them changes no count. The bins of a run are groups of
completed bins, and each has counted the observations of its members and
the members themselves, which is the passes that saw the bin. Neither stage
makes a bin that nothing belongs to.
-/
import EarthBins.Binning.Pass
import EarthBins.Proofs.Binning.Shards
import Mathlib.Data.List.Nodup

namespace EarthBins

open Outcome

variable {α : Type} [Scalar α]

-- ======================================================== one operation

namespace Panel

variable {p : Panel α} {s s' : Scratch α}

theorem observe_eq_ok {samples : List α} {b b' : PassBin α}
    (h : p.observe samples s b = .ok (s', b')) :
    b'.index = b.index ∧ b'.numObs = b.numObs + 1 := by
  obtain ⟨⟨t, v⟩, -, h⟩ := bind_eq_ok.mp h
  cases h
  exact ⟨rfl, rfl⟩

theorem completePassBin_eq_ok {b b' : PassBin α}
    (h : p.completePassBin s b = .ok (s', b')) :
    b'.index = b.index ∧ b'.numObs = b.numObs := by
  obtain ⟨⟨t, v⟩, -, h⟩ := bind_eq_ok.mp h
  cases h
  exact ⟨rfl, rfl⟩

theorem addPass_eq_ok {pass : PassBin α} {b b' : RunBin α}
    (h : p.addPass pass s b = .ok (s', b')) :
    b'.index = b.index ∧ b'.numObs = b.numObs + pass.numObs
      ∧ b'.numPasses = b.numPasses + 1 := by
  obtain ⟨⟨t, v⟩, -, h⟩ := bind_eq_ok.mp h
  cases h
  exact ⟨rfl, rfl, rfl⟩

theorem finishBin_eq_ok {entry : Scratch α × RunBin α} {out : OutputBin α}
    (h : RunBinner.finishBin p entry = .ok out) :
    out.index = entry.2.index ∧ out.numObs = entry.2.numObs
      ∧ out.numPasses = entry.2.numPasses := by
  obtain ⟨⟨t, bin⟩, hbin, h⟩ := bind_eq_ok.mp h
  obtain ⟨⟨t', v⟩, -, hbin⟩ := bind_eq_ok.mp hbin
  cases hbin
  obtain ⟨v', -, h⟩ := bind_eq_ok.mp h
  cases h
  exact ⟨rfl, rfl, rfl⟩

end Panel

-- ============================================================= one pass

/-- How observations are grouped: by the bin of their position, those
outside the period left out. -/
def passRule (rule : BinningRule α) :
    GroupRule (Observation α) (Scratch α × PassBin α) where
  key o :=
    if rule.accepts o.mjd then some (rule.grid.binOf o.lat o.lon) else none
  fresh k := rule.panel.createPassBin (Scratch.empty k)
  step o entry := rule.panel.observe o.samples entry.1 entry.2

namespace PassBinner

variable {rule : BinningRule α} {b b' : PassBinner α}

/-- An observation is dropped because of its time, or its bin takes the step
and is put back. -/
theorem add_eq_ok {o : Observation α} (h : b.add rule o = .ok b') :
    ((passRule rule).key o = none
      ∧ b' = { b with numOutside := b.numOutside + 1 })
    ∨ ((passRule rule).key o = some (rule.grid.binOf o.lat o.lon)
      ∧ ∃ entry entry', b.bin rule (rule.grid.binOf o.lat o.lon) = .ok entry
        ∧ rule.panel.observe o.samples entry.1 entry.2 = .ok entry'
        ∧ b' = { b with
          bins := b.bins.insert (rule.grid.binOf o.lat o.lon) entry'
          numBinned := b.numBinned + 1 }) := by
  unfold add at h
  by_cases accepted : rule.accepts o.mjd = true
  · refine Or.inr ⟨if_pos accepted, ?_⟩
    rw [accepted] at h
    obtain ⟨entry, hentry, h⟩ := bind_eq_ok.mp h
    obtain ⟨entry', hentry', h⟩ := bind_eq_ok.mp h
    cases h
    exact ⟨entry, entry', hentry, hentry', rfl⟩
  · refine Or.inl ⟨if_neg accepted, ?_⟩
    rw [Bool.not_eq_true] at accepted
    rw [accepted] at h
    cases h
    rfl

/-- Folding an observation places it. -/
theorem place_of_add {o : Observation α} (h : b.add rule o = .ok b') :
    (passRule rule).place b.bins o = .ok b'.bins := by
  unfold GroupRule.place
  rcases add_eq_ok h with
    ⟨key, rfl⟩ | ⟨key, entry, entry', hentry, hentry', rfl⟩
  · rw [key]
  · have current : b.bins[rule.grid.binOf o.lat o.lon]?.elim
        ((passRule rule).fresh (rule.grid.binOf o.lat o.lon)) .ok
        = .ok entry := by
      rw [← hentry, bin]
      cases b.bins[rule.grid.binOf o.lat o.lon]? with
      | none => rfl
      | some found => rfl
    rw [key]
    dsimp only
    rw [current, ok_bind]
    exact congrArg (· >>= _) hentry'

/-- Every observation is counted, as one that was binned if its time is in
the period. -/
theorem counts_of_add {o : Observation α} (h : b.add rule o = .ok b') :
    b'.numBinned
        = b.numBinned + ([o].filterMap (passRule rule).key).length
    ∧ b'.numBinned + b'.numOutside = b.numBinned + b.numOutside + 1 := by
  rcases add_eq_ok h with ⟨key, rfl⟩ | ⟨key, entry, entry', -, -, rfl⟩
  · rw [List.filterMap_cons_none key]
    exact ⟨rfl, rfl⟩
  · rw [List.filterMap_cons_some key]
    exact ⟨rfl, Nat.add_right_comm ..⟩

theorem counts_of_addAll {observations : List (Observation α)}
    (h : b.addAll rule observations = .ok b') :
    b'.numBinned = b.numBinned
        + (observations.filterMap (passRule rule).key).length
    ∧ b'.numBinned + b'.numOutside
        = b.numBinned + b.numOutside + observations.length := by
  unfold addAll at h
  induction observations generalizing b with
  | nil =>
      cases h
      exact ⟨rfl, rfl⟩
  | cons o observations ih =>
      rw [List.foldlM_cons, bind_eq_ok] at h
      obtain ⟨b₁, h₁, h⟩ := h
      obtain ⟨binned₁, all₁⟩ := counts_of_add h₁
      obtain ⟨binned, all⟩ := ih h
      rw [← List.singleton_append, List.filterMap_append, List.length_append,
        List.length_append, List.length_singleton]
      omega

theorem place_of_addAll {observations : List (Observation α)}
    (h : b.addAll rule observations = .ok b') :
    observations.foldlM (passRule rule).place b.bins = .ok b'.bins := by
  unfold addAll at h
  induction observations generalizing b with
  | nil =>
      cases h
      rfl
  | cons o observations ih =>
      rw [List.foldlM_cons, bind_eq_ok] at h
      obtain ⟨b₁, h₁, h⟩ := h
      rw [List.foldlM_cons, place_of_add h₁, ok_bind]
      exact ih h

/-- The entry of a number is the group of its observations. -/
theorem groupOf_of_addAll {observations : List (Observation α)}
    (h : empty.addAll rule observations = .ok b) (k : Nat) :
    (passRule rule).groupOf k observations = .ok b.bins[k]? :=
  GroupRule.foldlM_visit_of_place (place_of_addAll h) k

/-- An entry has counted the observations of its number, and there is one
where there is an observation. -/
theorem entry_of_addAll [LawfulIndex α]
    {observations : List (Observation α)}
    (h : empty.addAll rule observations = .ok b) (k : Nat) :
    (k ∈ b.bins ↔ (passRule rule).members k observations ≠ [])
    ∧ ∀ entry, b.bins[k]? = some entry → entry.2.index = k
      ∧ entry.2.numObs = ((passRule rule).members k observations).length := by
  have group := groupOf_of_addAll h k
  have start : ∀ g, (passRule rule).fresh k = .ok g →
      g.2.index = k ∧ g.2.numObs = 0 := by
    intro g hg
    obtain ⟨s, v, hs, -⟩ := rule.panel.createPassBin_isOk (Scratch.empty k)
    cases hs.symm.trans hg
    exact ⟨rfl, rfl⟩
  have index : ∀ entry, b.bins[k]? = some entry → entry.2.index = k := by
    refine GroupRule.of_foldlM_visit (fun g hg => (start g hg).1) ?_
      (fun g none_some => by cases none_some) group
    intro o g g' hg' hg
    rw [(Panel.observe_eq_ok hg').1, hg]
  -- every observation of the number adds one
  have size := GroupRule.size_of_foldlM_visit (fun entry => entry.2.numObs)
    (fun _ => 1) (fun g hg => (start g hg).2)
    (fun o g g' hg' => (Panel.observe_eq_ok hg').2) group
  refine ⟨?_, fun entry hentry => ⟨index entry hentry, ?_⟩⟩
  · rw [Std.ExtTreeMap.mem_iff_isSome_getElem?]
    exact GroupRule.isSome_of_groupOf group
  · rw [hentry] at size
    simpa using size

/-- The completed bins, by number and count. -/
theorem map_complete [LawfulIndex α] {observations : List (Observation α)}
    (h : empty.addAll rule observations = .ok b) {bins : List (PassBin α)}
    (hbins : b.complete rule = .ok bins) :
    (bins.map fun bin => (bin.index, bin.numObs))
      = b.bins.keys.map fun k =>
          (k, ((passRule rule).members k observations).length) := by
  rw [← Std.ExtTreeMap.map_fst_toList_eq_keys, List.map_map]
  refine map_of_mapM hbins ?_
  rintro ⟨k, s, bin⟩ hmem completed hdone
  rw [Std.ExtTreeMap.mem_toList_iff_getElem?_eq_some] at hmem
  obtain ⟨⟨s', bin'⟩, hbin', rfl⟩ := map_eq_ok.mp hdone
  obtain ⟨index, count⟩ := Panel.completePassBin_eq_ok hbin'
  obtain ⟨hk, hcount⟩ := (entry_of_addAll h k).2 (s, bin) hmem
  rw [index, count, hk, hcount]
  rfl

/-- A number has one completed bin with all its observations, or none where
there are no observations. -/
theorem members_complete [LawfulIndex α]
    {observations : List (Observation α)}
    (h : empty.addAll rule observations = .ok b) {bins : List (PassBin α)}
    (hbins : b.complete rule = .ok bins) (k : Nat) :
    ((runRule rule.panel).members k bins).map (·.numObs)
      = [((passRule rule).members k observations).length].filter
          (· != 0) := by
  have shown : ((runRule rule.panel).members k bins).map (·.numObs)
      = ((bins.map fun bin => (bin.index, bin.numObs)).filter
          fun e => e.2 ≠ 0 ∧ e.1 = k).map Prod.snd := by
    rw [List.filter_map, List.map_map]
    unfold GroupRule.members
    simp only [runRule_key_eq_some]
    rfl
  rw [shown, map_complete h hbins, List.filter_map, List.map_map]
  have present := (entry_of_addAll h k).1
  by_cases none_k : (passRule rule).members k observations = []
  · rw [none_k, List.filter_eq_nil_iff.mpr]
    · rfl
    · rintro j - hj
      simp only [Function.comp_apply, decide_eq_true_eq] at hj
      rw [hj.2, none_k] at hj
      exact hj.1 rfl
  · have own : b.bins.keys.filter ((fun e : Nat × Nat =>
        decide (e.2 ≠ 0 ∧ e.1 = k)) ∘ fun j =>
          (j, ((passRule rule).members j observations).length))
        = [k] := by
      have here := Std.ExtTreeMap.mem_keys.mpr (present.mpr none_k)
      -- the map has the number once, and other numbers do not count
      have once := List.count_eq_one_of_mem Std.ExtTreeMap.nodup_keys here
      rw [← List.replicate_one, ← once, ← List.filter_eq]
      refine List.filter_congr fun j _ => ?_
      refine decide_eq_decide.mpr ⟨And.right, ?_⟩
      rintro rfl
      exact ⟨mt List.length_eq_zero_iff.mp none_k, rfl⟩
    rw [own]
    simp [none_k]

end PassBinner

-- ================================================================ a run

/-- An output bin has counted the completed bins of its number and their
observations, and there is one where there is a completed bin with
observations. -/
theorem output_of_mergePasses [LawfulIndex α] {panel : Panel α}
    {bins : List (PassBin α)} {m : OutputMap α}
    (h : mergePasses panel bins = .ok m) (k : Nat) :
    (k ∈ m ↔ (runRule panel).members k bins ≠ [])
    ∧ ∀ out, m[k]? = some out → out.index = k
      ∧ out.numObs
        = (((runRule panel).members k bins).map (·.numObs)).sum
      ∧ out.numPasses = ((runRule panel).members k bins).length := by
  -- the entry of the merge is the group of the number, finished
  obtain ⟨o, group, finished⟩ :=
    bind_eq_ok.mp ((mergePasses_tabulates panel bins).entries h k)
  have start : ∀ g, (runRule panel).fresh k = .ok g →
      g.2.index = k ∧ g.2.numObs = 0 ∧ g.2.numPasses = 0 := by
    intro g hg
    obtain ⟨s, v, hs, -⟩ := panel.createRunBin_isOk (Scratch.empty k)
    cases hs.symm.trans hg
    exact ⟨rfl, rfl, rfl⟩
  have index : ∀ g, o = some g → g.2.index = k := by
    refine GroupRule.of_foldlM_visit (fun g hg => (start g hg).1) ?_
      (fun g none_some => by cases none_some) group
    intro b g g' hg' hg
    rw [(Panel.addPass_eq_ok hg').1, hg]
  have numObs := GroupRule.size_of_foldlM_visit (fun g => g.2.numObs)
    (·.numObs) (fun g hg => (start g hg).2.1)
    (fun b g g' hg' => (Panel.addPass_eq_ok hg').2.1) group
  have numPasses := GroupRule.size_of_foldlM_visit (fun g => g.2.numPasses)
    (fun _ => 1) (fun g hg => (start g hg).2.2)
    (fun b g g' hg' => (Panel.addPass_eq_ok hg').2.2) group
  have present := GroupRule.isSome_of_groupOf group
  rw [Std.ExtTreeMap.mem_iff_isSome_getElem?, ← present]
  cases o with
  | none =>
      have nothing : none = m[k]? := Except.ok.inj finished
      rw [← nothing]
      exact ⟨Iff.rfl, fun out hout => by cases hout⟩
  | some g =>
      obtain ⟨out, hout, found⟩ := map_eq_ok.mp finished
      obtain ⟨hindex, hobs, hpasses⟩ := Panel.finishBin_eq_ok hout
      rw [← found]
      refine ⟨Iff.rfl, ?_⟩
      rintro out' same
      cases same
      refine ⟨hindex.trans (index g rfl), ?_, ?_⟩
      · simpa [hobs] using numObs
      · simpa [hpasses] using numPasses

end EarthBins
