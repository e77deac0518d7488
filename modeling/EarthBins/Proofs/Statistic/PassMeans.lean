/-
The means that a percentile collects, and the storages it leaves behind.

A percentile keeps part of its state in storages that it shares with others:
the count of a pass in that of the pass, the means of all passes in that of
the run. It stores under its own names only, and it takes out what it has
stored. So whatever a storage held in the beginning, it holds in the end,
except under the name that the percentile used (`Percentile.runPass_eq`,
`Percentile.run_eq`).

# One entry that is replaced

Between the first and the last step a storage is that of the beginning with
one more entry. This is an equation of storages, and each step replaces the
entry by another one (`Percentile.runSamples_eq`). The sum of the pass stands
in the slot meanwhile, and that of the run waits for its percentile. The count
of a pass is never above the number of its samples, so it fits 32 bits where
that number does.
-/
import EarthBins.Proofs.Statistic.Reordering

namespace EarthBins

open Scalar Outcome

variable {α : Type}

-- ========================================================== the storage

namespace Scratch

variable (s : Scratch α) (name : String)

/-- A storage without the entry under a name. -/
def without : Scratch α :=
  { s with entries := s.entries.erase name }

theorem put_put (entry entry' : Entry α) :
    (s.put name entry).put name entry' = s.put name entry' := by
  refine congrArg (Scratch.mk s.bin) (Std.ExtTreeMap.ext_getElem? fun k => ?_)
  simp only [put, Std.ExtTreeMap.getElem?_insert]
  split
  · rfl
  · rfl

theorem without_put (entry : Entry α) :
    (s.put name entry).without name = s.without name := by
  refine congrArg (Scratch.mk s.bin) (Std.ExtTreeMap.ext_getElem? fun k => ?_)
  simp only [put, Std.ExtTreeMap.getElem?_erase,
    Std.ExtTreeMap.getElem?_insert]
  split
  · rfl
  · rfl

/-- What was put can be taken out, and then nothing is left of it. -/
theorem take?_put {β : Type} {view : Entry α → Option β} {entry : Entry α}
    {b : β} (h : view entry = some b) :
    (s.put name entry).take? view name = (some b, s.without name) := by
  have stored : (s.put name entry).get? view name = some b := by
    rw [get?_put, if_pos rfl, h]
  rw [take?, stored, ← without_put s name entry]
  rfl

theorem increment_put (n : Nat) :
    (s.put name (.count n)).increment name = s.put name (.count (n + 1)) := by
  have stored : (s.put name (.count n)).get? Entry.count? name = some n := by
    rw [get?_put, if_pos rfl]
    rfl
  rw [increment, stored]
  exact s.put_put name _ _

theorem push_put (xs : Array α) (x : α) :
    (s.put name (.numbers xs)).push name x
      = s.put name (.numbers (xs.push x)) := by
  have stored : (s.put name (.numbers xs)).get? Entry.numbers? name
      = some xs := by
    rw [get?_put, if_pos rfl]
    rfl
  rw [push, push?, stored]
  exact s.put_put name _ _

end Scratch

-- ========================================================= the two runs

/-- A pass over a bin: its samples, and the storage and the vector that its
phases begin with. -/
structure Visit (α : Type) where
  pass : PassSamples α
  storage : Scratch α
  vector : FeatureVector α

/-- A pass whose phases begin with an empty storage and vector. -/
def Visit.fresh [Scalar α] (bin width : Nat) (pass : PassSamples α) :
    Visit α :=
  ⟨pass, Scratch.empty bin, FeatureVector.empty width⟩

namespace Phases

/-- The spatial phases of a pass. -/
def runPass (p : Phases α) (pass : PassSamples α) : Phase α := fun s v => do
  let fresh ← p.initSpatial s v
  let folded ← pass.samples.foldlM
    (fun entry samples => p.observe samples entry.1 entry.2) fresh
  p.completeSpatial pass.numObs folded.1 folded.2

/-- The spatial phases of a pass up to some of its samples. -/
def runSamples (p : Phases α) (samples : List (List α)) : Phase α :=
  fun s v => do
    let fresh ← p.initSpatial s v
    samples.foldlM (fun entry samples => p.observe samples entry.1 entry.2)
      fresh

/-- Where a storage and a vector go along with a state, sample by sample, they
end with the state of all readings. -/
theorem runSamples_of_step {σ ρ : Type} (p : Phases α)
    (read : List α → Option ρ) (fold : σ → ρ → σ)
    (entry : σ → Scratch α × FeatureVector α) (start : σ)
    {samples : List (List α)} {s : Scratch α} {v : FeatureVector α}
    (begun : p.initSpatial s v = .ok (entry start))
    (step : ∀ x ∈ samples, ∀ state,
      p.observe x (entry state).1 (entry state).2
        = .ok (entry ((read x).elim state (fold state)))) :
    p.runSamples samples s v
      = .ok (entry ((samples.filterMap read).foldl fold start)) := by
  obtain ⟨-, folded, rfl⟩ := foldlM_follows
    (fun state reached => reached = entry state)
    (f := fun reached x => p.observe x reached.1 reached.2)
    (g := fun state x => (read x).elim state (fold state)) (l := samples)
    (by
      rintro x hx state - rfl
      exact ⟨_, step x hx state, rfl⟩)
    (s := start) rfl
  rw [runSamples, begun, ok_bind, folded, foldl_elim]

/-- A pass is completed behind its last sample. -/
theorem runPass_eq_bind (p : Phases α) (pass : PassSamples α)
    (s : Scratch α) (v : FeatureVector α) :
    p.runPass pass s v = (do
      let folded ← p.runSamples pass.samples s v
      p.completeSpatial pass.numObs folded.1 folded.2) := by
  simp only [runPass, runSamples, bind_assoc]

/-- A pass through its spatial phases, and added to a run. -/
def addVisit (p : Phases α) (entry : Scratch α × FeatureVector α)
    (visit : Visit α) : Except Error (Scratch α × FeatureVector α) := do
  let completed ← p.runPass visit.pass visit.storage visit.vector
  p.addPass completed.2 visit.pass.numObs entry.1 entry.2

/-- The temporal phases of a run. -/
def run (p : Phases α) (visits : List (Visit α)) (numObs : Nat) : Phase α :=
  fun s v => do
    let fresh ← p.initTemporal s v
    let folded ← visits.foldlM p.addVisit fresh
    p.completeTemporal numObs folded.1 folded.2

end Phases

-- ============================================================== one pass

namespace Percentile

variable [Scalar α]

/-- The mean of the samples of a slot that are not NaN, summed in order, if a
pass has any. -/
def mean? (slot : Nat) (pass : PassSamples α) : Option α :=
  let xs := pass.samples.filterMap (usable slot)
  if xs.isEmpty then none else some (xs.foldl (· + ·) 0 / ofNat xs.length)

/-- The mean of a pass, unless it is NaN. -/
def contribution (slot : Nat) (pass : PassSamples α) : Option α :=
  (mean? slot pass).filter fun mean => !isNaN mean

/-- The mean that a pass completes with. -/
theorem passMean_foldl (slot : Nat) (pass : PassSamples α) :
    passMean ((pass.samples.filterMap (usable slot)).foldl (· + ·) 0)
        (some (pass.samples.filterMap (usable slot)).length)
      = (mean? slot pass).getD nan := by
  rw [mean?, passMean, Option.getD_some]
  cases pass.samples.filterMap (usable slot) with
  | nil => rfl
  | cons x xs => rfl

/-- A storage and a slot while a pass lasts: the storage it began with and the
count so far, and the sum so far. -/
def entry (p : Percentile) (s : Scratch α) (state : α × Nat) :
    Scratch α × FeatureVector α :=
  (s.put p.countKey (.count state.2), [state.1])

/-- One more sample is counted and added, unless it is NaN. -/
theorem observe_entry (p : Percentile) {samples : List α}
    (inside : p.slot < samples.length) (s : Scratch α) (state : α × Nat) :
    p.observe samples (p.entry s state).1 (p.entry s state).2
      = .ok (p.entry s ((usable p.slot samples).elim state
          fun x => (state.1 + x, state.2 + 1))) := by
  have hx := List.getElem?_eq_getElem inside
  unfold entry
  cases isNaN_x : isNaN samples[p.slot] with
  | true =>
      rw [observe_of_isNaN hx isNaN_x, usable_of_isNaN hx isNaN_x,
        Option.elim_none]
  | false =>
      rw [observe_of_not_isNaN hx isNaN_x, Scratch.increment_put,
        usable_of_not_isNaN hx isNaN_x, Option.elim_some]

/-- Adding up and counting go side by side. -/
theorem foldl_sum_count (xs : List α) :
    xs.foldl (fun (state : α × Nat) x => (state.1 + x, state.2 + 1)) (0, 0)
      = (xs.foldl (· + ·) 0, xs.length) := by
  induction xs using List.reverseRecOn with
  | nil => rfl
  | append_singleton xs x ih =>
      rw [List.foldl_append, List.foldl_append, List.length_append, ih]
      rfl

/-- Whatever a storage holds, after some samples it holds the count of those
that are not NaN as well, and their sum is in the slot. -/
theorem runSamples_eq (p : Percentile) {samples : List (List α)}
    (enough : ∀ x ∈ samples, p.slot < x.length) (s : Scratch α)
    {v : FeatureVector α} (hv : v.length = 1) :
    p.phases.runSamples samples s v
      = .ok (s.put p.countKey
          (.count (samples.filterMap (usable p.slot)).length),
        [(samples.filterMap (usable p.slot)).foldl (· + ·) 0]) := by
  obtain ⟨a, rfl⟩ := List.length_eq_one_iff.mp hv
  -- the count goes along in the one entry, and the sum in the slot
  have folded := p.phases.runSamples_of_step (usable p.slot)
    (fun state x => (state.1 + x, state.2 + 1)) (p.entry s) (0, 0) (s := s)
    (v := [a]) rfl fun x hx => p.observe_entry (enough x hx) s
  rw [folded, foldl_sum_count]
  rfl

/-- Whatever a storage holds, a pass leaves it without the count, and the mean
in the slot. -/
theorem runPass_eq (p : Percentile) {pass : PassSamples α}
    (enough : ∀ samples ∈ pass.samples, p.slot < samples.length)
    (s : Scratch α) {v : FeatureVector α} (hv : v.length = 1) :
    p.phases.runPass pass s v
      = .ok (s.without p.countKey, [(mean? p.slot pass).getD nan]) := by
  rw [Phases.runPass_eq_bind, p.runSamples_eq enough s hv, ok_bind]
  have taken (n : Nat) : (s.put p.countKey (.count n)).take? Entry.count?
      p.countKey = (some n, s.without p.countKey) := s.take?_put _ rfl
  show p.completeSpatial _ _ = _
  rw [completeSpatial_eq, taken, passMean_foldl]

-- =============================================================== one run

/-- A pass never changes the vector of the run. -/
theorem snd_of_addPass {p : Percentile} {pass : FeatureVector α}
    {s t : Scratch α} {v w : FeatureVector α}
    (h : p.addPass pass s v = .ok (t, w)) : w = v := by
  obtain ⟨mean, -, h⟩ := bind_eq_ok.mp h
  split at h
  · cases h
    rfl
  · cases h
    rfl

variable [LawfulScalar α]

/-- What a run collects are the means of its passes that are not NaN. -/
theorem foldl_collect_means (slot : Nat) (passes : List (PassSamples α)) :
    (passes.map fun pass => (mean? slot pass).getD nan).foldl collect []
      = passes.filterMap (contribution slot) := by
  rw [foldl_collect, List.nil_append, ← List.filterMap_eq_filter,
    List.filterMap_map]
  refine List.filterMap_congr fun pass _ => ?_
  rw [Function.comp_apply, contribution]
  cases mean? slot pass with
  | none =>
      rw [Option.getD_none, Option.filter_none, Option.guard,
        LawfulScalar.isNaN_nan]
      rfl
  | some mean => rfl

/-- Whatever the storages hold, a run leaves its own without the means, and
their percentile in the slot. -/
theorem run_eq (p : Percentile) {visits : List (Visit α)}
    (enough : ∀ visit ∈ visits, ∀ samples ∈ visit.pass.samples,
      p.slot < samples.length)
    (single : ∀ visit ∈ visits, visit.vector.length = 1) (numObs : Nat)
    (s : Scratch α) {v : FeatureVector α} (hv : v.length = 1) :
    p.phases.run visits numObs s v = (do
      let x ← percentileOf p.percentage (((visits.map (·.pass)).filterMap
        (contribution p.slot)).mergeSort totalLE)
      return (s.without p.valuesKey, [x])) := by
  obtain ⟨a, rfl⟩ := List.length_eq_one_iff.mp hv
  -- the means go along in the one entry, and the slot is left alone
  obtain ⟨-, folded, rfl⟩ := foldlM_follows
    (fun (means : List α) entry =>
      entry = (s.put p.valuesKey (.numbers means.toArray), [nan]))
    (f := p.phases.addVisit)
    (g := fun means visit =>
      collect means ((mean? p.slot visit.pass).getD nan))
    (l := visits)
    (by
      rintro visit hvisit means - rfl
      refine ⟨_, ?_, rfl⟩
      rw [Phases.addVisit, p.runPass_eq (enough visit hvisit) _
        (single visit hvisit), ok_bind]
      show p.addPass _ _ _ = _
      rw [addPass_eq, collect]
      split
      · rfl
      · rw [Scratch.push_put, List.push_toArray])
    (s := []) (b := (s.put p.valuesKey (.numbers #[]), [nan])) rfl
  have means := foldl_collect_means p.slot (visits.map (·.pass))
  rw [List.map_map, List.foldl_map] at means
  have taken (xs : Array α) : (s.put p.valuesKey (.numbers xs)).take?
      Entry.numbers? p.valuesKey = (some xs, s.without p.valuesKey) :=
    s.take?_put _ rfl
  show (do
    let folded ← visits.foldlM p.phases.addVisit
      (s.put p.valuesKey (.numbers #[]), [nan])
    p.completeTemporal folded.1 folded.2) = _
  rw [folded, ok_bind, completeTemporal_eq, taken, percentileIn,
    Option.getD_some]
  exact congrArg (fun means : List α => percentileOf p.percentage
    (means.mergeSort totalLE) >>= _) means

/-- A percentile in full, over passes of fewer than `2 ^ 32` samples. A pass
may begin with any storage. While it lasts, the storage is the same one with a
count under the count key that 32 bits can hold. It ends with the same one
without an entry under this key, and with the mean of its samples that are not
NaN in the slot, or NaN without a sample. Adding a pass never changes the
vector of the run. And a run, which may begin with any storage too, ends with
the same one without an entry under its values key, and with the percentile of
the sorted means in the slot; a pass without a mean, or with one that is NaN,
is not among them. -/
theorem run_cleans [LawfulIndex α] [SortedScalar α] (p : Percentile)
    {visits : List (Visit α)}
    (enough : ∀ visit ∈ visits, ∀ samples ∈ visit.pass.samples,
      p.slot < samples.length)
    (few : ∀ visit ∈ visits, visit.pass.samples.length < 2 ^ 32)
    (single : ∀ visit ∈ visits, visit.vector.length = 1) (numObs : Nat)
    (s : Scratch α) {v : FeatureVector α} (hv : v.length = 1) :
    (∀ visit ∈ visits, ∀ done, done <+: visit.pass.samples →
      ∃ count < 2 ^ 32, ∃ sum,
        p.phases.runSamples done visit.storage visit.vector
          = .ok (visit.storage.put p.countKey (.count count), [sum]))
    ∧ (∀ visit ∈ visits,
      p.phases.runPass visit.pass visit.storage visit.vector
        = .ok (visit.storage.without p.countKey,
          [(mean? p.slot visit.pass).getD nan]))
    ∧ (∀ (pass : FeatureVector α) n t t' w w',
      p.phases.addPass pass n t w = .ok (t', w') → w' = w)
    ∧ ∃ sorted x,
      sorted.Perm ((visits.map (·.pass)).filterMap (contribution p.slot))
      ∧ sorted.Pairwise (totalLE · · = true)
      ∧ percentileOf p.percentage sorted = .ok x
      ∧ p.phases.run visits numObs s v
        = .ok (s.without p.valuesKey, [x]) := by
  refine ⟨?_, ?_, ?_, ?_⟩
  · intro visit hvisit done begun
    have counted := List.length_filterMap_le (usable p.slot) done
    exact ⟨_, (counted.trans begun.length_le).trans_lt (few visit hvisit), _,
      p.runSamples_eq (fun x hx => enough visit hvisit x (begun.subset hx)) _
        (single visit hvisit)⟩
  · intro visit hvisit
    exact p.runPass_eq (enough visit hvisit) _ (single visit hvisit)
  · intro pass n t t' w w' added
    exact snd_of_addPass added
  · obtain ⟨x, hx⟩ := percentileOf_isOk p.percentage
      (((visits.map (·.pass)).filterMap (contribution p.slot)).mergeSort
        totalLE)
    refine ⟨_, x, List.mergeSort_perm _ _, List.pairwise_mergeSort
      SortedScalar.totalLE_trans SortedScalar.totalLE_total _, hx, ?_⟩
    rw [p.run_eq enough single numObs s hv, hx]
    rfl

/-- The median of chlorophyll. -/
def medianOfChl : Percentile := ⟨"chl", 0, 50⟩

/-- A storage in use, also under the names of the median: one entry is of
another type, and one is a list that is not empty. -/
def usedStorage : Scratch Float :=
  (((Scratch.empty 3).put medianOfChl.countKey (.text "chl")).put
    medianOfChl.valuesKey (.numbers #[5])).put "sst" (.count 2)

/-- Passes with the means two, ten and four, one without a sample, and one
whose mean is NaN. -/
def chlVisits : List (Visit Float) :=
  [⟨2, [[1], [3]]⟩, ⟨1, [[10]]⟩, ⟨1, [[nan]]⟩, ⟨2, [[infinity], [-infinity]]⟩,
    ⟨2, [[4], [nan]]⟩].map fun pass => ⟨pass, usedStorage, [7]⟩

/-- The median of two, four and ten, and what was stored for others. -/
theorem run_cleans_chl :
    medianOfChl.phases.run chlVisits 8 usedStorage [7]
      = .ok (usedStorage.without medianOfChl.valuesKey, [4])
    ∧ ∀ visit ∈ chlVisits, Prod.fst
        <$> medianOfChl.phases.runPass visit.pass visit.storage visit.vector
      = .ok (usedStorage.without medianOfChl.countKey) := by
  have enough : ∀ visit ∈ chlVisits, ∀ samples ∈ visit.pass.samples,
      0 < samples.length := by
    decide
  have few : ∀ visit ∈ chlVisits, visit.pass.samples.length < 2 ^ 32 := by
    simp [chlVisits]
  have single : ∀ visit ∈ chlVisits, visit.vector.length = 1 := by
    simp [chlVisits]
  have means : (chlVisits.map (·.pass)).filterMap (contribution 0)
      = [2, 10, 4] := by
    decide +kernel
  obtain ⟨-, cleaned, -, sorted, x, perm, inOrder, read, shown⟩ :=
    run_cleans medianOfChl enough few single 8 usedStorage (v := [7]) rfl
  have sorted_eq : sorted = [2, 4, 10] := by
    refine List.Perm.eq_of_pairwise
      (fun x y _ _ => SortedScalar.totalLE_antisymm) inOrder
      (by decide +kernel) (perm.trans ?_)
    rw [show medianOfChl.slot = 0 from rfl, means]
    exact (List.Perm.swap 4 10 []).cons 2
  have median : percentileOf 50 [2, 4, (10 : Float)] = .ok 4 := by
    rfl
  rw [sorted_eq, show medianOfChl.percentage = 50 from rfl, median] at read
  cases read
  refine ⟨shown, fun visit hvisit => ?_⟩
  rw [cleaned visit hvisit, map_ok]
  obtain ⟨pass, -, rfl⟩ := List.mem_map.mp hvisit
  rfl

end Percentile

-- ========================================================== a whole cycle

namespace Statistic

variable [Scalar α]

/-- The vector of a pass is that of its phases on an empty storage. -/
theorem passVector_eq_runPass (x : Statistic α) (bin : Nat)
    (pass : PassSamples α) :
    x.passVector bin pass = Prod.snd <$> x.phases.runPass pass
      (Scratch.empty bin) (FeatureVector.empty x.names.spatial.length) := by
  simp only [passVector, Phases.runPass, map_bind]

/-- The vector of a run is that of its phases on empty storages. -/
theorem runVector_eq_run (x : Statistic α) (bin : Nat)
    (passes : List (PassSamples α)) (numObs : Nat) :
    x.runVector bin passes numObs
      = Prod.snd <$> x.phases.run
        (passes.map (Visit.fresh bin x.names.spatial.length)) numObs
        (Scratch.empty bin) (FeatureVector.empty x.names.temporal.length) := by
  simp only [runVector, Phases.run, map_bind, List.foldlM_map,
    passVector_eq_runPass, bind_map_left, Phases.addVisit, Visit.fresh]

/-- A cycle shows the percentile of the sorted means. -/
theorem cycle_percentile_eq [LawfulScalar α] {p : Percentile}
    {passes : List (PassSamples α)} (fits : (percentile p).Fits passes)
    (bin numObs : Nat) :
    (percentile p).cycle bin passes numObs = (do
      let x ← percentileOf p.percentage ((passes.filterMap
        (Percentile.contribution p.slot)).mergeSort totalLE)
      return [if isNaN x then nan else x]) := by
  have enough : ∀ visit ∈ passes.map (Visit.fresh bin 1),
      ∀ samples ∈ visit.pass.samples, p.slot < samples.length := by
    intro visit hvisit samples hsamples
    obtain ⟨pass, hpass, rfl⟩ := List.mem_map.mp hvisit
    exact fits pass hpass samples hsamples p.slot List.mem_cons_self
  have single : ∀ visit ∈ passes.map (Visit.fresh bin 1),
      visit.vector.length = 1 := by
    intro visit hvisit
    obtain ⟨pass, -, rfl⟩ := List.mem_map.mp hvisit
    rfl
  have run := p.run_eq enough single numObs (Scratch.empty bin)
    (v := FeatureVector.empty 1) rfl
  rw [List.map_map, show (·.pass) ∘ Visit.fresh bin 1 = id from rfl,
    List.map_id] at run
  rw [cycle, runVector_eq_run]
  show Prod.snd <$> p.phases.run (passes.map (Visit.fresh bin 1)) numObs
    (Scratch.empty bin) (FeatureVector.empty 1) >>= Percentile.output = _
  rw [run]
  cases percentileOf p.percentage ((passes.filterMap
    (Percentile.contribution p.slot)).mergeSort totalLE) with
  | error e => rfl
  | ok x => rfl

end Statistic

end EarthBins
