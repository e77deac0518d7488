/-
A run loses no observation and invents none.

A spot of a pass is accepted when it is observed and its time is in the
period, if there is one; its bin is that of its position. The report of a
run has counted the accepted spots: it has the bins of these spots and no
other, and a bin has as many observations and passes as there are spots and
passes with it.

# The way of an observation

The observations of a pass are made at the fixes of its spots, the bins of
the pass group them, the merge groups the bins of all passes, by shards or
not. Each stage was described on its own; here the descriptions are put end
to end.
-/
import EarthBins.Proofs.Binning.PassBins
import EarthBins.Proofs.Scalar.Index
import EarthBins.Proofs.Scene.Spots
import EarthBins.Proofs.Scene.Stream
import EarthBins.Reducer
import Mathlib

namespace EarthBins

open Outcome

-- ====================================================== accepted spots

/-- The slice of a pass: its window, or the whole raster. -/
def Pass.slice {α : Type} (pass : Pass α) : Window :=
  let size := Scene.rasterSize? pass.scene.planes pass.scene.mask
  pass.window.getD
    (size.elim (Window.full 0 0) fun s => Window.full s.1 s.2)

/-- The bin of what is observed somewhere at some time, if that is in the
period. -/
def BinningRule.binOf? (rule : BinningRule Float)
    (fix : Position Float × Float) : Option Nat :=
  if rule.InPeriod fix.2 then some (rule.grid.binOf fix.1.lat fix.1.lon)
  else none

theorem BinningRule.binOf?_fix_eq_some {rule : BinningRule Float}
    {o : Observation Float} {k : Nat} :
    rule.binOf? o.fix = some k
      ↔ rule.InPeriod o.mjd ∧ rule.grid.binOf o.lat o.lon = k := by
  unfold binOf? Observation.fix
  rw [Option.ite_none_right_eq_some, Option.some_inj]

namespace Reducer

/-- The bin of a spot of a pass, if the spot is accepted. -/
def binAt? (r : Reducer Float) (pass : Pass Float) (p : Spot) :
    Option Nat :=
  pass.scene.fixAt? (p.point r.superSampling) >>= r.rule.binOf?

/-- The accepted spots of a pass. -/
def accepted (r : Reducer Float) (pass : Pass Float) : Finset Spot :=
  (pass.slice.spots r.superSampling).filter fun p =>
    (r.binAt? pass p).isSome

/-- The accepted spots of a pass with one bin. -/
def acceptedIn (r : Reducer Float) (pass : Pass Float) (k : Nat) :
    Finset Spot :=
  (pass.slice.spots r.superSampling).filter fun p =>
    r.binAt? pass p = some k

variable {r : Reducer Float} {pass : Pass Float}

theorem mem_acceptedIn {k : Nat} {p : Spot} :
    p ∈ r.acceptedIn pass k ↔
      p ∈ r.accepted pass ∧ r.binAt? pass p = some k := by
  unfold acceptedIn accepted
  rw [Finset.mem_filter, Finset.mem_filter, and_assoc]
  refine and_congr_right fun _ => ?_
  constructor
  · intro h
    exact ⟨by rw [h, Option.isSome_some], h⟩
  · exact And.right

-- ============================================================= one pass

/-- A pass in order is sampled over its slice. -/
theorem samplingOf_eq_ok {sampling : Sampling}
    (h : r.samplingOf pass = .ok sampling) :
    sampling.window = pass.slice ∧ sampling.factor = r.superSampling
      ∧ Scene.checkRasters pass.scene.planes pass.scene.mask
        sampling.window = .ok () := by
  unfold samplingOf at h
  dsimp only at h
  -- a pass without times or with the wrong planes has no sampling
  split at h
  · cases h
  split at h
  · cases h
  unfold Pass.slice
  cases hsize : Scene.rasterSize? pass.scene.planes pass.scene.mask with
  | none =>
      rw [hsize] at h
      cases h
  | some size =>
      rw [hsize] at h
      obtain ⟨⟨⟩, checked, h⟩ := bind_eq_ok.mp h
      unfold Sampling.of? at h
      split at h
      · split at h
        · cases h
          exact ⟨rfl, rfl, checked⟩
        · cases h
      · cases h

/-- The observations of a pass with one bin are as many as its spots. -/
theorem length_members_passRule {sampling : Sampling}
    (hs : r.samplingOf pass = .ok sampling)
    {observations : List (Observation Float)}
    (ho : pass.scene.observations sampling = .ok observations) (k : Nat) :
    ((passRule r.rule).members k observations).length
      = (r.acceptedIn pass k).card := by
  obtain ⟨window, factor, checked⟩ := samplingOf_eq_ok hs
  have fixes := Scene.fix_observations checked ho
  rw [window, factor] at fixes
  unfold acceptedIn
  rw [Window.card_filter_spots]
  calc ((passRule r.rule).members k observations).length
      = observations.countP fun o => r.rule.binOf? o.fix = some k := by
        rw [BinningRule.members_passRule, BinningRule.observationsIn,
          List.countP_eq_length_filter]
        refine congrArg List.length (List.filter_congr fun o _ => ?_)
        exact decide_eq_decide.mpr BinningRule.binOf?_fix_eq_some.symm
    _ = (observations.map Observation.fix).countP
          fun fix => r.rule.binOf? fix = some k := by
        rw [List.countP_map]
        rfl
    _ = (pass.slice.spotList r.superSampling).countP
          fun p => r.binAt? pass p = some k := by
        rw [fixes, List.countP_filterMap]
        refine List.countP_congr fun p _ => ?_
        unfold binAt?
        cases pass.scene.fixAt? (p.point r.superSampling) with
        | none => simp
        | some fix => simp

/-- A pass has one completed bin where it has accepted spots, and that bin
has counted them. -/
theorem members_binPass {bins : List (PassBin Float)}
    (h : r.binPass pass = .ok bins) (k : Nat) :
    ((runRule r.rule.panel).members k bins).map (·.numObs)
      = [(r.acceptedIn pass k).card].filter (· != 0) := by
  obtain ⟨sampling, hs, h⟩ := bind_eq_ok.mp h
  obtain ⟨observations, ho, h⟩ := bind_eq_ok.mp h
  obtain ⟨binner, hb, h⟩ := bind_eq_ok.mp h
  rw [PassBinner.members_complete hb h, length_members_passRule hs ho]

-- ================================================================ a run

variable {passes : List (Pass Float)} {cancelled : Bool}

/-- The completed bins of a run with one number are those of the passes
with accepted spots. -/
theorem members_flatten {bins : List (List (PassBin Float))}
    (h : passes.mapM (r.binPassUnless cancelled) = .ok bins) (k : Nat) :
    ((runRule r.rule.panel).members k bins.flatten).map (·.numObs)
      = (passes.map fun pass => (r.acceptedIn pass k).card).filter
          (· != 0) := by
  have single : bins.map (fun bins =>
        ((runRule r.rule.panel).members k bins).map (·.numObs))
      = passes.map fun pass =>
          [(r.acceptedIn pass k).card].filter (· != 0) := by
    refine map_of_mapM h fun pass _ bins hbins => members_binPass ?_ k
    unfold binPassUnless at hbins
    split at hbins
    · cases hbins
    · exact hbins
  unfold GroupRule.members at single ⊢
  rw [List.filter_flatten, List.map_flatten, List.map_map]
  refine (congrArg List.flatten single).trans ?_
  rw [← List.flatMap_singleton'
      (passes.map fun pass => (r.acceptedIn pass k).card),
    List.filter_flatMap, List.flatMap_map]
  rfl

theorem merge_eq_mergePasses (r : Reducer Float)
    (bins : List (PassBin Float)) :
    r.merge bins = mergePasses r.rule.panel bins := by
  unfold merge
  split
  · exact mergeSharded_eq_mergePasses _ (by decide) bins
  · rfl

/-- The bins of a run, their numbers and their counts. -/
theorem bins_of_run {report : Report Float}
    (h : r.run passes cancelled = .ok report) (k : Nat) :
    (k ∈ report.bins ↔ ∃ pass ∈ passes, (r.acceptedIn pass k).Nonempty)
    ∧ ∀ bin, report.bins[k]? = some bin → bin.index = k
      ∧ bin.numObs = (passes.map fun pass => (r.acceptedIn pass k).card).sum
      ∧ bin.numPasses
        = passes.countP fun pass => (r.acceptedIn pass k).Nonempty := by
  obtain ⟨bins, hbins, h⟩ := bind_eq_ok.mp h
  obtain ⟨merged, hmerged, h⟩ := bind_eq_ok.mp h
  cases h
  rw [merge_eq_mergePasses] at hmerged
  obtain ⟨present, counts⟩ := output_of_mergePasses hmerged k
  have members := members_flatten hbins k
  refine ⟨?_, ?_⟩
  · rw [present, ne_eq, ← List.map_eq_nil_iff (f := fun b => b.numObs),
      members, List.filter_eq_nil_iff]
    simp [Finset.nonempty_iff_ne_empty]
  · intro bin hbin
    obtain ⟨index, numObs, numPasses⟩ := counts bin hbin
    refine ⟨index, ?_, ?_⟩
    · rw [numObs, members, List.sum_filter_bne_zero]
    -- a pass has at most one bin of the number, so bins are passes
    · rw [numPasses, ← List.length_map (f := fun b => b.numObs), members,
        ← List.countP_eq_length_filter, List.countP_map]
      refine List.countP_congr fun pass _ => ?_
      simp [Finset.nonempty_iff_ne_empty]

-- =========================================================== the total

/-- An accepted spot has one bin: the accepted spots of a pass are those of
its bins together. -/
theorem card_accepted {keys : Finset Nat}
    (covers : ∀ k, (r.acceptedIn pass k).Nonempty → k ∈ keys) :
    (r.accepted pass).card = ∑ k ∈ keys, (r.acceptedIn pass k).card := by
  -- sort the spots by their bin; a spot that is accepted has one
  have inside : ((r.accepted pass : Finset Spot) : Set Spot).MapsTo
      (fun p => (r.binAt? pass p).getD 0) keys := by
    intro p hp
    obtain ⟨k, hk⟩ :=
      Option.isSome_iff_exists.mp (Finset.mem_filter.mp hp).2
    show (r.binAt? pass p).getD 0 ∈ keys
    rw [hk, Option.getD_some]
    exact covers k ⟨p, mem_acceptedIn.mpr ⟨hp, hk⟩⟩
  rw [Finset.card_eq_sum_card_fiberwise inside]
  refine Finset.sum_congr rfl fun k _ => congrArg Finset.card ?_
  ext p
  rw [Finset.mem_filter, mem_acceptedIn]
  refine and_congr_right fun hp => ?_
  obtain ⟨j, hj⟩ := Option.isSome_iff_exists.mp (Finset.mem_filter.mp hp).2
  rw [hj, Option.getD_some, Option.some_inj]

/-- The counts of all numbers add up to the counts of all passes. -/
theorem sum_card_accepted {keys : Finset Nat}
    (covers : ∀ pass ∈ passes, ∀ k, (r.acceptedIn pass k).Nonempty →
      k ∈ keys) :
    ∑ k ∈ keys, (passes.map fun pass => (r.acceptedIn pass k).card).sum
      = (passes.map fun pass => (r.accepted pass).card).sum := by
  induction passes with
  | nil => simp
  | cons pass passes ih =>
      simp only [List.map_cons, List.sum_cons, Finset.sum_add_distrib]
      rw [ih fun pass' hp => covers pass' (List.mem_cons_of_mem _ hp),
        ← card_accepted (covers pass List.mem_cons_self)]

/-- A run loses no observation and invents none. Its report has the bins of
the accepted spots of all passes and no other. A bin has counted the
accepted spots with it and the passes where there is one, which is at least
one, and all bins together have counted all accepted spots. -/
theorem run_counts_accepted {report : Report Float}
    (h : r.run passes cancelled = .ok report) :
    (∀ k, k ∈ report.bins ↔
      ∃ pass ∈ passes, ∃ p ∈ r.accepted pass, r.binAt? pass p = some k)
    ∧ (∀ k bin, report.bins[k]? = some bin → bin.index = k
      ∧ bin.numObs ≠ 0
      ∧ bin.numObs = (passes.map fun pass => (r.acceptedIn pass k).card).sum
      ∧ bin.numPasses
        = passes.countP fun pass => (r.acceptedIn pass k).Nonempty)
    ∧ (report.bins.toList.map fun entry => entry.2.numObs).sum
      = (passes.map fun pass => (r.accepted pass).card).sum := by
  have known := bins_of_run h
  refine ⟨?_, ?_, ?_⟩
  · intro k
    rw [(known k).1]
    refine exists_congr fun pass => and_congr_right fun _ => ?_
    exact exists_congr fun p => mem_acceptedIn
  · intro k bin hbin
    obtain ⟨index, numObs, numPasses⟩ := (known k).2 bin hbin
    refine ⟨index, fun zero => ?_, numObs, numPasses⟩
    obtain ⟨pass, hp, spots⟩ :=
      (known k).1.mp (Std.ExtTreeMap.mem_iff_isSome_getElem?.mpr
        (by rw [hbin, Option.isSome_some]))
    rw [numObs, List.sum_eq_zero_iff_forall_eq_nat] at zero
    refine Finset.card_ne_zero.mpr spots (zero _ ?_)
    exact List.mem_map_of_mem hp
  · have covers : ∀ pass ∈ passes, ∀ k, (r.acceptedIn pass k).Nonempty →
        k ∈ report.bins.keys.toFinset := by
      intro pass hp k spots
      rw [List.mem_toFinset, Std.ExtTreeMap.mem_keys]
      exact (known k).1.mpr ⟨pass, hp, spots⟩
    rw [← sum_card_accepted covers,
      List.sum_toFinset _ Std.ExtTreeMap.nodup_keys,
      ← Std.ExtTreeMap.map_fst_toList_eq_keys, List.map_map]
    refine congrArg List.sum (List.map_congr_left ?_)
    rintro ⟨k, bin⟩ hmem
    rw [Std.ExtTreeMap.mem_toList_iff_getElem?_eq_some] at hmem
    exact ((known k).2 bin hmem).2.1

/-- The extrema of a variable on two rows, four points a pixel, merged by
shards. -/
def coarse : Reducer Float :=
  ⟨["a"], 2, true, ⟨extremaPanel, .regular twoRows, none⟩⟩

/-- Two pixels of which the mask lets the first pass. -/
def maskedPass : Pass Float :=
  ⟨"p", ObservationStream.maskedPair, none⟩

/-- The points of the first pixel are counted, once for each pass. -/
theorem run_counts_maskedPass : ∃ report,
    coarse.run [maskedPass, maskedPass] false = .ok report
    ∧ (report.bins.toList.map fun entry => entry.2.numObs).sum = 8 := by
  have isOk : (coarse.run [maskedPass, maskedPass] false).toBool = true := by
    decide +kernel
  cases h : coarse.run [maskedPass, maskedPass] false with
  | error e =>
      rw [h] at isOk
      cases isOk
  | ok report =>
      obtain ⟨-, -, total⟩ := run_counts_accepted h
      have spots : (coarse.accepted maskedPass).card = 4 := by
        decide +kernel
      refine ⟨report, rfl, ?_⟩
      rw [total, List.map_cons, List.map_cons, List.map_nil, spots]
      rfl

end Reducer

end EarthBins
