/-
The bins of a run, one by one.

The merge sorts the completed bins of passes into groups by number and folds
every group on its own. An output bin is what the completed bins of its
number make of it, in the order in which they come, starting from an empty
storage (`Panel.outputBinOf`). It makes no difference whether completed bins
are delivered one by one or many at a time, and those without observations
might as well not be delivered.

Bins are finished one after the other and put into a map, so the order in
which they are picked makes no difference either.
-/
import EarthBins.Proofs.Binning.Features

namespace EarthBins

open Outcome

variable {α : Type} [Scalar α]

-- ============================================================ deliveries

/-- What a merge is fed at a time. -/
inductive Delivery (α : Type) where
  /-- One completed bin. -/
  | one (bin : PassBin α)
  /-- Several of them, in order. -/
  | several (bins : List (PassBin α))

namespace Delivery

omit [Scalar α] in
/-- The completed bins of a delivery. -/
def bins : Delivery α → List (PassBin α)
  | one bin => [bin]
  | several bins => bins

end Delivery

omit [Scalar α] in
/-- The completed bins that have observations. -/
def counting (bins : List (PassBin α)) : List (PassBin α) :=
  bins.filter fun bin => 0 < bin.numObs

namespace RunBinner

variable (panel : Panel α)

/-- Fold a delivery. -/
def receive (b : RunBinner α) : Delivery α → Except Error (RunBinner α)
  | .one bin => b.add panel bin
  | .several bins => b.addAll panel bins

/-- Finish the entries of a map and put them into a map of output bins. -/
def finishEntries (entries : List (Nat × Scratch α × RunBin α)) :
    Except Error (OutputMap α) := do
  let outputs ← entries.mapM fun (index, entry) =>
    return (index, ← finishBin panel entry)
  return Std.ExtTreeMap.ofList outputs

variable {panel}

/-- Deliveries are folded as their completed bins are on end. -/
theorem foldlM_receive (deliveries : List (Delivery α)) (b : RunBinner α) :
    deliveries.foldlM (receive panel) b
      = b.addAll panel (deliveries.flatMap (·.bins)) := by
  have same : receive panel = fun b d => b.addAll panel d.bins := by
    funext b d
    cases d with
    | one bin =>
        show b.add panel bin = b.add panel bin >>= fun b => pure b
        exact (bind_pure _).symm
    | several bins => rfl
  rw [same, ← List.foldlM_map, foldlM_addAll]
  rfl

/-- Completed bins without observations leave no trace. -/
theorem addAll_counting (bins : List (PassBin α)) (b : RunBinner α) :
    b.addAll panel (counting bins) = b.addAll panel bins := by
  unfold counting
  induction bins generalizing b with
  | nil => rfl
  | cons bin bins ih =>
      by_cases counts : 0 < bin.numObs
      · rw [List.filter_cons_of_pos (by simpa using counts)]
        exact bind_congr ih
      · have skipped : b.add panel bin = .ok b :=
          if_pos (Nat.eq_zero_of_not_pos counts)
        rw [List.filter_cons_of_neg (by simpa using counts), ih]
        show _ = b.add panel bin >>= fun b => b.addAll panel bins
        rw [skipped, ok_bind]

end RunBinner

-- ========================================================== output bins

omit [Scalar α] in
/-- The completed bins of a number that have observations, in order. -/
def countedIn (k : Nat) (bins : List (PassBin α)) : List (PassBin α) :=
  bins.filter fun bin => 0 < bin.numObs ∧ bin.index = k

/-- The output bin that some completed bins make without any other: a new
one that they are folded into, completed, and its output. -/
def Panel.outputBinOf (p : Panel α) (k : Nat) (bins : List (PassBin α)) :
    Except Error (OutputBin α) := do
  let fresh ← p.createRunBin (Scratch.empty k)
  let (scratch, bin) ← bins.foldlM
    (fun entry pass => p.addPass pass entry.1 entry.2) fresh
  let (_, bin) ← p.completeRunBin scratch bin
  p.output bin

/-- What the output bins of some completed bins are: one for each number
that has a completed bin with observations, and each has counted the
observations and the completed bins of its number and is what they make. -/
structure Panel.Merges (p : Panel α) (bins : List (PassBin α))
    (m : OutputMap α) : Prop where
  mem_iff : ∀ k, k ∈ m ↔ ∃ bin ∈ bins, 0 < bin.numObs ∧ bin.index = k
  index : ∀ (k : Nat) (out : OutputBin α), m[k]? = some out → out.index = k
  numObs : ∀ (k : Nat) (out : OutputBin α), m[k]? = some out →
    out.numObs = ((countedIn k bins).map (·.numObs)).sum
  numPasses : ∀ (k : Nat) (out : OutputBin α), m[k]? = some out →
    out.numPasses = (countedIn k bins).length
  alone : ∀ (k : Nat) (out : OutputBin α), m[k]? = some out →
    p.outputBinOf k (countedIn k bins) = .ok out

/-- The members of a number are its completed bins with observations. -/
theorem members_runRule (panel : Panel α) (k : Nat)
    (bins : List (PassBin α)) :
    (runRule panel).members k bins = countedIn k bins := by
  refine List.filter_congr fun bin _ => decide_eq_decide.mpr ?_
  rw [runRule_key_eq_some, Nat.pos_iff_ne_zero]

variable {panel : Panel α} {bins : List (PassBin α)} {m : OutputMap α}

/-- An output bin is what the completed bins of its number make alone. -/
theorem outputBinOf_of_mergePasses (h : mergePasses panel bins = .ok m)
    {k : Nat} {out : OutputBin α} (hout : m[k]? = some out) :
    panel.outputBinOf k (countedIn k bins) = .ok out := by
  obtain ⟨o, group, finished⟩ :=
    bind_eq_ok.mp ((mergePasses_tabulates panel bins).entries h k)
  rw [hout] at finished
  cases o with
  | none => cases finished
  | some entry =>
      obtain ⟨out', finished, same⟩ := map_eq_ok.mp finished
      cases same
      obtain ⟨fresh, created, folded⟩ :=
        GroupRule.foldlM_members_of_groupOf group
      rw [members_runRule] at folded
      have created : panel.createRunBin (Scratch.empty k) = .ok fresh :=
        created
      have folded : (countedIn k bins).foldlM
          (fun entry pass => panel.addPass pass entry.1 entry.2) fresh
          = .ok entry :=
        folded
      rw [Panel.outputBinOf, created, ok_bind, folded]
      exact finished

/-- Merged bins are those of the groups of the completed bins. -/
theorem merges_of_mergePasses [LawfulIndex α]
    (h : mergePasses panel bins = .ok m) : panel.Merges bins m where
  mem_iff k := by
    rw [(output_of_mergePasses h k).1, members_runRule]
    simp [countedIn]
  index k out hout := ((output_of_mergePasses h k).2 out hout).1
  numObs k out hout := by
    rw [((output_of_mergePasses h k).2 out hout).2.1, members_runRule]
  numPasses k out hout := by
    rw [((output_of_mergePasses h k).2 out hout).2.2, members_runRule]
  alone k out hout := outputBinOf_of_mergePasses h hout

/-- The entries of a merge may be finished in any order. -/
theorem RunBinner.finishEntries_perm {b : RunBinner α}
    (h : b.finish panel = .ok m)
    {entries : List (Nat × Scratch α × RunBin α)}
    (perm : entries.Perm b.bins.toList) :
    finishEntries panel entries = .ok m := by
  obtain ⟨outs, houts, made⟩ := bind_eq_ok.mp h
  cases made
  obtain ⟨outs', houts', perm'⟩ := mapM_perm perm houts
  have keys : outs.map Prod.fst = b.bins.keys := by
    rw [← Std.ExtTreeMap.map_fst_toList_eq_keys]
    refine map_of_mapM houts fun entry _ out hout => ?_
    obtain ⟨d, -, same⟩ := bind_eq_ok.mp hout
    cases same
    rfl
  have distinct : (outs.map Prod.fst).Nodup :=
    keys ▸ Std.ExtTreeMap.nodup_keys
  rw [finishEntries, houts', ok_bind, ofList_perm perm' distinct]
  rfl

/-- Merging completed bins groups them by number and folds every group on
its own, however they are delivered. Completed bins without observations
leave no trace, and the entries of the map may be finished in any order. -/
theorem merge_groups (panel : Panel Float) {deliveries : List (Delivery Float)}
    (wide : ∀ bin ∈ deliveries.flatMap (·.bins), 0 < bin.numObs →
      panel.totalWidth .spatial ≤ bin.features.length) :
    ∃ b m, deliveries.foldlM (RunBinner.receive panel) .empty = .ok b
      ∧ b.finish panel = .ok m
      ∧ panel.Merges (deliveries.flatMap (·.bins)) m
      ∧ (∀ deliveries' : List (Delivery Float),
        counting (deliveries'.flatMap (·.bins))
            = counting (deliveries.flatMap (·.bins)) →
          deliveries'.foldlM (RunBinner.receive panel) .empty = .ok b)
      ∧ ∀ entries, List.Perm entries b.bins.toList →
        RunBinner.finishEntries panel entries = .ok m := by
  obtain ⟨m, hm⟩ := (mergePasses_tabulates panel _).isOk
    (outputOf_isOk panel fun bin hbin counts =>
      wide bin hbin (Nat.pos_of_ne_zero counts))
  obtain ⟨b, hb, finished⟩ := bind_eq_ok.mp hm
  refine ⟨b, m, ?_, finished, merges_of_mergePasses hm, ?_, ?_⟩
  · rw [RunBinner.foldlM_receive, hb]
  · intro deliveries' same
    rw [RunBinner.foldlM_receive, ← RunBinner.addAll_counting, same,
      RunBinner.addAll_counting, hb]
  · intro entries perm
    exact RunBinner.finishEntries_perm finished perm

/-- A completed bin alone, then three at a time, one of which is empty. -/
def mixedDeliveries : List (Delivery Float) :=
  [.one ⟨3, 1, [1, 2]⟩, .several [⟨4, 2, [0, 5]⟩, ⟨5, 0, []⟩, ⟨3, 1, [-1, 7]⟩]]

/-- The empty bin has no output bin, and the one that came twice has both
passes. -/
theorem merge_groups_mixed :
    (∀ bin ∈ mixedDeliveries.flatMap (·.bins), 0 < bin.numObs →
      extremaPanel.totalWidth .spatial ≤ bin.features.length)
    ∧ ∃ b m, mixedDeliveries.foldlM (RunBinner.receive extremaPanel) .empty
        = .ok b
      ∧ b.finish extremaPanel = .ok m
      ∧ extremaPanel.Merges (mixedDeliveries.flatMap (·.bins)) m
      ∧ 5 ∉ m ∧ ∃ out ∈ m[3]?, out.numObs = 2 ∧ out.numPasses = 2 := by
  have wide : ∀ bin ∈ mixedDeliveries.flatMap (·.bins), 0 < bin.numObs →
      extremaPanel.totalWidth .spatial ≤ bin.features.length := by
    decide +kernel
  obtain ⟨b, m, hb, hm, merges, -, -⟩ := merge_groups extremaPanel wide
  refine ⟨wide, b, m, hb, hm, merges, ?_, ?_⟩
  · rw [merges.mem_iff]
    decide
  · have here : 3 ∈ m := (merges.mem_iff 3).mpr (by decide)
    obtain ⟨out, hout⟩ := Option.isSome_iff_exists.mp
      (Std.ExtTreeMap.mem_iff_isSome_getElem?.mp here)
    exact ⟨out, hout, merges.numObs 3 out hout, merges.numPasses 3 out hout⟩

end EarthBins
