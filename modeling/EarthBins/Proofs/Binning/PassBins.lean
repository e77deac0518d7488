/-
The bins of a pass, one by one.

Binning the observations of a pass sorts them into groups and folds every
group on its own. A bin is what its own observations make of it, in the
order in which they come, starting from an empty storage
(`Panel.passBinOf`): which other bins there are and how the observations of
all of them take turns leaves no trace in it.

Bins are completed one after the other, and the order in which they are
picked makes no difference, since the completed bins are sorted by number
and no number occurs twice.

# Counters

The binner counts the observations that it has binned and those that it has
dropped. At any moment the bins have counted the former between them
(`PassBinner.Counted`).
-/
import EarthBins.Proofs.Binning.Features

namespace EarthBins

open Outcome

variable {α : Type} [Scalar α]

-- ========================================================== observations

namespace BinningRule

/-- Whether a time is not before the start of the period and before its end;
without a period every time will do. -/
def InPeriod (rule : BinningRule α) (mjd : α) : Prop :=
  ∀ p ∈ rule.period, p.startMjd ≤ mjd ∧ mjd < p.startMjd + p.durationDays

instance (rule : BinningRule α) (mjd : α) : Decidable (rule.InPeriod mjd) :=
  inferInstanceAs (Decidable (∀ p ∈ rule.period, _))

/-- The observations in the period whose position is in a bin, in order. -/
def observationsIn (rule : BinningRule α) (k : Nat)
    (observations : List (Observation α)) : List (Observation α) :=
  observations.filter fun o =>
    rule.InPeriod o.mjd ∧ rule.grid.binOf o.lat o.lon = k

theorem accepts_iff {rule : BinningRule α} {mjd : α} :
    rule.accepts mjd = true ↔ rule.InPeriod mjd := by
  unfold accepts InPeriod
  cases rule.period with
  | none => simp
  | some p =>
      rw [Option.all_some, Period.contains, Bool.and_eq_true,
        decide_eq_true_iff, decide_eq_true_iff]
      simp [Period.endMjd]

/-- The members of a number are the observations in its bin. -/
theorem members_passRule (rule : BinningRule α) (k : Nat)
    (observations : List (Observation α)) :
    (passRule rule).members k observations
      = rule.observationsIn k observations := by
  refine List.filter_congr fun o _ => decide_eq_decide.mpr ?_
  show (if rule.accepts o.mjd = true then _ else none) = some k ↔ _
  rw [← accepts_iff]
  by_cases accepted : rule.accepts o.mjd = true
  · simp [accepted]
  · simp [accepted]

end BinningRule

/-- The bin that some observations make without any other: a new one that
they are folded into, completed. -/
def Panel.passBinOf (p : Panel α) (k : Nat)
    (observations : List (Observation α)) : Except Error (PassBin α) := do
  let fresh ← p.createPassBin (Scratch.empty k)
  let (scratch, bin) ← observations.foldlM
    (fun entry o => p.observe o.samples entry.1 entry.2) fresh
  Prod.snd <$> p.completePassBin scratch bin

/-- What the completed bins of some observations are: one for each number
with an observation in the period, in the order of the numbers, and each is
what its own observations make. -/
structure BinningRule.Groups (rule : BinningRule α)
    (observations : List (Observation α)) (bins : List (PassBin α)) :
    Prop where
  ascending : bins.Pairwise fun a b => a.index < b.index
  exists_iff : ∀ k, (∃ bin ∈ bins, bin.index = k) ↔
    ∃ o ∈ observations, rule.InPeriod o.mjd
      ∧ rule.grid.binOf o.lat o.lon = k
  numObs : ∀ bin ∈ bins,
    bin.numObs = (rule.observationsIn bin.index observations).length
  alone : ∀ bin ∈ bins, rule.panel.passBinOf bin.index
    (rule.observationsIn bin.index observations) = .ok bin

/-- Whether the counters of a binner are right after a number of
observations. -/
structure PassBinner.Counted (b : PassBinner α) (fed : Nat) : Prop where
  binned : b.numBinned = (b.bins.toList.map fun e => e.2.2.numObs).sum
  fed : b.numBinned + b.numOutside = fed

-- ============================================================= one order

/-- Completing an entry of the map. -/
def PassBinner.completeEntry (rule : BinningRule α)
    (entry : Nat × Scratch α × PassBin α) : Except Error (PassBin α) :=
  Prod.snd <$> rule.panel.completePassBin entry.2.1 entry.2.2

omit [Scalar α] in
/-- Bins whose numbers ascend are put back in order by sorting. -/
theorem eq_of_perm_of_ascending {bins sorted : List (PassBin α)}
    (ascending : bins.Pairwise fun a b => a.index < b.index)
    (perm : sorted.Perm bins)
    (inOrder : sorted.Pairwise fun a b => a.index ≤ b.index) :
    sorted = bins := by
  have distinct : (bins.map (·.index)).Nodup := by
    rw [List.nodup_iff_pairwise_ne, List.pairwise_map]
    exact ascending.imp Nat.ne_of_lt
  refine perm.eq_of_pairwise ?_ inOrder (ascending.imp Nat.le_of_lt)
  intro a b ha hb le ge
  exact List.inj_on_of_nodup_map distinct (perm.subset ha) hb
    (Nat.le_antisymm le ge)

-- =============================================================== a pass

section Pass

variable {rule : BinningRule α} {observations : List (Observation α)}
  {b : PassBinner α}

/-- An entry of the map, completed, is what its observations make alone. -/
theorem passBinOf_of_entry {k : Nat}
    (h : PassBinner.empty.addAll rule observations = .ok b)
    {entry : Scratch α × PassBin α} (hentry : b.bins[k]? = some entry)
    {bin : PassBin α}
    (hbin : PassBinner.completeEntry rule (k, entry) = .ok bin) :
    rule.panel.passBinOf k (rule.observationsIn k observations)
      = .ok bin := by
  have group := PassBinner.groupOf_of_addAll h k
  rw [hentry] at group
  obtain ⟨fresh, created, folded⟩ :=
    GroupRule.foldlM_members_of_groupOf group
  rw [BinningRule.members_passRule] at folded
  have created : rule.panel.createPassBin (Scratch.empty k) = .ok fresh :=
    created
  have folded : (rule.observationsIn k observations).foldlM
      (fun entry o => rule.panel.observe o.samples entry.1 entry.2) fresh
      = .ok entry :=
    folded
  rw [Panel.passBinOf, created, ok_bind, folded]
  exact hbin

variable [LawfulIndex α]

/-- Completed bins are those of the groups of the observations. -/
theorem groups_of_complete
    (h : PassBinner.empty.addAll rule observations = .ok b)
    {bins : List (PassBin α)} (hbins : b.complete rule = .ok bins) :
    rule.Groups observations bins := by
  have shown := PassBinner.map_complete h hbins
  have indexes : bins.map (·.index) = b.bins.keys := by
    have first := congrArg (List.map Prod.fst) shown
    rw [List.map_map, List.map_map] at first
    exact first.trans (List.map_id _)
  have present (k : Nat) : k ∈ b.bins ↔
      ∃ o ∈ observations, rule.InPeriod o.mjd
        ∧ rule.grid.binOf o.lat o.lon = k := by
    rw [(PassBinner.entry_of_addAll h k).1, BinningRule.members_passRule]
    simp [BinningRule.observationsIn]
  refine ⟨?_, ?_, ?_, ?_⟩
  · have ordered := Std.ExtTreeMap.ordered_keys (t := b.bins)
    rw [← indexes, List.pairwise_map] at ordered
    exact ordered.imp Nat.compare_eq_lt.mp
  · intro k
    rw [← present, ← Std.ExtTreeMap.mem_keys, ← indexes, List.mem_map]
  · intro bin hbin
    have here : (bin.index, bin.numObs)
        ∈ bins.map fun bin => (bin.index, bin.numObs) :=
      List.mem_map_of_mem hbin
    rw [shown] at here
    obtain ⟨k, -, same⟩ := List.mem_map.mp here
    obtain ⟨rfl, count⟩ := Prod.mk.inj same
    rw [← count, BinningRule.members_passRule]
  · intro bin hbin
    obtain ⟨⟨k, entry⟩, hentry, completed⟩ := exists_of_mem_mapM hbins hbin
    rw [Std.ExtTreeMap.mem_toList_iff_getElem?_eq_some] at hentry
    obtain ⟨⟨s, bin'⟩, done, rfl⟩ := map_eq_ok.mp completed
    have index : bin'.index = k :=
      (Panel.completePassBin_eq_ok done).1.trans
        ((PassBinner.entry_of_addAll h k).2 entry hentry).1
    rw [index]
    exact passBinOf_of_entry h hentry completed

/-- The counters are right after every observation. -/
theorem counted_of_addAll
    (h : PassBinner.empty.addAll rule observations = .ok b) :
    b.Counted observations.length := by
  obtain ⟨binned, fed⟩ := PassBinner.counts_of_addAll h
  refine ⟨?_, ?_⟩
  · have entries : (b.bins.toList.map fun e => e.2.2.numObs)
        = b.bins.keys.map fun k =>
            ((passRule rule).members k observations).length := by
      rw [← Std.ExtTreeMap.map_fst_toList_eq_keys, List.map_map]
      refine List.map_congr_left ?_
      rintro ⟨k, entry⟩ hentry
      rw [Std.ExtTreeMap.mem_toList_iff_getElem?_eq_some] at hentry
      exact ((PassBinner.entry_of_addAll h k).2 entry hentry).2
    have covers (k : Nat) : k ∈ b.bins.keys ↔
        (passRule rule).members k observations ≠ [] := by
      rw [Std.ExtTreeMap.mem_keys]
      exact (PassBinner.entry_of_addAll h k).1
    rw [binned, entries,
      GroupRule.sum_length_members Std.ExtTreeMap.nodup_keys covers]
    exact Nat.zero_add _
  · rw [fed]
    exact Nat.zero_add _

end Pass

/-- Binning the observations of a pass groups them by bin and folds every
group on its own. The entries of the map may be completed in any order. The
counters are right at every moment. -/
theorem binPass_groups (rule : BinningRule Float)
    {observations : List (Observation Float)}
    (enough : ∀ o ∈ observations, rule.panel.Enough o.samples) :
    ∃ b bins, PassBinner.empty.addAll rule observations = .ok b
      ∧ b.complete rule = .ok bins
      ∧ rule.Groups observations bins
      ∧ (∀ entries, List.Perm entries b.bins.toList →
        ∃ done, entries.mapM (PassBinner.completeEntry rule) = .ok done
          ∧ ∀ sorted, sorted.Perm done →
            sorted.Pairwise (fun a b => a.index ≤ b.index) → sorted = bins)
      ∧ ∀ fed rest, observations = fed ++ rest →
        ∃ mid, PassBinner.empty.addAll rule fed = .ok mid
          ∧ mid.addAll rule rest = .ok b ∧ mid.Counted fed.length := by
  obtain ⟨b, hb, wide⟩ := PassBinner.addAll_isOk enough
  obtain ⟨bins, hbins⟩ := PassBinner.complete_isOk wide
  have groups := groups_of_complete hb hbins
  refine ⟨b, bins, hb, hbins, groups, ?_, ?_⟩
  · intro entries perm
    obtain ⟨done, hdone, same⟩ := mapM_perm perm hbins
    refine ⟨done, hdone, fun sorted perm' inOrder => ?_⟩
    exact eq_of_perm_of_ascending groups.ascending (perm'.trans same) inOrder
  · rintro fed rest rfl
    rw [PassBinner.addAll, List.foldlM_append] at hb
    obtain ⟨mid, hmid, hrest⟩ := bind_eq_ok.mp hb
    exact ⟨mid, hmid, hrest, counted_of_addAll hmid⟩

/-- The grid with a row for each hemisphere. -/
def twoRows : RegularGrid :=
  ⟨2, rfl, Nat.le_refl 2⟩

/-- The extrema of a variable on two rows, over ten days. -/
def tenDays : BinningRule Float :=
  ⟨extremaPanel, .regular twoRows, some ⟨50, 10⟩⟩

/-- Two bins in turns, among them an observation of a third bin when the
period has just ended. -/
def inTurns : List (Observation Float) :=
  [⟨45, 0, 50, [3]⟩, ⟨-45, 100, 51, [7]⟩, ⟨45, 0, 59, [5]⟩,
    ⟨45, 100, 60, [9]⟩, ⟨-45, 100, 52, [Scalar.nan]⟩]

/-- Both bins have two observations each, and the third bin is not there. -/
theorem binPass_groups_inTurns :
    (∀ o ∈ inTurns, tenDays.panel.Enough o.samples)
    ∧ ∃ b bins, PassBinner.empty.addAll tenDays inTurns = .ok b
      ∧ b.complete tenDays = .ok bins
      ∧ tenDays.Groups inTurns bins ∧ b.Counted 5
      ∧ bins.map (fun bin => (bin.index, bin.numObs)) = [(2, 2), (7, 2)] := by
  have enough : ∀ o ∈ inTurns, tenDays.panel.Enough o.samples := by
    unfold Panel.Enough
    decide
  have counts : (tenDays.binPass inTurns).toOption.map
      (·.map fun bin => (bin.index, bin.numObs))
        = some [(2, 2), (7, 2)] := by
    decide +kernel
  obtain ⟨b, bins, hb, hbins, groups, -, moments⟩ :=
    binPass_groups tenDays enough
  obtain ⟨last, hlast, -, counted⟩ :=
    moments inTurns [] (List.append_nil _).symm
  cases hb.symm.trans hlast
  have made : tenDays.binPass inTurns = .ok bins :=
    bind_eq_ok.mpr ⟨b, hb, hbins⟩
  rw [made] at counts
  exact ⟨enough, b, bins, hb, hbins, groups, counted, Option.some.inj counts⟩

end EarthBins
