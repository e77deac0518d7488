/-
Runs do not depend on the order of passes or of observations.

What a bin gets of reordered passes are the sample vectors that it got
before, reordered (`passesAt_reordered`). So it has counted the same, and
each statistic goes through its cycle with reordered samples.
-/
import EarthBins.Proofs.Binning.PassBins
import EarthBins.Proofs.Statistic.Reordering

namespace EarthBins

open Scalar Outcome

variable {α : Type} [Scalar α]

/-- Output maps with the same bins, each with the same counts. -/
def OutputMap.SameCounts (m m' : OutputMap α) : Prop :=
  ∀ k : Nat, (m[k]?.map fun out => (out.index, out.numObs, out.numPasses))
    = m'[k]?.map fun out => (out.index, out.numObs, out.numPasses)

namespace BinningRule

variable {rule : BinningRule α} {passes passes' : List (List (Observation α))}

/-- The sample vectors of the observations of a pass in a bin. -/
def vectorsAt (rule : BinningRule α) (k : Nat)
    (observations : List (Observation α)) : List (List α) :=
  ((passRule rule).members k observations).map (·.samples)

omit [Scalar α] in
theorem fits_reordered (fits : rule.Fits passes)
    (reordered : Reordered passes passes') : rule.Fits passes' := by
  intro observations hobs o ho
  have here := reordered.flatten_perm.mem_iff.mpr
    (List.mem_flatten_of_mem hobs ho)
  obtain ⟨before, hbefore, ho⟩ := List.mem_flatten.mp here
  exact fits before hbefore o ho

theorem map_samples_passesAt (rule : BinningRule α) (k : Nat)
    (passes : List (List (Observation α))) :
    (rule.passesAt k passes).map (·.samples)
      = (passes.map (rule.vectorsAt k)).filter fun v => !v.isEmpty := by
  rw [passesAt, List.filter_map, List.map_map, List.filter_map]
  refine congrArg (List.map _) (List.filter_congr fun observations _ => ?_)
  show (((passRule rule).members k observations).length != 0)
    = !(List.map _ ((passRule rule).members k observations)).isEmpty
  cases (passRule rule).members k observations <;> rfl

theorem map_numObs_passesAt (rule : BinningRule α) (k : Nat)
    (passes : List (List (Observation α))) :
    (rule.passesAt k passes).map (·.numObs)
      = ((rule.passesAt k passes).map (·.samples)).map List.length := by
  rw [List.map_map]
  refine List.map_congr_left fun pass hpass => ?_
  obtain ⟨observations, -, rfl⟩ :=
    List.mem_map.mp (List.mem_filter.mp hpass).1
  exact (List.length_map _).symm

/-- A bin gets the same of reordered passes, in another order. -/
theorem passesAt_reordered (reordered : Reordered passes passes') (k : Nat) :
    Reordered ((rule.passesAt k passes).map (·.samples))
      ((rule.passesAt k passes').map (·.samples)) := by
  rw [map_samples_passesAt, map_samples_passesAt]
  refine (reordered.map fun perm => ?_).filter fun perm => ?_
  · exact (perm.filter _).map _
  · rw [perm.isEmpty_eq]

/-- The sample vectors of the observations of some passes in a bin. -/
def vectorsIn (rule : BinningRule α) (k : Nat)
    (passes : List (List (Observation α))) : List (List α) :=
  passes.flatMap (rule.vectorsAt k)

theorem flatMap_samples_passesAt (rule : BinningRule α) (k : Nat)
    (passes : List (List (Observation α))) :
    (rule.passesAt k passes).flatMap (·.samples) = rule.vectorsIn k passes := by
  rw [List.flatMap_def, map_samples_passesAt,
    List.flatten_filter_not_isEmpty, ← List.flatMap_def]
  rfl

/-- What a bin gets has all the samples that a statistic reads. -/
theorem fits_passesAt (fits : rule.Fits passes) {x : Statistic α}
    (hx : x ∈ rule.panel.statistics) (k : Nat) :
    x.Fits (rule.passesAt k passes) := by
  intro pass hpass samples hsamples
  obtain ⟨observations, hobs, rfl⟩ :=
    List.mem_map.mp (List.mem_filter.mp hpass).1
  obtain ⟨o, ho, rfl⟩ := List.mem_map.mp hsamples
  exact fits observations hobs o (List.mem_filter.mp ho).1 x hx

/-- Reordered passes make the same output bins, with the same counts. -/
theorem sameCounts_of_reordered [LawfulIndex α] (fits : rule.Fits passes)
    (reordered : Reordered passes passes') {m m' : OutputMap α}
    (h : rule.run passes = .ok m) (h' : rule.run passes' = .ok m') :
    m.SameCounts m' := by
  intro k
  have counted : ((rule.passesAt k passes).map (·.numObs)).Perm
      ((rule.passesAt k passes').map (·.numObs)) := by
    rw [map_numObs_passesAt, map_numObs_passesAt]
    exact (passesAt_reordered reordered k).map_perm fun perm => perm.length_eq
  have number : (rule.passesAt k passes).length
      = (rule.passesAt k passes').length := by
    simpa using counted.length_eq
  obtain ⟨present, counts⟩ := counts_of_run fits h k
  obtain ⟨present', counts'⟩ :=
    counts_of_run (fits_reordered fits reordered) h' k
  have both : k ∈ m ↔ k ∈ m' := by
    rw [present, present', ne_eq, ne_eq, ← List.length_eq_zero_iff,
      ← List.length_eq_zero_iff, number]
  rw [Std.ExtTreeMap.mem_iff_isSome_getElem?,
    Std.ExtTreeMap.mem_iff_isSome_getElem?] at both
  cases found : m[k]? with
  | none =>
      rw [found] at both
      have absent : m'[k]? = none :=
        Option.not_isSome_iff_eq_none.mp fun here => nomatch both.mpr here
      rw [absent]
  | some out =>
      rw [found] at both
      obtain ⟨out', found'⟩ := Option.isSome_iff_exists.mp (both.mp rfl)
      obtain ⟨index, numObs, numPasses⟩ := counts out found
      obtain ⟨index', numObs', numPasses'⟩ := counts' out' found'
      rw [found', Option.map_some, Option.map_some, index, index', numObs,
        numObs', numPasses, numPasses', counted.sum_eq, number]

/-- A statistic computed without rounding has the same part in the output
bins of reordered passes, as far as it is settled, and the same first
feature. -/
theorem part_of_reordered {rule : BinningRule Exact}
    {passes passes' : List (List (Observation Exact))}
    (fits : rule.Fits passes) (reordered : Reordered passes passes')
    {m m' : OutputMap Exact} (h : rule.run passes = .ok m)
    (h' : rule.run passes' = .ok m') {k : Nat} {out out' : OutputBin Exact}
    (hout : m[k]? = some out) (hout' : m'[k]? = some out')
    {before after : List (Statistic Exact)} {x : Statistic Exact}
    (whole : rule.panel.statistics = before ++ x :: after) :
    (partAt .output before x out.features).head?
      = (partAt .output before x out'.features).head?
    ∧ (x.Settled (rule.vectorsIn k passes) →
      partAt .output before x out.features
        = partAt .output before x out'.features) := by
  have fits' := fits_reordered fits reordered
  have here : x ∈ rule.panel.statistics := by simp [whole]
  obtain ⟨key, settled⟩ := x.cycle_reordered (fits_passesAt fits here k)
    (fits_passesAt fits' here k) (passesAt_reordered reordered k) k
    out.numObs out'.numObs
  rw [flatMap_samples_passesAt] at settled
  rw [cycle_of_run fits h hout whole, cycle_of_run fits' h' hout' whole]
    at key settled
  exact ⟨Except.ok.inj key, fun h => Except.ok.inj (settled h)⟩

/-- Passes, and the observations of each, may come in any order. A run over
observations with all samples succeeds, and reordered passes have the same
output bins with the same counts. Computed without rounding, the output
features of each statistic are the same as well. Of recorded values the key
is, and the payload if the observations in the bin with the largest key have
the same one. -/
theorem run_reordered :
    (∀ (rule : BinningRule Float) (passes passes' : List (List _)),
      rule.Fits passes → Reordered passes passes' →
      ∃ m m', rule.run passes = .ok m ∧ rule.run passes' = .ok m'
        ∧ m.SameCounts m')
    ∧ ∀ (rule : BinningRule Exact) (passes passes' : List (List _)),
      rule.Fits passes → Reordered passes passes' →
      ∃ m m', rule.run passes = .ok m ∧ rule.run passes' = .ok m'
        ∧ m.SameCounts m'
        ∧ ∀ (k : Nat) (out out' : OutputBin Exact),
          m[k]? = some out → m'[k]? = some out' →
          ∀ before x after, rule.panel.statistics = before ++ x :: after →
            match x with
            | .onMax recorded =>
              (partAt .output before x out.features).head?
                = (partAt .output before x out'.features).head?
              ∧ (recorded.Settled (rule.vectorsIn k passes) →
                partAt .output before x out.features
                  = partAt .output before x out'.features)
            | _ => partAt .output before x out.features
                = partAt .output before x out'.features := by
  refine ⟨fun rule passes passes' fits reordered => ?_,
    fun rule passes passes' fits reordered => ?_⟩
  · obtain ⟨m, h⟩ := rule.run_isOk fits
    obtain ⟨m', h'⟩ := rule.run_isOk (fits_reordered fits reordered)
    exact ⟨m, m', h, h', sameCounts_of_reordered fits reordered h h'⟩
  · obtain ⟨m, h⟩ := rule.run_isOk fits
    obtain ⟨m', h'⟩ := rule.run_isOk (fits_reordered fits reordered)
    refine ⟨m, m', h, h', sameCounts_of_reordered fits reordered h h', ?_⟩
    intro k out out' hout hout' before x after whole
    obtain ⟨key, settled⟩ :=
      part_of_reordered fits reordered h h' hout hout' whole
    cases x with
    | onMax recorded => exact ⟨key, settled⟩
    | logNormal a => exact settled trivial
    | average a => exact settled trivial
    | extrema e => exact settled trivial
    | percentile p => exact settled trivial

/-- The average of a variable, and another one recorded where it is
largest, on a grid of two rows. -/
def recording (α : Type) [Scalar α] : BinningRule α where
  panel := {
    statistics := [.average ⟨"a", 0, 1⟩, .onMax ⟨"a", 0, ["b"], [1]⟩]
    nonempty := List.cons_ne_nil _ _
    nodup_output := by
      show ["a_mean", "a_sigma", "a_counts", "a_max", "b"].Nodup
      decide +kernel }
  grid := .regular twoRows
  period := none

/-- Samples at one place. -/
def at10 {α : Type} [Scalar α] (samples : List α) : Observation α :=
  ⟨10, 10, 0, samples⟩

/-- Two passes over one place; the variable is largest in both of them, at
one value of the other. -/
def tied (α : Type) [Scalar α] : List (List (Observation α)) :=
  [[at10 [1, 2], at10 [3, 4]], [at10 [3, 4]]]

/-- The two passes turned around, and the observations in the first. -/
def turned (α : Type) [Scalar α] : List (List (Observation α)) :=
  [[at10 [3, 4]], [at10 [3, 4], at10 [1, 2]]]

theorem turned_reordered (α : Type) [Scalar α] :
    Reordered (tied α) (turned α) :=
  ⟨[[at10 [3, 4], at10 [1, 2]], [at10 [3, 4]]],
    .cons (List.Perm.swap _ _ _) (.cons (List.Perm.refl _) .nil),
    List.Perm.swap _ _ _⟩

theorem fits_tied (α : Type) [Scalar α] : (recording α).Fits (tied α) := by
  simp [Fits, Panel.Enough, recording, tied, at10, Statistic.slots,
    OnMax.slots]

theorem vectorsAt_at10 (α : Type) [Scalar α] (vectors : List (List α)) :
    (recording α).vectorsAt ((recording α).grid.binOf 10 10)
      (vectors.map at10) = vectors := by
  have all : (passRule (recording α)).members
      ((recording α).grid.binOf 10 10) (vectors.map at10)
      = vectors.map at10 := by
    refine List.filter_eq_self.mpr fun o ho => decide_eq_true ?_
    obtain ⟨samples, -, rfl⟩ := List.mem_map.mp ho
    rfl
  rw [vectorsAt, all, List.map_map]
  exact List.map_id vectors

theorem vectorsIn_tied (α : Type) [Scalar α] :
    (recording α).vectorsIn ((recording α).grid.binOf 10 10) (tied α)
      = [[1, 2], [3, 4], [3, 4]] := by
  have first := vectorsAt_at10 α [[1, 2], [3, 4]]
  have second := vectorsAt_at10 α [[3, 4]]
  rw [List.map_cons, List.map_singleton] at first
  rw [List.map_singleton] at second
  rw [vectorsIn, tied, List.flatMap_cons, List.flatMap_singleton, first,
    second]
  rfl

/-- Where the variable is largest there is one value of the other. -/
theorem settled_tied : OnMax.Settled ⟨"a", 0, ["b"], [1]⟩
    ([[1, 2], [3, 4], [3, 4]] : List (List Exact)) := by
  have only {samples : List Exact}
      (here : samples ∈ ([[1, 2], [3, 4], [3, 4]] : List (List Exact)))
      (leads : OnMax.Leads ⟨"a", 0, ["b"], [1]⟩
        [[1, 2], [3, 4], [3, 4]] samples) : samples = [3, 4] := by
    simp only [List.mem_cons, List.not_mem_nil, or_false, or_self] at here
    rcases here with rfl | rfl
    · obtain ⟨key, first, -, highest⟩ := leads
      cases first
      exact absurd (by simp) (highest [3, 4] (by simp) 3 rfl)
    · rfl
  intro samples here samples' here' leads leads' slot hslot
  rw [only here leads, only here' leads']

/-- The passes and the passes turned around have the same features. -/
theorem run_reordered_tied :
    (∃ m m', (recording Float).run (tied Float) = .ok m
      ∧ (recording Float).run (turned Float) = .ok m' ∧ m.SameCounts m')
    ∧ ∃ m m' out out', (recording Exact).run (tied Exact) = .ok m
      ∧ (recording Exact).run (turned Exact) = .ok m'
      ∧ m[(recording Exact).grid.binOf 10 10]? = some out
      ∧ m'[(recording Exact).grid.binOf 10 10]? = some out'
      ∧ out.features.take 3 = out'.features.take 3
      ∧ (out.features.drop 3).take 2 = (out'.features.drop 3).take 2 := by
  refine ⟨run_reordered.1 _ _ _ (fits_tied Float) (turned_reordered Float), ?_⟩
  obtain ⟨m, m', h, h', counts, same⟩ :=
    run_reordered.2 _ _ _ (fits_tied Exact) (turned_reordered Exact)
  have here := (counts_of_run (fits_tied Exact) h
    ((recording Exact).grid.binOf 10 10)).1.mpr (by
      intro none
      have vectors := flatMap_samples_passesAt (recording Exact)
        ((recording Exact).grid.binOf 10 10) (tied Exact)
      rw [none, vectorsIn_tied] at vectors
      cases vectors)
  rw [Std.ExtTreeMap.mem_iff_isSome_getElem?] at here
  obtain ⟨out, hout⟩ := Option.isSome_iff_exists.mp here
  have counted := counts ((recording Exact).grid.binOf 10 10)
  rw [hout] at counted
  obtain ⟨out', hout', -⟩ := Option.map_eq_some_iff.mp counted.symm
  have average := same _ out out' hout hout' [] _ _ rfl
  have recorded := same _ out out' hout hout' [_] _ _ rfl
  rw [vectorsIn_tied] at recorded
  exact ⟨m, m', out, out', h, h', hout, hout', average,
    recorded.2 settled_tied⟩

end BinningRule

end EarthBins
