/-
Two statistics that keep the same mean of a pass.

An average counts the samples of a pass in its vector, by adding one to a
64-bit number; a percentile counts them in the storage, in whole numbers, and
takes the count out in the end. As long as the count has at most 53 bits both
are the same number (`Sums.foldl_add`), so the two means are quotients of the
same numbers (`Average.sum_completed`). Samples may be any numbers: sums that
overflow or turn to NaN do so in both.

# Passed over

A run of either statistic passes over some passes (`Phases.PassesOver`). The
average asks for a mean and for a count, the percentile for a mean only. This
is the same, since a completed pass without a count has no mean
(`Average.phases_addPass_eq`). That a pass is not passed over shows in the
number of samples of a fresh run and in an empty list of means: both grow.
-/
import EarthBins.Proofs.Scalar.Counting
import EarthBins.Proofs.Scalar.Signs
import EarthBins.Proofs.Statistic.PassMeans

namespace EarthBins

open Scalar Outcome

variable {α : Type}

-- ============================================================ the counts

/-- A count that is kept in a 64-bit number is the number of the values. -/
theorem Sums.foldl_add {xs : List Float} (few : xs.length < 2 ^ 53) :
    xs.foldl Sums.add Sums.zero
      = ⟨xs.foldl (· + ·) 0, xs.foldl (fun squares x => squares + x * x) 0,
        ofNat xs.length⟩ := by
  induction xs using List.reverseRecOn with
  | nil => rfl
  | append_singleton xs x ih =>
      rw [List.length_append] at few
      have counted : (ofNat xs.length + 1 : Float)
          = ofNat (xs.length + 1) := Binary64.ofNat_add few
      rw [List.foldl_append, ih (Nat.lt_of_succ_lt few),
        List.foldl_append, List.foldl_append, List.length_append]
      simp only [List.foldl_cons, List.foldl_nil, List.length_singleton,
        ← counted]
      rfl

-- ============================================================== one pass

namespace Average

/-- Whatever a storage holds, a pass leaves it alone, and the means of its
samples that are not NaN in the slots. -/
theorem runPass_eq [Scalar α] (a : Average α) {pass : PassSamples α}
    (enough : ∀ samples ∈ pass.samples, a.slot < samples.length)
    (s : Scratch α) {v : FeatureVector α} (hv : v.length = 3) :
    a.phases.runPass pass s v
      = .ok (s, (completed ((pass.samples.filterMap (usable a.slot)).foldl
          Sums.add .zero)).vector) := by
  obtain ⟨x, y, z, rfl⟩ := List.length_eq_three.mp hv
  -- the sums go along in the slots
  have folded := a.phases.runSamples_of_step (usable a.slot) Sums.add
    (fun m => (s, m.vector)) .zero (s := s) (v := [x, y, z]) rfl
    fun samples hsamples m =>
      Phase.ofVector_eq_ok (a.observe_eq (enough samples hsamples) m) s
  rw [Phases.runPass_eq_bind, folded, ok_bind]
  exact Phase.ofVector_eq_ok (completeSpatial_eq _) s

/-- The mean that the sums of a pass are turned into is the one that a
percentile collects. -/
theorem sum_completed (slot : Nat) {pass : PassSamples Float}
    (few : (pass.samples.filterMap (usable slot)).length < 2 ^ 53) :
    (completed ((pass.samples.filterMap (usable slot)).foldl Sums.add
        .zero)).sum = (Percentile.mean? slot pass).getD nan := by
  rw [Percentile.mean?, Sums.foldl_add few]
  cases h : pass.samples.filterMap (usable slot) with
  | nil => exact congrArg Sums.sum completed_zero
  | cons x xs =>
      have positive : (0 : Float) < ofNat (x :: xs).length :=
        SignedScalar.ofNat_pos (Nat.succ_pos _)
      rw [completed, if_pos positive]
      rfl

theorem count_completed [Scalar α] (m : Sums α) :
    (completed m).count = m.count := by
  unfold completed
  split
  · rfl
  · rfl

/-- Sums with a mean have a count. -/
theorem count_pos [Scalar α] [LawfulScalar α] {m : Sums α}
    (number : isNaN (completed m).sum = false) :
    0 < (completed m).count := by
  by_contra none
  rw [count_completed] at none
  rw [completed, if_neg none] at number
  exact absurd LawfulScalar.isNaN_nan (Bool.eq_false_iff.mp number)

/-- What decides whether a completed pass is added is its mean alone. -/
theorem phases_addPass_eq [Scalar α] [LawfulScalar α] (a : Average α)
    (m : Sums α) (numObs : Nat) (s : Scratch α) (run : Weighed α) :
    a.phases.addPass (completed m).vector numObs s run.vector
      = .ok (s, Weighed.vector
          (if isNaN (completed m).sum = true then run
          else
            let weight := pow (completed m).count a.weightCoeff
            ⟨run.sum + (completed m).sum * weight,
              run.squares + (completed m).squares * weight,
              run.weights + weight, run.counts + (completed m).count⟩)) := by
  refine (Phase.ofVector_eq_ok (a.addPass_eq run _) s).trans ?_
  unfold weigh
  cases number : isNaN (completed m).sum with
  | true => rfl
  | false =>
      rw [decide_eq_true (count_pos number)]
      rfl

end Average

theorem Percentile.phases_addPass_eq [Scalar α] (p : Percentile) (mean : α)
    (numObs : Nat) (s : Scratch α) (v : FeatureVector α) :
    p.phases.addPass [mean] numObs s v
      = .ok (if isNaN mean = true then s else s.push p.valuesKey mean, v) :=
  p.addPass_eq s mean v

-- ======================================================= passed over

/-- Whether a run passes over a completed pass: adding the pass leaves storage
and vector of the run as they are, whatever these hold. -/
def Phases.PassesOver (p : Phases α) (width : Nat) (pass : FeatureVector α)
    (numObs : Nat) : Prop :=
  ∀ s v, v.length = width → p.addPass pass numObs s v = .ok (s, v)

/-- An average passes over what has no mean, as long as counts are exact. -/
theorem Average.passesOver_iff (a : Average Float) {m : Sums Float} {n : Nat}
    (counted : (completed m).count = ofNat n) (short : n < 2 ^ 53)
    (numObs : Nat) :
    a.phases.PassesOver 4 (completed m).vector numObs
      ↔ isNaN (completed m).sum = true := by
  constructor
  · intro passed
    by_contra number
    have positive := count_pos (Bool.eq_false_iff.mpr number)
    -- the number of samples of a fresh run shows that the pass was added
    have added := passed (Scratch.empty 0) (Weighed.vector ⟨0, 0, 0, 0⟩) rfl
    rw [a.phases_addPass_eq, if_neg number] at added
    simp only [Weighed.vector, Except.ok.injEq, Prod.mk.injEq,
      List.cons.injEq, counted] at added
    obtain ⟨-, -, -, -, counts, -⟩ := added
    have sum : (0 : Float) + ofNat n = ofNat (0 + n) :=
      Binary64.ofNat_add (m := 0) (by rwa [Nat.zero_add])
    rw [Nat.zero_add] at sum
    rw [counted, ← sum, counts] at positive
    exact LawfulScalar.lt_irrefl _ positive
  · intro none s v hv
    obtain ⟨x, y, z, w, rfl⟩ := length_eq_four hv
    have kept := a.phases_addPass_eq m numObs s ⟨x, y, z, w⟩
    rwa [if_pos none] at kept

/-- A percentile passes over what has no mean. -/
theorem Percentile.passesOver_iff [Scalar α] (p : Percentile) (mean : α)
    (numObs : Nat) :
    p.phases.PassesOver 1 [mean] numObs ↔ isNaN mean = true := by
  constructor
  · intro passed
    by_contra number
    -- a list of means shows that the pass was added
    have added := passed ((Scratch.empty 0).put p.valuesKey (.numbers #[]))
      [nan] rfl
    rw [p.phases_addPass_eq, if_neg number, Scratch.push_put] at added
    injection added with added
    injection added with added
    have stored := congrArg
      (fun s : Scratch α => s.get? Entry.numbers? p.valuesKey) added
    simp only [Scratch.get?_put, if_true] at stored
    cases stored
  · intro none s v _
    rw [p.phases_addPass_eq, if_pos none]

-- ============================================================ both at once

namespace Statistic

/-- A pass of fewer than `2 ^ 32` samples that are any 64-bit numbers, through
the phases of an average and of a percentile of one variable. Whatever the
storages and vectors hold before, both succeed and leave the same mean, bit
for bit or NaN: the count that the average keeps in its vector is the number
of the samples that are not NaN, which the percentile keeps in the storage
and takes out of it.

A run of the average passes over this pass just as a run of the percentile
does, and both do so just if the mean is NaN. Otherwise the average adds the
mean with the weight of its count, and the percentile collects it. -/
theorem pass_in_lockstep (a : Average Float) (p : Percentile)
    (same : p.slot = a.slot) (pass : PassSamples Float)
    (enough : ∀ samples ∈ pass.samples, a.slot < samples.length)
    (few : pass.samples.length < 2 ^ 32) (s t : Scratch Float)
    {v w : FeatureVector Float} (hv : v.length = 3) (hw : w.length = 1) :
    ∃ mean squares count : Float,
      a.phases.runPass pass s v = .ok (s, [mean, squares, count])
      ∧ p.phases.runPass pass t w = .ok (t.without p.countKey, [mean])
      ∧ count = ofNat (pass.samples.countP fun samples =>
          samples[a.slot]?.any fun x => !isNaN x)
      ∧ ∀ numObs,
        (a.phases.PassesOver 4 [mean, squares, count] numObs
          ↔ p.phases.PassesOver 1 [mean] numObs)
        ∧ (p.phases.PassesOver 1 [mean] numObs ↔ isNaN mean = true)
        ∧ (isNaN mean = false →
          (∀ s sum sumSquares weights counts,
            a.phases.addPass [mean, squares, count] numObs s
                [sum, sumSquares, weights, counts]
              = .ok (s, [sum + mean * pow count a.weightCoeff,
                  sumSquares + squares * pow count a.weightCoeff,
                  weights + pow count a.weightCoeff, counts + count]))
          ∧ ∀ s v, p.phases.addPass [mean] numObs s v
            = .ok (s.push p.valuesKey mean, v)) := by
  have few : (pass.samples.filterMap (usable a.slot)).length < 2 ^ 53 := by
    have := List.length_filterMap_le (usable a.slot) pass.samples
    omega
  have mean := Average.sum_completed a.slot few
  have counted : (Average.completed ((pass.samples.filterMap
      (usable a.slot)).foldl Sums.add .zero)).count
      = ofNat (pass.samples.filterMap (usable a.slot)).length := by
    rw [Average.count_completed, Sums.foldl_add few]
  have averaged := a.runPass_eq enough s hv
  rw [← same] at enough
  have collected := p.runPass_eq enough t hw
  rw [same, ← mean] at collected
  generalize (pass.samples.filterMap (usable a.slot)).foldl Sums.add .zero = m
    at *
  refine ⟨_, _, _, averaged, collected, ?_, fun numObs =>
    ⟨?_, p.passesOver_iff _ numObs, fun number => ⟨?_, ?_⟩⟩⟩
  · rw [counted, List.length_filterMap_eq_countP]
    simp only [usable, Option.isSome_filter]
  · exact (a.passesOver_iff counted few numObs).trans
      (p.passesOver_iff _ numObs).symm
  · intro s sum sumSquares weights counts
    have added := a.phases_addPass_eq m numObs s
      ⟨sum, sumSquares, weights, counts⟩
    rwa [if_neg (Bool.eq_false_iff.mp number)] at added
  · intro s v
    rw [p.phases_addPass_eq, if_neg (Bool.eq_false_iff.mp number)]

/-- The mean of sea surface temperatures. -/
def meanOfSst : Average Float := ⟨"sst", 1, 1⟩

/-- The median of sea surface temperatures. -/
def medianOfSst : Percentile := ⟨"sst", 1, 50⟩

/-- Three observations, one of them without a sea surface temperature. -/
def cloudedSst : PassSamples Float := ⟨3, [[0, 1], [0, nan], [0, 4]]⟩

/-- In slots and a storage that are in use: the observation without a
temperature does not count, and neither run passes over the pass. -/
theorem pass_in_lockstep_clouded :
    ∃ mean squares count : Float,
      meanOfSst.phases.runPass cloudedSst Percentile.usedStorage [7, 7, 7]
        = .ok (Percentile.usedStorage, [mean, squares, count])
      ∧ medianOfSst.phases.runPass cloudedSst Percentile.usedStorage [7]
        = .ok (Percentile.usedStorage.without medianOfSst.countKey, [mean])
      ∧ count = ofNat 2
      ∧ isNaN mean = false
      ∧ ¬ meanOfSst.phases.PassesOver 4 [mean, squares, count] 3
      ∧ ¬ medianOfSst.phases.PassesOver 1 [mean] 3 := by
  have enough : ∀ samples ∈ cloudedSst.samples, 1 < samples.length := by
    decide
  obtain ⟨mean, squares, count, averaged, collected, counted, passed⟩ :=
    pass_in_lockstep meanOfSst medianOfSst rfl cloudedSst enough (by decide)
      Percentile.usedStorage Percentile.usedStorage (v := [7, 7, 7])
      (w := [7]) rfl rfl
  have number : isNaN mean = false := by
    have completed := medianOfSst.runPass_eq enough Percentile.usedStorage
      (v := [7]) rfl
    rw [collected] at completed
    cases completed
    decide +kernel
  obtain ⟨alike, only, -⟩ := passed 3
  rw [number] at only
  have collects := fun h => Bool.false_ne_true (only.mp h)
  exact ⟨mean, squares, count, averaged, collected, counted, number,
    fun h => collects (alike.mp h), collects⟩

end Statistic

end EarthBins
