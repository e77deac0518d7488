/-
Which of several readings is recorded.

Of the readings of a run the one with the largest key is kept, and the first
of those that share it (`OnMax.Winner`). A pass keeps its own winner and the
run the winner of these, which comes to the same: the search is one search
through all readings (`OnMax.ofRun_eq_ofPass`). Where there is no reading,
nothing is kept.

Readings have keys above minus infinity, so that any two are compared
(`OnMax.Keyed.compared`). Were one of them NaN, it would not be replaced by
any later one, however large.
-/
import EarthBins.Proofs.Statistic.Foremost
import EarthBins.Proofs.Statistic.Reductions

namespace EarthBins.OnMax

open Scalar

-- ============================================================= readings

section Readings

variable {α : Type} [Scalar α] {m : OnMax}

/-- A reading has a key above minus infinity, and the payload with it. -/
theorem keyed_eq_some_iff {samples : List α}
    {entry : α × FeatureVector α} :
    m.keyed samples = some entry ↔
      samples[m.keySlot]? = some entry.1 ∧ -infinity < entry.1
      ∧ entry.2 = payloadOf samples m.payloadSlots m.payload.length := by
  unfold keyed
  rw [Option.map_eq_some_iff]
  constructor
  · rintro ⟨key, hkey, rfl⟩
    obtain ⟨here, above⟩ := Option.filter_eq_some_iff.mp hkey
    exact ⟨here, of_decide_eq_true above, rfl⟩
  · rintro ⟨here, above, payload⟩
    refine ⟨entry.1, Option.filter_eq_some_iff.mpr ⟨here, ?_⟩, ?_⟩
    · exact decide_eq_true above
    · rw [← payload]

/-- The readings of all passes. -/
theorem flatten_readings (passes : List (PassSamples α)) :
    (passes.map m.reduction.readings).flatten
      = (passes.flatMap (·.samples)).filterMap m.keyed :=
  m.reduction.flatten_readings passes

/-- All readings have keys above minus infinity. -/
theorem keyed_flatten_readings (passes : List (PassSamples α)) :
    ∀ e ∈ (passes.map m.reduction.readings).flatten, -infinity < e.1 := by
  rw [flatten_readings]
  intro e he
  obtain ⟨samples, -, read⟩ := List.mem_filterMap.mp he
  exact (keyed_eq_some_iff.mp read).2.1

/-- A reading is shown as it is. -/
theorem output_of_keyed {samples : List α} {entry : α × FeatureVector α}
    (h : m.keyed samples = some entry) :
    m.output (entry.1 :: entry.2)
      = .ok (entry.1
          :: payloadOf samples m.payloadSlots m.payload.length) := by
  obtain ⟨-, above, payload⟩ := keyed_eq_some_iff.mp h
  rw [payload, output, if_pos above, if_pos]
  rw [List.length_cons, length_payloadOf]

/-- What is recorded are the samples of the payload. -/
theorem forall₂_payloadOf {samples : List α} {slots : List Nat}
    (enough : ∀ slot ∈ slots, slot < samples.length) :
    List.Forall₂ (fun slot y => samples[slot]? = some y) slots
      (payloadOf samples slots slots.length) := by
  induction slots with
  | nil => exact .nil
  | cons slot slots ih =>
      obtain ⟨v, hv⟩ := exists_sample enough List.mem_cons_self
      rw [List.length_cons, payloadOf]
      apply List.Forall₂.cons
      · rw [hv]
        rfl
      · exact ih fun i hi => enough i (List.mem_cons_of_mem _ hi)

end Readings

-- ============================================================ the search

section Search

variable {α : Type} [Scalar α] [OrderedScalar α] {m : OnMax}

/-- Entries are ranked by their keys. -/
theorem ranks_key :
    Ranks (fun a b : α × FeatureVector α => a.1 < b.1)
      (fun a => isNaN a.1 = false) :=
  ranks_lt.on Prod.fst

/-- The search through the results of passes is one search. -/
theorem ofRun_eq_ofPass {passes : List (List (α × FeatureVector α))}
    (above : ∀ e ∈ passes.flatten, -infinity < e.1) :
    m.reduction.ofRun passes = m.reduction.ofPass passes.flatten :=
  foldl_better_passes (s := m.nothing) ranks_key
    LawfulScalar.isNaN_neg_infinity
    fun e he => (LawfulScalar.isNaN_of_lt (above e he)).2

/-- A search finds the first reading with the largest key, or nothing if
there is no reading. -/
theorem foremost_ofPass {readings : List (α × FeatureVector α)}
    (above : ∀ e ∈ readings, -infinity < e.1) :
    (readings = [] ∧ m.reduction.ofPass readings = m.nothing)
    ∨ Foremost (fun a b => a.1 < b.1) readings
        (m.reduction.ofPass readings) := by
  have first := Foremost.foldl (s := m.nothing) ranks_key
    LawfulScalar.isNaN_neg_infinity
    fun e he => (LawfulScalar.isNaN_of_lt (above e he)).2
  rcases first.of_cons with ⟨nothing, none⟩ | ⟨-, first⟩
  · refine Or.inl ⟨?_, nothing⟩
    exact List.eq_nil_iff_forall_not_mem.mpr fun e he => none e he (above e he)
  · exact Or.inr first

end Search

-- ============================================================ the winner

variable {entries entries' : List (Exact × FeatureVector Exact)}
  {entry : Exact × FeatureVector Exact} {m : OnMax}

/-- Whether the keys of some entries are those of readings. -/
def Keyed (entries : List (Exact × FeatureVector Exact)) : Prop :=
  ∀ e ∈ entries, -infinity < e.1

namespace Keyed

theorem compared (h : Keyed entries) : ∀ e ∈ entries, e.1 ≠ .nan :=
  fun e he => (Exact.lt_iff.mp (h e he)).2.1

theorem of_subset (h : Keyed entries) (part : entries' ⊆ entries) :
    Keyed entries' :=
  fun e he => h e (part he)

end Keyed

/-- Whether an entry is the first of some that has the largest key. -/
def Winner (entries : List (Exact × FeatureVector Exact))
    (entry : Exact × FeatureVector Exact) : Prop :=
  ∃ before after, entries = before ++ entry :: after
    ∧ (∀ other ∈ before, other.1 < entry.1)
    ∧ ∀ other ∈ after, ¬ entry.1 < other.1

theorem Winner.foremost (h : Winner entries entry) :
    Foremost (fun a b => a.1 < b.1) entries entry :=
  h

/-- What is kept of some entries: the winner, or nothing if there is no
entry. -/
def Kept (m : OnMax) (entries : List (Exact × FeatureVector Exact))
    (entry : Exact × FeatureVector Exact) : Prop :=
  (entries = [] ∧ entry = m.nothing) ∨ Winner entries entry

/-- A run keeps the winner of all its readings. -/
theorem kept_ofRun {passes : List (List (Exact × FeatureVector Exact))}
    (keyed : Keyed passes.flatten) :
    m.Kept passes.flatten (m.reduction.ofRun passes) := by
  rw [ofRun_eq_ofPass keyed]
  exact foremost_ofPass keyed

end EarthBins.OnMax

namespace EarthBins.Statistic

variable {α : Type} [Scalar α] {m : OnMax} {passes : List (PassSamples α)}

/-- The cycle of recorded values shows what its run keeps. -/
theorem cycle_onMax_eq [LawfulScalar α] (fits : (onMax m).Fits passes)
    (bin numObs : Nat) : (onMax m).cycle bin passes numObs
      = m.output ((m.reduction.ofRun (passes.map m.reduction.readings)).1
        :: (m.reduction.ofRun (passes.map m.reduction.readings)).2) := by
  rw [cycle, (onMax m).reducesTo.runVector_eq fits]
  rfl

/-- It shows the first reading with the largest key, if there is a
reading. -/
theorem cycle_onMax_cases [OrderedScalar α] (fits : (onMax m).Fits passes)
    (bin numObs : Nat) :
    ((passes.flatMap (·.samples)).filterMap m.keyed = []
      ∧ (onMax m).cycle bin passes numObs
        = m.output (m.nothing.1 :: m.nothing.2))
    ∨ ∃ entry, Foremost (fun a b => a.1 < b.1)
        ((passes.flatMap (·.samples)).filterMap m.keyed) entry
      ∧ (onMax m).cycle bin passes numObs
        = m.output (entry.1 :: entry.2) := by
  have above := OnMax.keyed_flatten_readings (m := m) passes
  have kept := OnMax.foremost_ofPass (m := m) above
  have shown := cycle_onMax_eq fits bin numObs
  rw [OnMax.ofRun_eq_ofPass above] at shown
  rw [OnMax.flatten_readings] at kept shown
  rcases kept with ⟨none, nothing⟩ | first
  · rw [nothing] at shown
    exact Or.inl ⟨none, shown⟩
  · exact Or.inr ⟨_, first, shown⟩

end EarthBins.Statistic
