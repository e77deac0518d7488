/-
Samples without a use leave no trace.

A sample vector is unusable for a statistic when the variable of the
statistic is NaN, for a log-normal average also when it is not positive or
infinite, and for recorded values when the key is NaN or minus infinity.
Such a vector is no reading, and a pass without a reading adds nothing to a
run. So a cycle sees only the readings of the passes that have some
(`filter_readings_of_inserted`), and these are the same with and without
what was inserted.
-/
import EarthBins.Proofs.Statistic.Reductions

namespace EarthBins

open Scalar Outcome

variable {α : Type} [Scalar α]

/-- Whether one list is another with elements inserted anywhere. The others
correspond. -/
inductive Inserted {β : Type} (extra : β → Prop) (same : β → β → Prop) :
    List β → List β → Prop
  | nil : Inserted extra same [] []
  | keep {a b as bs} (hab : same a b) (rest : Inserted extra same as bs) :
      Inserted extra same (a :: as) (b :: bs)
  | insert {b as bs} (hb : extra b) (rest : Inserted extra same as bs) :
      Inserted extra same as (b :: bs)

namespace Statistic

/-- Whether a statistic has no use for a sample vector. -/
def Unusable (x : Statistic α) (samples : List α) : Prop :=
  match x with
  | average a => ∃ v, samples[a.slot]? = some v ∧ isNaN v = true
  | extrema e => ∃ v, samples[e.slot]? = some v ∧ isNaN v = true
  | percentile p => ∃ v, samples[p.slot]? = some v ∧ isNaN v = true
  | logNormal a => ∃ v, samples[a.slot]? = some v
    ∧ (isNaN v = true ∨ v ≤ 0 ∨ infinity ≤ v)
  | onMax m => ∃ key, samples[m.keySlot]? = some key
    ∧ (isNaN key = true ∨ key = -infinity)

/-- Whether passes are others with unusable sample vectors inserted into
them, and passes of unusable vectors among them. The numbers of
observations are any. -/
def InsertedPasses (x : Statistic α) :
    List (PassSamples α) → List (PassSamples α) → Prop :=
  Inserted (fun pass => ∀ samples ∈ pass.samples, x.Unusable samples)
    fun pass pass' => Inserted x.Unusable (· = ·) pass.samples pass'.samples

variable [LawfulScalar α] {x : Statistic α}

/-- An unusable sample vector is no reading. -/
theorem read_of_unusable {samples : List α} (h : x.Unusable samples) :
    x.reduction.read samples = none := by
  cases x with
  | average a =>
      obtain ⟨v, hv, isNaN_v⟩ := h
      exact usable_of_isNaN hv isNaN_v
  | extrema e =>
      obtain ⟨v, hv, isNaN_v⟩ := h
      exact usable_of_isNaN hv isNaN_v
  | percentile p =>
      obtain ⟨v, hv, isNaN_v⟩ := h
      exact usable_of_isNaN hv isNaN_v
  | logNormal a =>
      obtain ⟨v, hv, useless⟩ := h
      show LogNormal.usableLog a.slot samples = none
      rw [LogNormal.usableLog, hv, Option.map_some, Option.filter_some,
        LawfulScalar.isFinite_log useless]
      rfl
  | onMax m =>
      obtain ⟨key, hkey, useless⟩ := h
      have below : ¬ -infinity < key := by
        rcases useless with isNaN_key | rfl
        · intro lt
          rw [(LawfulScalar.isNaN_of_lt lt).2] at isNaN_key
          cases isNaN_key
        · exact LawfulScalar.lt_irrefl _
      show m.keyed samples = none
      rw [OnMax.keyed, hkey, Option.filter_some, decide_eq_false below]
      rfl

theorem filterMap_of_inserted {samples samples' : List (List α)}
    (h : Inserted x.Unusable (· = ·) samples samples') :
    samples'.filterMap x.reduction.read
      = samples.filterMap x.reduction.read := by
  induction h with
  | nil => rfl
  | keep same _ ih =>
      subst same
      rw [List.filterMap_cons, List.filterMap_cons, ih]
  | insert unusable _ ih =>
      rw [List.filterMap_cons_none (read_of_unusable unusable), ih]

/-- The passes that have readings have the same ones. -/
theorem filter_readings_of_inserted {passes passes' : List (PassSamples α)}
    (h : x.InsertedPasses passes passes') :
    (passes'.map x.reduction.readings).filter (fun l => !l.isEmpty)
      = (passes.map x.reduction.readings).filter fun l => !l.isEmpty := by
  induction h with
  | nil => rfl
  | @keep pass pass' _ _ inserted _ ih =>
      have same : x.reduction.readings pass' = x.reduction.readings pass :=
        filterMap_of_inserted inserted
      rw [List.map_cons, List.map_cons, List.filter_cons, List.filter_cons,
        same, ih]
  | @insert pass _ _ unusable _ ih =>
      have nothing : x.reduction.readings pass = [] :=
        List.filterMap_eq_nil_iff.mpr fun samples hsamples =>
          read_of_unusable (unusable samples hsamples)
      rw [List.map_cons, List.filter_cons_of_neg (by rw [nothing]; nofun), ih]

/-- Unusable sample vectors, wherever they are inserted into passes or as
passes of their own, change no output, to the last bit; nor do the numbers
of observations that are offered to the phases. -/
theorem cycle_eq_of_inserted (x : Statistic Float)
    {passes passes' : List (PassSamples Float)} (fits : x.Fits passes)
    (fits' : x.Fits passes') (inserted : x.InsertedPasses passes passes')
    (bin bin' numObs numObs' : Nat) :
    ∃ out, x.cycle bin passes numObs = .ok out
      ∧ x.cycle bin' passes' numObs' = .ok out := by
  obtain ⟨out, hout, -⟩ := x.cycle_isOk fits bin numObs
  have reduces := x.reducesTo
  have same : x.runVector bin' passes' numObs'
      = x.runVector bin passes numObs := by
    rw [reduces.runVector_eq fits', reduces.runVector_eq fits,
      ← reduces.ofRun_filter, filter_readings_of_inserted inserted,
      reduces.ofRun_filter]
  refine ⟨out, hout, ?_⟩
  rw [cycle, same]
  exact hout

/-- One pass with one usable sample. -/
def clearPass : List (PassSamples Float) :=
  [⟨1, [[2]]⟩]

/-- The same with samples that have no logarithm, and a pass of infinity. -/
def cloudedPasses : List (PassSamples Float) :=
  [⟨4, [[0], [nan], [2], [-3]]⟩, ⟨1, [[infinity]]⟩]

/-- A log-normal average passes over samples without a logarithm. -/
theorem cycle_eq_of_inserted_clouded :
    (logNormal ⟨"chl", 0⟩).Fits clearPass
    ∧ (logNormal ⟨"chl", 0⟩).Fits cloudedPasses
    ∧ (logNormal ⟨"chl", 0⟩).InsertedPasses clearPass cloudedPasses
    ∧ ∃ out, (logNormal ⟨"chl", 0⟩).cycle 0 clearPass 1 = .ok out
      ∧ (logNormal ⟨"chl", 0⟩).cycle 7 cloudedPasses 5 = .ok out := by
  have fits : (logNormal ⟨"chl", 0⟩).Fits clearPass := by
    simp [Fits, clearPass, slots]
  have fits' : (logNormal ⟨"chl", 0⟩).Fits cloudedPasses := by
    simp [Fits, cloudedPasses, slots]
  have useless (v : Float) (h : isNaN v = true ∨ v ≤ 0 ∨ infinity ≤ v) :
      (logNormal ⟨"chl", 0⟩).Unusable [v] :=
    ⟨v, rfl, h⟩
  have inserted :
      (logNormal ⟨"chl", 0⟩).InsertedPasses clearPass cloudedPasses := by
    refine .keep ?_ (.insert ?_ .nil)
    · exact .insert (useless 0 (by decide)) (.insert (useless nan (by decide))
        (.keep rfl (.insert (useless (-3) (by decide)) .nil)))
    · intro samples hsamples
      rw [List.mem_singleton.mp hsamples]
      exact useless infinity (by decide)
  exact ⟨fits, fits', inserted,
    cycle_eq_of_inserted (logNormal ⟨"chl", 0⟩) fits fits' inserted 0 7 1 5⟩

end Statistic

end EarthBins
