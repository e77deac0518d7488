/-
Which cycles show data.

Every statistic has its own ways to hold that there is no data: sums and
counts that are zero, extrema in the wrong order, a key that is minus
infinity, an empty list of means. They pass through completion, merging and
output. What comes out is the fill value in every slot if no sample vector is
of use, and data in every slot if one is (`cycle_fills_iff`).

# Without data

A sample that is finite or NaN is of use or it is no reading
(`unusable_of_not_usable`). So all readings are empty, the run is the one
that begins, and its output is the fill value (`output_begin`). Nothing is
rounded on the way; this holds in both number systems.

# With data

One sample of use makes a reading, and in exact arithmetic readings are real
numbers. Sums, means, extrema and percentiles of real numbers are real, and
so are the moments of logarithms once the weight is positive
(`LogNormal.output_sumsOf`). Recorded values are the samples of one vector,
the first with the largest key (`OnMax.Wins`): its payload may be NaN.
-/
import EarthBins.Proofs.Statistic.Agreement
import EarthBins.Proofs.Statistic.Domains
import EarthBins.Proofs.Statistic.Insertion
import EarthBins.Proofs.Statistic.LogMoments
import EarthBins.Proofs.Statistic.Reordering

namespace EarthBins

open Scalar Outcome

-- ============================================================ statements

namespace Statistic

variable {α : Type} [Scalar α]

/-- Whether sample vectors have a number or NaN for every variable. -/
structure Sampled (known : List String) (passes : List (PassSamples α)) :
    Prop where
  wide : ∀ pass ∈ passes, ∀ samples ∈ pass.samples,
    samples.length = known.length
  finiteOrNaN : ∀ pass ∈ passes, ∀ samples ∈ pass.samples, ∀ v ∈ samples,
    isFinite v = true ∨ isNaN v = true

/-- Whether a statistic has a use for a sample vector. -/
def Usable (x : Statistic α) (samples : List α) : Prop :=
  match x with
  | average a => ∃ v, samples[a.slot]? = some v ∧ isNaN v = false
  | extrema e => ∃ v, samples[e.slot]? = some v ∧ isNaN v = false
  | percentile p => ∃ v, samples[p.slot]? = some v ∧ isNaN v = false
  | logNormal a => ∃ v, samples[a.slot]? = some v ∧ isFinite v = true ∧ 0 < v
  | onMax m => ∃ key, samples[m.keySlot]? = some key ∧ isNaN key = false

/-- Whether a statistic has a use for any sample vector of some passes. -/
def HasData (x : Statistic α) (passes : List (PassSamples α)) : Prop :=
  ∃ pass ∈ passes, ∃ samples ∈ pass.samples, x.Usable samples

/-- Whether a cycle shows the fill value in every slot. -/
def Fills (x : Statistic α) (passes : List (PassSamples α)) : Prop :=
  ∀ bin numObs, x.cycle bin passes numObs
    = .ok (List.replicate x.names.output.length x.fillValue)

end Statistic

/-- Whether a sample vector is the first of some that has the largest
key. -/
def OnMax.Wins (m : OnMax) (vectors : List (List Exact))
    (samples : List Exact) : Prop :=
  ∃ before after key, vectors = before ++ samples :: after
    ∧ samples[m.keySlot]? = some key ∧ key ≠ .nan
    ∧ (∀ other ∈ before, ∀ key', other[m.keySlot]? = some key' →
      ¬ key ≤ key')
    ∧ ∀ other ∈ after, ∀ key', other[m.keySlot]? = some key' → ¬ key < key'

/-- Whether output features show data: real numbers, or for recorded values
the samples of the winning sample vector. -/
def Statistic.Shows (x : Statistic Exact) (passes : List (PassSamples Exact))
    (out : FeatureVector Exact) : Prop :=
  match x with
  | onMax m => ∃ samples, m.Wins (passes.flatMap (·.samples)) samples
    ∧ List.Forall₂ (fun slot y => samples[slot]? = some y)
      (m.keySlot :: m.payloadSlots) out
  | _ => ∀ y ∈ out, ∃ r, y = .real r

-- ========================================================== without data

namespace Statistic

section Empty

variable {α : Type} [Scalar α] {known : List String} {x : Statistic α}
  {passes : List (PassSamples α)}

theorem fits_of_sampled {spec : StatisticSpec α}
    (resolved : spec.resolve known = .ok x) (sampled : Sampled known passes) :
    x.Fits passes := by
  intro pass hpass samples hsamples slot hslot
  rw [sampled.wide pass hpass samples hsamples]
  exact StatisticSpec.slots_lt resolved slot hslot

theorem isNaN_of_not_usable {samples : List α} {slots : List Nat} {slot : Nat}
    (enough : ∀ slot ∈ slots, slot < samples.length) (hslot : slot ∈ slots)
    (h : ¬ ∃ v, samples[slot]? = some v ∧ isNaN v = false) :
    ∃ v, samples[slot]? = some v ∧ isNaN v = true := by
  obtain ⟨v, hv⟩ := exists_sample enough hslot
  refine ⟨v, hv, ?_⟩
  by_contra notNaN
  exact h ⟨v, hv, Bool.eq_false_iff.mpr notNaN⟩

variable [SignedScalar α]

/-- A sample vector without a use is one that leaves no trace. -/
theorem unusable_of_not_usable {samples : List α}
    (enough : ∀ slot ∈ x.slots, slot < samples.length)
    (finiteOrNaN : ∀ v ∈ samples, isFinite v = true ∨ isNaN v = true)
    (h : ¬ x.Usable samples) : x.Unusable samples := by
  cases x with
  | average a => exact isNaN_of_not_usable enough List.mem_cons_self h
  | extrema e => exact isNaN_of_not_usable enough List.mem_cons_self h
  | percentile p => exact isNaN_of_not_usable enough List.mem_cons_self h
  | logNormal a =>
      obtain ⟨v, hv⟩ := exists_sample enough List.mem_cons_self
      refine ⟨v, hv, ?_⟩
      rcases finiteOrNaN v (List.mem_of_getElem? hv) with finite | isNaN_v
      · right
        left
        apply SignedScalar.le_of_not_lt SignedScalar.isNaN_zero
        · rw [isFinite, Bool.and_eq_true, decide_eq_true_eq] at finite
          exact (LawfulScalar.isNaN_of_lt finite.1).2
        · intro positive
          exact h ⟨v, hv, finite, positive⟩
      · exact Or.inl isNaN_v
  | onMax m =>
      obtain ⟨key, hkey, isNaN_key⟩ :=
        isNaN_of_not_usable enough List.mem_cons_self h
      exact ⟨key, hkey, Or.inl isNaN_key⟩

/-- The run that begins has the fill value in every output slot. -/
theorem output_begin (x : Statistic α) :
    (x.reduction.finish x.reduction.begin >>= x.phases.output)
      = .ok (FeatureVector.empty x.names.output.length) := by
  cases x with
  | logNormal a => exact if_neg (LawfulScalar.lt_irrefl (0 : α))
  | onMax m => exact if_neg (LawfulScalar.lt_irrefl (-infinity : α))
  | average a => exact if_neg (LawfulScalar.lt_irrefl (0 : α))
  | extrema e => exact if_pos (Or.inl SignedScalar.neg_infinity_lt_infinity)
  | percentile p =>
      have run : (percentile p).reduction.finish
          (percentile p).reduction.begin = .ok [(nan : α)] := by
        show (do
          return [← percentileOf p.percentage
            (List.mergeSort ([] : List α) totalLE)]) = _
        rw [List.mergeSort_nil]
        rfl
      have shown : (if isNaN (nan : α) = true then nan else nan) = (nan : α) :=
        if_pos LawfulScalar.isNaN_nan
      rw [run, ok_bind]
      exact congrArg (fun y => Except.ok [y]) shown

/-- Without data there are no readings. -/
theorem fills_of_not_hasData {spec : StatisticSpec α}
    (resolved : spec.resolve known = .ok x) (sampled : Sampled known passes)
    (noData : ¬ x.HasData passes) : x.Fills passes := by
  intro bin numObs
  have fits := fits_of_sampled resolved sampled
  have nothing : (passes.map x.reduction.readings).filter
      (fun readings => !readings.isEmpty) = [] := by
    apply List.filter_eq_nil_iff.mpr
    intro readings hreadings
    obtain ⟨pass, hpass, rfl⟩ := List.mem_map.mp hreadings
    have none : x.reduction.readings pass = [] := by
      apply List.filterMap_eq_nil_iff.mpr
      intro samples hsamples
      apply read_of_unusable
      apply unusable_of_not_usable (fits pass hpass samples hsamples)
        (sampled.finiteOrNaN pass hpass samples hsamples)
      exact fun usable => noData ⟨pass, hpass, samples, hsamples, usable⟩
    simp [none]
  rw [cycle, x.reducesTo.runVector_eq fits, ← x.reducesTo.ofRun_filter,
    nothing]
  exact output_begin x

end Empty

end Statistic

-- ========================================================== real numbers

open Exact

section Real

variable {passes : List (PassSamples Exact)} {slot : Nat}

theorem Statistic.Sampled.realOrNaN {known : List String}
    (h : Sampled known passes) : RealOrNaN passes := by
  intro pass hpass samples hsamples v hv
  rcases h.finiteOrNaN pass hpass samples hsamples v hv with finite | isNaN_v
  · exact Or.inr (isFinite_eq_true_iff.mp finite)
  · exact Or.inl (isNaN_eq_true_iff.mp isNaN_v)

/-- A sample that is not NaN is a value. -/
theorem values_ne_nil (realOrNaN : RealOrNaN passes)
    (data : ∃ pass ∈ passes, ∃ samples ∈ pass.samples,
      ∃ v, samples[slot]? = some v ∧ isNaN v = false) :
    (passes.map (valuesOf slot)).flatten ≠ [] := by
  obtain ⟨pass, hpass, samples, hsamples, v, hv, notNaN⟩ := data
  obtain ⟨r, rfl⟩ := (realOrNaN pass hpass samples hsamples v
    (List.mem_of_getElem? hv)).resolve_left (isNaN_eq_false_iff.mp notNaN)
  have value : realAt slot samples = some r := by
    rw [realAt, hv]
  have here : r ∈ valuesOf slot pass :=
    List.mem_filterMap.mpr ⟨samples, hsamples, value⟩
  exact List.ne_nil_of_mem
    (List.mem_flatten_of_mem (List.mem_map_of_mem hpass) here)

/-- A positive finite sample is a positive value. -/
theorem positivesIn_ne_nil (data : ∃ pass ∈ passes, ∃ samples ∈ pass.samples,
      ∃ v, samples[slot]? = some v ∧ isFinite v = true ∧ 0 < v) :
    positivesIn slot passes ≠ [] := by
  obtain ⟨pass, hpass, samples, hsamples, v, hv, finite, positive⟩ := data
  obtain ⟨r, rfl⟩ := isFinite_eq_true_iff.mp finite
  have above : 0 < r := by
    simpa using positive
  have value : positiveAt slot samples = some r := by
    rw [positiveAt, realAt, hv]
    exact if_pos (decide_eq_true above)
  have here : r ∈ positivesOf slot pass :=
    List.mem_filterMap.mpr ⟨samples, hsamples, value⟩
  exact List.ne_nil_of_mem
    (List.mem_flatten_of_mem (List.mem_map_of_mem hpass) here)

end Real

-- ======================================================= recorded values

namespace OnMax

variable {m : OnMax}

/-- The sample vector of the winning reading wins. -/
theorem wins_of_winner {vectors : List (List Exact)}
    {entry : Exact × FeatureVector Exact}
    (h : Winner (vectors.filterMap m.keyed) entry) :
    ∃ samples ∈ vectors, m.Wins vectors samples
      ∧ m.keyed samples = some entry := by
  obtain ⟨before, samples, after, rfl, read, less, notMore⟩ :=
    h.foremost.of_filterMap
  obtain ⟨key, positive, -⟩ := keyed_eq_some_iff.mp read
  -- a sample vector whose key is not below is a reading
  have reading {other : List Exact} {key' : Exact}
      (hkey' : other[m.keySlot]? = some key') (le : entry.1 ≤ key') :
      m.keyed other = some (key',
        payloadOf other m.payloadSlots m.payload.length) := by
    refine keyed_eq_some_iff.mpr ⟨hkey', ?_, rfl⟩
    obtain ⟨-, ne, le⟩ := Exact.le_iff.mp le
    obtain ⟨ne', -, lt⟩ := Exact.lt_iff.mp positive
    exact Exact.lt_iff.mpr ⟨ne', ne, lt.trans_le le⟩
  refine ⟨samples, by simp, ⟨before, after, entry.1, rfl, key,
    (Exact.lt_iff.mp positive).2.1, ?_, ?_⟩, read⟩
  · intro other hother key' hkey' le
    exact SignedScalar.not_le_of_lt (less other hother _ (reading hkey' le)) le
  · intro other hother key' hkey' lt
    exact notMore other hother _ (reading hkey' lt.1) lt

end OnMax

-- ============================================================= with data

namespace Statistic

variable {known : List String} {passes : List (PassSamples Exact)}

/-- Whether the parameters of a statistic are those of an accepted
selection. -/
def Accepted (x : Statistic Exact) : Prop :=
  match x with
  | average a => ∃ c, a.weightCoeff = real c
  | onMax m => m.payloadSlots.length = m.payload.length
  | _ => True

theorem accepted_of_resolve {spec : StatisticSpec Exact} {x : Statistic Exact}
    (h : spec.resolve known = .ok x) : x.Accepted := by
  cases StatisticSpec.resolves_of_resolve h with
  | logNormal found => trivial
  | onMax recorded found => exact (mapM_eq_ok.mp recorded).length_eq.symm
  | average finite found => exact isFinite_eq_true_iff.mp finite
  | extrema found => trivial
  | percentile range found => trivial

/-- The moments of the logarithms of positive numbers are real. -/
theorem shows_logNormal {a : LogNormal} (fits : (logNormal a).Fits passes)
    (data : (logNormal a).HasData passes) (bin numObs : Nat) :
    ∃ out, (logNormal a).cycle bin passes numObs = .ok out
      ∧ ∀ y ∈ out, ∃ r, y = real r := by
  obtain ⟨name, slot⟩ := a
  obtain ⟨-, shown⟩ := cycle_logNormal_eq fits (positivesIn_ne_nil data) rfl
    rfl bin numObs
  exact ⟨_, shown, by simp⟩

/-- Recorded values are those of the winning sample vector. -/
theorem shows_onMax {m : OnMax} (accepted : (onMax m).Accepted)
    (fits : (onMax m).Fits passes) (realOrNaN : RealOrNaN passes)
    (data : (onMax m).HasData passes) (bin numObs : Nat) :
    ∃ out, (onMax m).cycle bin passes numObs = .ok out
      ∧ (onMax m).Shows passes out := by
  obtain ⟨none, -⟩ | ⟨entry, first, shown⟩ :=
    cycle_onMax_cases fits bin numObs
  · -- the key that is data is a reading
    obtain ⟨pass, hpass, samples, hsamples, key, hkey, notNaN⟩ := data
    obtain ⟨r, rfl⟩ := (realOrNaN pass hpass samples hsamples key
      (List.mem_of_getElem? hkey)).resolve_left
        (isNaN_eq_false_iff.mp notNaN)
    have missing := List.filterMap_eq_nil_iff.mp none samples
      (List.mem_flatMap.mpr ⟨pass, hpass, hsamples⟩)
    have read : m.keyed samples = some (real r,
        OnMax.payloadOf samples m.payloadSlots m.payload.length) :=
      OnMax.keyed_eq_some_iff.mpr
        ⟨hkey, Extrema.neg_infinity_lt_real r, rfl⟩
    rw [missing] at read
    cases read
  · obtain ⟨samples, here, wins, read⟩ := OnMax.wins_of_winner first
    obtain ⟨pass, hpass, hsamples⟩ := List.mem_flatMap.mp here
    have enough : ∀ slot ∈ m.payloadSlots, slot < samples.length := by
      intro slot hslot
      exact fits pass hpass samples hsamples slot
        (List.mem_cons_of_mem _ hslot)
    refine ⟨_, shown.trans (OnMax.output_of_keyed read), samples, wins,
      .cons (OnMax.keyed_eq_some_iff.mp read).1 ?_⟩
    rw [← accepted]
    exact OnMax.forall₂_payloadOf enough

/-- With data there is data in every slot. -/
theorem shows_of_hasData {x : Statistic Exact} (accepted : x.Accepted)
    (fits : x.Fits passes) (realOrNaN : RealOrNaN passes)
    (data : x.HasData passes) (bin numObs : Nat) :
    ∃ out, x.cycle bin passes numObs = .ok out ∧ x.Shows passes out := by
  cases x with
  | logNormal a => exact shows_logNormal fits data bin numObs
  | onMax m => exact shows_onMax accepted fits realOrNaN data bin numObs
  | average a =>
      obtain ⟨name, slot, weightCoeff⟩ := a
      obtain ⟨c, rfl⟩ := accepted
      have nonempty := values_ne_nil realOrNaN data
      have fitsExtrema : (extrema ⟨name, slot⟩ : Statistic Exact).Fits passes :=
        fits
      obtain ⟨_, _, between, -⟩ :=
        cycle_extrema fitsExtrema realOrNaN nonempty
      obtain ⟨mean, sum, squares, weights, -, shown, -⟩ :=
        cycle_average fits realOrNaN nonempty between bin numObs
      exact ⟨_, shown, by simp [Shows]⟩
  | extrema e =>
      obtain ⟨least, greatest, -, shown⟩ :=
        cycle_extrema fits realOrNaN (values_ne_nil realOrNaN data)
      exact ⟨_, shown bin numObs, by simp [Shows]⟩
  | percentile p =>
      obtain ⟨name, slot, percentage⟩ := p
      have nonempty := values_ne_nil realOrNaN data
      have fitsExtrema : (extrema ⟨name, slot⟩ : Statistic Exact).Fits passes :=
        fits
      obtain ⟨_, _, between, -⟩ :=
        cycle_extrema fitsExtrema realOrNaN nonempty
      obtain ⟨value, -, -, shown⟩ :=
        cycle_percentile fits realOrNaN nonempty between
      exact ⟨_, shown bin numObs, by simp [Shows]⟩

/-- Cycles show the fill value in every slot if they have no data, also when
they are computed with 64-bit numbers. If they have data, then without
rounding every slot shows data: a real number, or for recorded values the
sample of the first sample vector with the largest key. And no phase divides
by zero or takes the root of a number below zero, neither without rounding
nor with 64-bit numbers and an exponential function that is not below one on
numbers that are not below zero. -/
theorem cycle_fills_iff (known : List String) :
    (∀ {spec : StatisticSpec Float} {x : Statistic Float}
        {passes : List (PassSamples Float)},
      spec.resolve known = .ok x → Sampled known passes →
        ¬ x.HasData passes → x.Fills passes)
    ∧ (∀ {spec : StatisticSpec Exact} {x : Statistic Exact}
        {passes : List (PassSamples Exact)},
      spec.resolve known = .ok x → Sampled known passes →
        (¬ x.HasData passes → x.Fills passes)
        ∧ (x.HasData passes → ∀ bin numObs, ∃ out,
          x.cycle bin passes numObs = .ok out
          ∧ out.length = x.names.output.length ∧ x.Shows passes out))
    ∧ (∀ (quotient : Exact → Exact → Exact) (root : Exact → Exact)
        (x : Statistic Exact),
      @phases Exact (patched quotient root) x = x.phases)
    ∧ ∀ exponential : Float → Float, (∀ v, 0 ≤ v → 1 ≤ exponential v) →
      ∀ (quotient : Float → Float → Float) (root : Float → Float)
        (x : Statistic Float),
        @phases Float
            (@patched Float (Double.withExp exponential) quotient root) x
          = @phases Float (Double.withExp exponential) x := by
  refine ⟨fills_of_not_hasData, ?_, ?_, ?_⟩
  · intro spec x passes resolved sampled
    refine ⟨fills_of_not_hasData resolved sampled, ?_⟩
    intro data bin numObs
    have fits := fits_of_sampled resolved sampled
    obtain ⟨out, made, width⟩ := x.cycle_isOk fits bin numObs
    obtain ⟨out', made', shows'⟩ := shows_of_hasData
      (accepted_of_resolve resolved) fits sampled.realOrNaN data bin numObs
    rw [made] at made'
    cases made'
    exact ⟨out, made, width, shows'⟩
  · intro quotient root
    exact phases_patched quotient root Exact.one_le_exp
  · intro exponential above quotient root
    exact @phases_patched Float (Double.withExp exponential)
      (Double.signedScalar_withExp exponential) quotient root above

/-- Two passes over a cloud and one without a sample. -/
def cloudPasses : List (PassSamples Float) :=
  [⟨2, [[20, nan], [21, 0]]⟩, ⟨0, []⟩, ⟨1, [[20, -1]]⟩]

/-- A pass whose warmest spot has no other sample. -/
noncomputable def edgePasses : List (PassSamples Exact) :=
  [⟨0, []⟩, ⟨2, [[real 20, real 1], [real 21, .nan]]⟩]

/-- The exponential function, with its results below one raised to one where
they should not be. -/
def raisedExp (v : Float) : Float :=
  if 0 ≤ v ∧ ¬ 1 ≤ Float.exp v then 1 else Float.exp v

/-- Over the cloud there is no log-normal average, and at its edge the other
variable is missing beside the largest temperature. -/
theorem cycle_fills_iff_cloud :
    (logNormal ⟨"chl", 1⟩ : Statistic Float).Fills cloudPasses
    ∧ (∃ out, (onMax ⟨"sst", 0, ["chl"], [1]⟩).cycle 3 edgePasses 0 = .ok out
      ∧ out.length = 2
      ∧ (onMax ⟨"sst", 0, ["chl"], [1]⟩).Shows edgePasses out)
    ∧ @phases Float (@patched Float (Double.withExp raisedExp)
        (fun _ _ => 7) fun _ => 7) (logNormal ⟨"chl", 1⟩)
      = @phases Float (Double.withExp raisedExp) (logNormal ⟨"chl", 1⟩) := by
  have resolved : (StatisticSpec.logNormal "chl").resolve ["sst", "chl"]
      = .ok (logNormal ⟨"chl", 1⟩ : Statistic Float) := rfl
  have resolved' : (StatisticSpec.onMax "sst" ["chl"]).resolve ["sst", "chl"]
      = .ok (onMax ⟨"sst", 0, ["chl"], [1]⟩ : Statistic Exact) := rfl
  have sampled : Sampled ["sst", "chl"] cloudPasses := by
    constructor
    · decide
    · decide
  have noData : ¬ (logNormal ⟨"chl", 1⟩).HasData cloudPasses := by
    rintro ⟨pass, hpass, samples, hsamples, v, hv, -, positive⟩
    have noValue : ∀ pass ∈ cloudPasses, ∀ samples ∈ pass.samples,
        ∀ v ∈ samples[1]?, ¬ 0 < v := by
      decide
    exact noValue pass hpass samples hsamples v hv positive
  have sampled' : Sampled ["sst", "chl"] edgePasses := by
    constructor
    · simp [edgePasses]
    · simp [edgePasses, isFinite_eq_true_iff]
  have data : (onMax ⟨"sst", 0, ["chl"], [1]⟩).HasData edgePasses := by
    simp [HasData, Usable, edgePasses]
  have above : ∀ v, 0 ≤ v → 1 ≤ raisedExp v := by
    intro v nonneg
    unfold raisedExp
    by_cases above : 1 ≤ Float.exp v
    · rwa [if_neg fun raised => raised.2 above]
    · rw [if_pos ⟨nonneg, above⟩]
      decide
  obtain ⟨fills, shows', -, phases_eq⟩ := cycle_fills_iff ["sst", "chl"]
  exact ⟨fills resolved sampled noData,
    (shows' resolved' sampled').2 data 3 0,
    phases_eq raisedExp above _ _ _⟩

end Statistic

end EarthBins
