/-
Recorded values are those of the first observation with the largest key.

Over a whole run one observation is singled out: the first, pass by pass and
in order within a pass, whose key no other key is above. Keys that are NaN
or minus infinity do not count. The output features are the samples of this
one observation, key and payload together (`Statistic.cycle_records_first`),
and where no key counts there is no data.

The search for it is one search through all passes
(`OnMax.ofRun_eq_ofPass`), so an equal key in a later pass is not taken
either.
-/
import EarthBins.Proofs.Statistic.Recorded
import EarthBins.Proofs.Statistic.Selection

namespace EarthBins

open Scalar Outcome

variable {α : Type} [Scalar α]

-- ========================================================== observations

/-- The sample of a variable: it has the place in sample vectors that the
variable has among those of the run. -/
def sampleOf? (known : List String) (name : String) (samples : List α) :
    Option α :=
  samples[known.idxOf name]?

/-- Whether a key counts. -/
def KeyCounts (k : α) : Prop :=
  isNaN k = false ∧ -infinity < k

/-- Whether the key of an observation counts, and no key of some
observations that counts is larger. -/
def KeyMaximal (known : List String) (key : String) (vectors : List (List α))
    (samples : List α) : Prop :=
  ∃ k ∈ sampleOf? known key samples, KeyCounts k
    ∧ ∀ other ∈ vectors, ∀ k' ∈ sampleOf? known key other,
      KeyCounts k' → k' ≤ k

/-- Whether an observation is the first of some whose key is maximal. -/
def FirstMaximal (known : List String) (key : String)
    (vectors : List (List α)) (samples : List α) : Prop :=
  ∃ before after, vectors = before ++ samples :: after
    ∧ KeyMaximal known key vectors samples
    ∧ ∀ other ∈ before, ¬ KeyMaximal known key vectors other

-- ============================================================ the winner

namespace OnMax

variable {m : OnMax} {known : List String} {key : String}

/-- A sample vector is a reading if its key counts. -/
theorem keyed_of_keyCounts (slot : m.keySlot = known.idxOf key)
    {samples : List α} {k : α} (hk : k ∈ sampleOf? known key samples)
    (counts : KeyCounts k) :
    m.keyed samples
      = some (k, payloadOf samples m.payloadSlots m.payload.length) := by
  rw [keyed_eq_some_iff, slot]
  exact ⟨hk, counts.2, rfl⟩

/-- The key of a reading is that of its sample vector, and counts. -/
theorem key_of_keyed [LawfulScalar α] (slot : m.keySlot = known.idxOf key)
    {samples : List α} {entry : α × FeatureVector α}
    (h : m.keyed samples = some entry) :
    entry.1 ∈ sampleOf? known key samples ∧ KeyCounts entry.1 := by
  obtain ⟨hk, above, -⟩ := keyed_eq_some_iff.mp h
  rw [slot] at hk
  exact ⟨hk, (LawfulScalar.isNaN_of_lt above).2, above⟩

/-- The first reading with the largest key is that of the first sample
vector whose key is maximal. -/
theorem firstMaximal_of_foremost [OrderedScalar α]
    (slot : m.keySlot = known.idxOf key) {vectors : List (List α)}
    {entry : α × FeatureVector α}
    (h : Foremost (fun a b => a.1 < b.1) (vectors.filterMap m.keyed) entry) :
    ∃ samples ∈ vectors, FirstMaximal known key vectors samples
      ∧ m.keyed samples = some entry := by
  have highest := h.not_below ranks_key
  obtain ⟨before, samples, after, split, read, less, -⟩ := h.of_filterMap
  obtain ⟨hkey, counts⟩ := key_of_keyed slot read
  have mem : samples ∈ vectors := by
    rw [split]
    exact List.mem_append_right _ List.mem_cons_self
  refine ⟨samples, mem, ⟨before, after, split, ?_, ?_⟩, read⟩
  · refine ⟨entry.1, hkey, counts, ?_⟩
    intro other hother k' hk' counts'
    have read' := keyed_of_keyCounts slot hk' counts'
    exact SignedScalar.le_of_not_lt counts.1 counts'.1
      (highest _ (List.mem_filterMap.mpr ⟨other, hother, read'⟩))
  · rintro other hother ⟨k', hk', counts', maximal⟩
    have read' := keyed_of_keyCounts slot hk' counts'
    exact SignedScalar.not_le_of_lt (less other hother _ read')
      (maximal samples mem entry.1 hkey counts)

/-- Where there is no reading, no key counts. -/
theorem not_keyCounts_of_filterMap (slot : m.keySlot = known.idxOf key)
    {vectors : List (List α)} (h : vectors.filterMap m.keyed = []) :
    ∀ samples ∈ vectors, ∀ k ∈ sampleOf? known key samples,
      ¬ KeyCounts k := by
  intro samples hsamples k hk counts
  have none := List.filterMap_eq_nil_iff.mp h samples hsamples
  rw [keyed_of_keyCounts slot hk counts] at none
  cases none

/-- What is recorded of a sample vector are its samples of the payload. -/
theorem forall₂_recorded {payload : List String} {slots : List Nat}
    (recorded : payload.mapM (requireVariable known) = .ok slots)
    {samples : List α} (enough : known.length ≤ samples.length) :
    List.Forall₂ (fun name y => sampleOf? known name samples = some y)
      payload (payloadOf samples slots payload.length) := by
  have places : slots.map id = payload.map (known.idxOf ·) :=
    map_of_mapM recorded fun name _ slot found =>
      eq_idxOf_of_requireVariable found
  rw [List.map_id] at places
  have inside : ∀ slot ∈ slots, slot < samples.length := by
    intro slot hslot
    obtain ⟨name, -, found⟩ := exists_of_mem_mapM recorded hslot
    exact (requireVariable_lt found).trans_le enough
  have width : slots.length = payload.length := by
    rw [places, List.length_map]
  have samplesOf := forall₂_payloadOf inside
  rw [width, places, List.forall₂_map_left_iff] at samplesOf
  rwa [places]

end OnMax

-- ========================================================== a whole cycle

namespace Statistic

/-- The output of recorded values is the key and the payload of one
observation, the first of all passes whose key is maximal among the keys
that are above minus infinity; it is no data where no key is. -/
theorem cycle_records_first {known : List String} {key : String}
    {payload : List String} {x : Statistic Float}
    (resolved : (StatisticSpec.onMax key payload).resolve known = .ok x)
    {passes : List (PassSamples Float)}
    (sampled : ∀ samples ∈ passes.flatMap (·.samples),
      known.length ≤ samples.length) (bin numObs : Nat) :
    (∃ samples out,
      FirstMaximal known key (passes.flatMap (·.samples)) samples
      ∧ x.cycle bin passes numObs = .ok out
      ∧ List.Forall₂ (fun name y => sampleOf? known name samples = some y)
        (key :: payload) out)
    ∨ ((∀ samples ∈ passes.flatMap (·.samples),
        ∀ k ∈ sampleOf? known key samples, ¬ KeyCounts k)
      ∧ x.cycle bin passes numObs
        = .ok (List.replicate (payload.length + 1) x.fillValue)) := by
  have fits : x.Fits passes := by
    intro pass hpass samples hsamples slot hslot
    exact (StatisticSpec.slots_lt resolved slot hslot).trans_le
      (sampled samples (List.mem_flatMap.mpr ⟨pass, hpass, hsamples⟩))
  cases StatisticSpec.resolves_of_resolve resolved with
  | onMax recorded found =>
      have slot := eq_idxOf_of_requireVariable found
      rcases cycle_onMax_cases fits bin numObs with
        ⟨none, shown⟩ | ⟨entry, first, shown⟩
      · refine Or.inr ⟨OnMax.not_keyCounts_of_filterMap slot none, ?_⟩
        rw [shown]
        exact if_neg (LawfulScalar.lt_irrefl _)
      · obtain ⟨samples, here, firstMaximal, read⟩ :=
          OnMax.firstMaximal_of_foremost slot first
        exact Or.inl ⟨samples, _, firstMaximal,
          shown.trans (OnMax.output_of_keyed read),
          .cons (OnMax.key_of_keyed slot read).1
            (OnMax.forall₂_recorded recorded (sampled samples here))⟩

/-- Keys that do not count, then both zeros in one pass, which are equal,
and a zero again in another. -/
def zeroPasses : List (PassSamples Float) :=
  [⟨2, [[nan, 9], [-infinity, 8]]⟩, ⟨2, [[-0, nan], [0, 5]]⟩,
    ⟨1, [[0, 6]]⟩]

/-- The observation with minus zero comes first, and it is recorded although
its payload is missing. -/
theorem cycle_records_first_tie :
    (StatisticSpec.onMax "sst" ["chl"]).resolve ["sst", "chl"]
      = .ok (onMax ⟨"sst", 0, ["chl"], [1]⟩ : Statistic Float)
    ∧ (∀ samples ∈ zeroPasses.flatMap (·.samples), 2 ≤ samples.length)
    ∧ (onMax ⟨"sst", 0, ["chl"], [1]⟩).cycle 3 zeroPasses 5 = .ok [-0, nan]
    ∧ ∃ samples,
      FirstMaximal ["sst", "chl"] "sst" (zeroPasses.flatMap (·.samples))
        samples
      ∧ List.Forall₂
        (fun name y => sampleOf? ["sst", "chl"] name samples = some y)
        ["sst", "chl"] [-0, nan] := by
  have resolved : (StatisticSpec.onMax "sst" ["chl"]).resolve ["sst", "chl"]
      = .ok (onMax ⟨"sst", 0, ["chl"], [1]⟩ : Statistic Float) := rfl
  have sampled : ∀ samples ∈ zeroPasses.flatMap (·.samples),
      2 ≤ samples.length := by
    decide
  have recorded : (onMax ⟨"sst", 0, ["chl"], [1]⟩).cycle 3 zeroPasses 5
      = .ok [-0, nan] := by
    rfl
  refine ⟨resolved, sampled, recorded, ?_⟩
  rcases cycle_records_first resolved sampled 3 5 with
    ⟨samples, out, first, shown, values⟩ | ⟨none, -⟩
  · rw [recorded] at shown
    cases shown
    exact ⟨samples, first, values⟩
  · have counts : KeyCounts (0 : Float) := by
      unfold KeyCounts
      decide
    exact absurd counts (none [0, 6] (by simp [zeroPasses]) 0 rfl)

end Statistic

end EarthBins
