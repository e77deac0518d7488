/-
Every kind of statistic is confined.

Four kinds do without storage, so all there is to show of them is that
their functions keep the widths. The percentile owns two names, one for the
count of a pass and one for the means of all passes. It is also the only
one that computes an index: that the index is inside the list is where the
law of the number system comes in (`percentileOf_isOk`).
-/
import EarthBins.Proofs.Scalar.Index
import EarthBins.Proofs.Statistic.Confined

namespace EarthBins

open Scalar Outcome

variable {α : Type} [Scalar α]

omit [Scalar α] in
theorem FeatureVector.value_isOk {v : FeatureVector α} {slot : Nat}
    (h : slot < v.length) : ∃ x, v.value slot = .ok x :=
  ⟨v[slot], v.value_eq_ok h⟩

omit [Scalar α] in
theorem length_eq_four {v : FeatureVector α} (h : v.length = 4) :
    ∃ a b c d, v = [a, b, c, d] := by
  match v, h with
  | [a, b, c, d], _ => exact ⟨a, b, c, d, rfl⟩

-- ============================================================== extrema

namespace Extrema

theorem widen_keepsWidth (low high : α) : KeepsWidth 2 (widen low high) := by
  intro v hv
  obtain ⟨a, b, rfl⟩ := List.length_eq_two.mp hv
  exact ⟨_, rfl, rfl⟩

theorem clear_keepsWidth : KeepsWidth (α := α) 2 clear := by
  intro v hv
  obtain ⟨a, b, rfl⟩ := List.length_eq_two.mp hv
  exact ⟨_, rfl, rfl⟩

/-- The extrema are confined, and to no storage at all. -/
theorem confined (e : Extrema) (names : List String) :
    (e.phases : Phases α).Confined names [e.slot] e.names where
  initSpatial := .ofVector clear_keepsWidth names
  observe {samples} hs := by
    obtain ⟨x, hx⟩ := FeatureVector.value_isOk (hs e.slot (by simp))
    refine .ofVector (fun v hv => ?_) names
    obtain ⟨w, hw, hlen⟩ := widen_keepsWidth x x hv
    exact ⟨w, by rw [Extrema.observe, hx, ok_bind, hw], hlen⟩
  completeSpatial _ := .skip names _
  initTemporal := .ofVector clear_keepsWidth names
  addPass {pass} _ hpass := by
    obtain ⟨low, high, rfl⟩ := List.length_eq_two.mp hpass
    exact .ofVector (widen_keepsWidth low high) names
  completeTemporal _ := .skip names _
  output {v} hv := by
    obtain ⟨low, high, rfl⟩ := List.length_eq_two.mp hv
    simp only [phases, Extrema.output]
    split
    · exact ⟨_, rfl, rfl⟩
    · exact ⟨_, rfl, rfl⟩

end Extrema

-- ============================================================== moments

namespace Moments

theorem clear_keepsWidth : KeepsWidth (α := α) 3 clear := by
  intro v hv
  obtain ⟨a, b, c, rfl⟩ := List.length_eq_three.mp hv
  exact ⟨_, rfl, rfl⟩

theorem add_keepsWidth (x : α) : KeepsWidth 3 (add x) := by
  intro v hv
  obtain ⟨a, b, c, rfl⟩ := List.length_eq_three.mp hv
  exact ⟨_, rfl, rfl⟩

end Moments

-- ============================================================== average

namespace Average

/-- The average is confined, and to no storage at all. -/
theorem confined (a : Average α) (names : List String) :
    a.phases.Confined names [a.slot] a.names where
  initSpatial := .ofVector Moments.clear_keepsWidth names
  observe {samples} hs := by
    obtain ⟨x, hx⟩ := FeatureVector.value_isOk (hs a.slot (by simp))
    refine .ofVector (fun v hv => ?_) names
    rw [Average.observe, hx, ok_bind]
    cases isNaN x with
    | true => exact ⟨v, rfl, hv⟩
    | false => exact Moments.add_keepsWidth x hv
  completeSpatial _ := by
    refine .ofVector (fun v hv => ?_) names
    obtain ⟨sum, squares, count, rfl⟩ := List.length_eq_three.mp hv
    simp only [Average.completeSpatial]
    split
    · exact ⟨_, rfl, rfl⟩
    · exact ⟨_, rfl, rfl⟩
  initTemporal := by
    refine .ofVector (fun v hv => ?_) names
    obtain ⟨x, y, z, w, rfl⟩ := length_eq_four hv
    exact ⟨_, rfl, rfl⟩
  addPass {pass} _ hpass := by
    obtain ⟨mean, squares, count, rfl⟩ := List.length_eq_three.mp hpass
    refine .ofVector (fun v hv => ?_) names
    obtain ⟨x, y, z, w, rfl⟩ := length_eq_four hv
    simp only [Average.addPass]
    split
    · exact ⟨_, rfl, rfl⟩
    · exact ⟨_, rfl, rfl⟩
  completeTemporal _ := .skip names _
  output {v} hv := by
    obtain ⟨sum, squares, weights, counts, rfl⟩ := length_eq_four hv
    simp only [phases, Average.output]
    split
    · exact ⟨_, rfl, rfl⟩
    · exact ⟨_, rfl, rfl⟩

end Average

-- =========================================================== log-normal

namespace LogNormal

/-- The log-normal average is confined, and to no storage at all. -/
theorem confined (a : LogNormal) (names : List String) :
    (a.phases : Phases α).Confined names [a.slot] a.names where
  initSpatial := .ofVector Moments.clear_keepsWidth names
  observe {samples} hs := by
    obtain ⟨x, hx⟩ := FeatureVector.value_isOk (hs a.slot (by simp))
    refine .ofVector (fun v hv => ?_) names
    rw [LogNormal.observe, hx, ok_bind]
    show ∃ w, (if isFinite (log x) = true then _ else _) = _ ∧ _
    split
    · exact Moments.add_keepsWidth (log x) hv
    · exact ⟨v, rfl, hv⟩
  completeSpatial _ := by
    refine .ofVector (fun v hv => ?_) names
    obtain ⟨sum, squares, count, rfl⟩ := List.length_eq_three.mp hv
    simp only [LogNormal.completeSpatial]
    split
    · exact ⟨_, rfl, rfl⟩
    · exact ⟨_, rfl, rfl⟩
  initTemporal := .ofVector Moments.clear_keepsWidth names
  addPass {pass} _ hpass := by
    obtain ⟨sum, squares, count, rfl⟩ := List.length_eq_three.mp hpass
    refine .ofVector (fun v hv => ?_) names
    obtain ⟨x, y, z, rfl⟩ := List.length_eq_three.mp hv
    simp only [LogNormal.addPass]
    split
    · exact ⟨_, rfl, rfl⟩
    · exact ⟨_, rfl, rfl⟩
  completeTemporal _ := .skip names _
  output {v} hv := by
    obtain ⟨sum, squares, weights, rfl⟩ := List.length_eq_three.mp hv
    simp only [phases, LogNormal.output]
    split
    · exact ⟨_, rfl, rfl⟩
    · exact ⟨_, rfl, rfl⟩

end LogNormal

-- ======================================================= recorded values

namespace OnMax

theorem clear_keepsWidth (payload : Nat) :
    KeepsWidth (α := α) (payload + 1) clear := by
  intro v hv
  obtain ⟨key, slots, rfl⟩ := List.exists_cons_of_length_eq_add_one hv
  refine ⟨_, rfl, ?_⟩
  rw [← hv, List.length_cons, List.length_cons, FeatureVector.empty,
    List.length_replicate]

omit [Scalar α] in
theorem record_keepsWidth {samples : List α} {indices : List Nat}
    (h : ∀ index ∈ indices, index < samples.length) (width : Nat) :
    KeepsWidth width (record samples indices) := by
  intro v hv
  induction indices generalizing v width with
  | nil =>
      refine ⟨v, ?_, hv⟩
      cases v <;> rfl
  | cons index indices ih =>
      cases v with
      | nil => exact ⟨[], rfl, hv⟩
      | cons slot slots =>
          obtain ⟨x, hx⟩ :=
            FeatureVector.value_isOk (h index List.mem_cons_self)
          obtain ⟨w, hw, hlen⟩ := ih
            (fun i hi => h i (List.mem_cons_of_mem _ hi)) slots.length rfl
          refine ⟨x :: w, ?_, ?_⟩
          · rw [record, hx, ok_bind, hw, ok_bind]
            rfl
          · rw [← hv, List.length_cons, List.length_cons, hlen]

/-- The slots that the recording reads. -/
def slots (m : OnMax) : List Nat := m.keySlot :: m.payloadSlots

/-- The recording is confined, and to no storage at all. -/
theorem confined (m : OnMax) (names : List String) :
    (m.phases : Phases α).Confined names m.slots m.names where
  initSpatial := .ofVector (clear_keepsWidth m.payload.length) names
  observe {samples} hs := by
    obtain ⟨key, hkey⟩ :=
      FeatureVector.value_isOk (hs m.keySlot List.mem_cons_self)
    refine .ofVector (fun v hv => ?_) names
    obtain ⟨largest, slots, rfl⟩ := List.exists_cons_of_length_eq_add_one hv
    rw [OnMax.observe, hkey, ok_bind]
    by_cases hlt : largest < key
    · have payload : ∀ i ∈ m.payloadSlots, i < samples.length :=
        fun i hi => hs i (List.mem_cons_of_mem _ hi)
      obtain ⟨w, hw, hlen⟩ := record_keepsWidth payload slots.length rfl
      refine ⟨key :: w, ?_, ?_⟩
      · simp only [if_pos hlt, hw, ok_bind]
        rfl
      · rw [← hv, List.length_cons, List.length_cons, hlen]
    · refine ⟨largest :: slots, ?_, hv⟩
      simp only [if_neg hlt]
      rfl
  completeSpatial _ := .skip names _
  initTemporal := .ofVector (clear_keepsWidth m.payload.length) names
  addPass {pass} _ hpass := by
    refine .ofVector (fun v hv => ?_) names
    obtain ⟨key, slots, rfl⟩ := List.exists_cons_of_length_eq_add_one hpass
    obtain ⟨largest, rest, rfl⟩ := List.exists_cons_of_length_eq_add_one hv
    simp only [OnMax.addPass]
    split
    · rw [if_pos (hpass.trans hv.symm)]
      exact ⟨_, rfl, hpass⟩
    · exact ⟨_, rfl, hv⟩
  completeTemporal _ := .skip names _
  output {v} hv := by
    obtain ⟨key, slots, rfl⟩ := List.exists_cons_of_length_eq_add_one hv
    simp only [phases, OnMax.output]
    split
    · refine ⟨key :: slots, ?_, hv⟩
      exact if_pos hv
    · exact ⟨_, rfl, List.length_replicate⟩

end OnMax

-- =========================================================== percentile

variable [LawfulIndex α]

/-- A percentile can be read off any list. -/
theorem percentileOf_isOk (percentage : Nat) (sorted : List α) :
    ∃ x, percentileOf percentage sorted = .ok x := by
  unfold percentileOf
  by_cases h0 : sorted.length = 0
  · exact ⟨nan, if_pos h0⟩
  simp only [if_neg h0]
  generalize (ofNat percentage / 100 * ofNat (sorted.length - 1) + 1 : α)
    = rank
  by_cases hlow : rank ≤ 1
  · rw [if_pos hlow]
    exact FeatureVector.value_isOk (by omega)
  rw [if_neg hlow]
  by_cases hhigh : ofNat sorted.length ≤ rank
  · rw [if_pos hhigh]
    exact FeatureVector.value_isOk (by omega)
  rw [if_neg hhigh]
  -- the rank is below the length, and so is its integer part
  have hlt : toNat rank < sorted.length :=
    LawfulIndex.toNat_lt (by omega) hhigh
  obtain ⟨below, hbelow⟩ : ∃ x,
      FeatureVector.value sorted (toNat rank - 1) = .ok x :=
    FeatureVector.value_isOk (by omega)
  obtain ⟨above, habove⟩ : ∃ x,
      FeatureVector.value sorted (toNat rank) = .ok x :=
    FeatureVector.value_isOk hlt
  rw [hbelow, ok_bind, habove, ok_bind]
  exact ⟨_, rfl⟩

namespace Percentile

/-- The names that a percentile owns. -/
def storageNames (p : Percentile) : List String := [p.countKey, p.valuesKey]

theorem countKey_mem (p : Percentile) : p.countKey ∈ p.storageNames :=
  List.mem_cons_self

theorem valuesKey_mem (p : Percentile) : p.valuesKey ∈ p.storageNames :=
  List.mem_cons_of_mem _ List.mem_cons_self

/-- The values of a storage in order, and their percentile. -/
def percentileIn (p : Percentile) (means : Option (Array α)) :
    Except Error α :=
  percentileOf p.percentage ((means.getD #[]).toList.mergeSort totalLE)

/-- The mean of a pass with this sum and this count. -/
def passMean (sum : α) (count : Option Nat) : α :=
  if count.getD 0 = 0 then nan else sum / ofNat (count.getD 0)

omit [LawfulIndex α] in
/-- A completed pass: its mean, and the storage without the count. -/
theorem completeSpatial_eq (p : Percentile) (s : Scratch α) (sum : α) :
    p.completeSpatial s [sum]
      = .ok ((s.take? Entry.count? p.countKey).2,
          [passMean sum (s.take? Entry.count? p.countKey).1]) :=
  rfl

omit [LawfulIndex α] in
/-- A pass adds its mean to the values, unless it is NaN. -/
theorem addPass_eq (p : Percentile) (s : Scratch α) (mean : α)
    (v : FeatureVector α) :
    p.addPass [mean] s v
      = .ok (if isNaN mean then s else s.push p.valuesKey mean, v) := by
  show (if isNaN mean = true then _ else _) = _
  cases isNaN mean with
  | true => rfl
  | false => rfl

omit [LawfulIndex α] in
/-- A completed run: the percentile, and the storage without the values. -/
theorem completeTemporal_eq (p : Percentile) (s : Scratch α) (a : α) :
    p.completeTemporal s [a] = (do
      let x ← p.percentileIn (s.take? Entry.numbers? p.valuesKey).1
      return ((s.take? Entry.numbers? p.valuesKey).2, [x])) :=
  rfl

/-- The percentile keeps to its two names. -/
theorem confined (p : Percentile) :
    (p.phases : Phases α).Confined p.storageNames [p.slot] p.names where
  initSpatial := by
    intro s t v hv agree
    obtain ⟨a, rfl⟩ := List.length_eq_one_iff.mp hv
    exact ⟨_, _, [0], rfl, rfl, rfl, agree.put _ _,
      Scratch.changedOn_put p.countKey_mem _,
      Scratch.changedOn_put p.countKey_mem _⟩
  observe {samples} hs := by
    obtain ⟨x, hx⟩ := FeatureVector.value_isOk (hs p.slot (by simp))
    intro s t v hv agree
    obtain ⟨a, rfl⟩ := List.length_eq_one_iff.mp hv
    simp only [phases, Percentile.observe, hx, ok_bind]
    cases isNaN x with
    | true =>
        exact ⟨s, t, [a], rfl, rfl, rfl, agree,
          Scratch.ChangedOn.refl _ s, Scratch.ChangedOn.refl _ t⟩
    | false =>
        exact ⟨_, _, [a + x], rfl, rfl, rfl,
          agree.increment p.countKey_mem,
          Scratch.changedOn_increment p.countKey_mem,
          Scratch.changedOn_increment p.countKey_mem⟩
  completeSpatial _ := by
    intro s t v hv agree
    obtain ⟨a, rfl⟩ := List.length_eq_one_iff.mp hv
    obtain ⟨same, agree'⟩ := agree.take? p.countKey_mem Entry.count?
    refine ⟨_, _, _, p.completeSpatial_eq s a, ?_, rfl, agree',
      Scratch.changedOn_take? p.countKey_mem _,
      Scratch.changedOn_take? p.countKey_mem _⟩
    rw [same]
    exact p.completeSpatial_eq t a
  initTemporal := by
    intro s t v hv agree
    obtain ⟨a, rfl⟩ := List.length_eq_one_iff.mp hv
    exact ⟨_, _, [nan], rfl, rfl, rfl, agree.put _ _,
      Scratch.changedOn_put p.valuesKey_mem _,
      Scratch.changedOn_put p.valuesKey_mem _⟩
  addPass {pass} _ hpass := by
    obtain ⟨mean, rfl⟩ := List.length_eq_one_iff.mp hpass
    intro s t v hv agree
    refine ⟨_, _, v, p.addPass_eq s mean v, p.addPass_eq t mean v, hv, ?_⟩
    cases isNaN mean with
    | true =>
        exact ⟨agree, Scratch.ChangedOn.refl _ s, Scratch.ChangedOn.refl _ t⟩
    | false =>
        exact ⟨agree.push p.valuesKey_mem mean,
          Scratch.changedOn_push p.valuesKey_mem mean,
          Scratch.changedOn_push p.valuesKey_mem mean⟩
  completeTemporal _ := by
    intro s t v hv agree
    obtain ⟨a, rfl⟩ := List.length_eq_one_iff.mp hv
    obtain ⟨same, agree'⟩ := agree.take? p.valuesKey_mem Entry.numbers?
    obtain ⟨x, hx⟩ : ∃ x,
        p.percentileIn (s.take? Entry.numbers? p.valuesKey).1 = .ok x :=
      percentileOf_isOk _ _
    refine ⟨_, _, [x], ?_, ?_, rfl, agree',
      Scratch.changedOn_take? p.valuesKey_mem _,
      Scratch.changedOn_take? p.valuesKey_mem _⟩
    · show p.completeTemporal s [a] = _
      rw [completeTemporal_eq, hx, ok_bind]
      rfl
    · show p.completeTemporal t [a] = _
      rw [completeTemporal_eq, ← same, hx, ok_bind]
      rfl
  output {v} hv := by
    obtain ⟨a, rfl⟩ := List.length_eq_one_iff.mp hv
    exact ⟨_, rfl, rfl⟩

end Percentile

-- ============================================================ all kinds

namespace Statistic

omit [Scalar α] [LawfulIndex α] in
/-- The storage names that a statistic owns. -/
def storageNames : Statistic α → List String
  | percentile p => p.storageNames
  | _ => []

omit [Scalar α] [LawfulIndex α] in
/-- The slots of the samples that a statistic reads. -/
def slots : Statistic α → List Nat
  | logNormal a => [a.slot]
  | onMax m => m.slots
  | average a => [a.slot]
  | extrema e => [e.slot]
  | percentile p => [p.slot]

/-- Every statistic keeps to its names, its slots and its widths. -/
theorem confined (s : Statistic α) :
    s.phases.Confined s.storageNames s.slots s.names := by
  cases s with
  | logNormal a => exact a.confined []
  | onMax m => exact m.confined []
  | average a => exact a.confined []
  | extrema e => exact e.confined []
  | percentile p => exact p.confined

end Statistic

end EarthBins
