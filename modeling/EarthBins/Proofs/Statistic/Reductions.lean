/-
Every kind of statistic as a reduction.

What is read in a sample vector is the sample of one slot unless it is NaN,
its logarithm if that is finite, or a key above minus infinity with its
payload. Readings go into sums, into extrema or into the entry with the
largest key, and passes into sums of weighted means, into extrema again, or
into a list of means. The vectors hold the states as they are; only the
percentile keeps part of them in the storage.
-/
import EarthBins.Proofs.Statistic.Cycle

namespace EarthBins

open Scalar Outcome

variable {α : Type}

theorem FeatureVector.value_eq_ok_iff {v : FeatureVector α} {slot : Nat}
    {x : α} : v.value slot = .ok x ↔ v[slot]? = some x := by
  unfold value
  cases v[slot]? with
  | none => exact iff_of_false nofun nofun
  | some y =>
      show Except.ok y = .ok x ↔ _
      rw [Except.ok.injEq, Option.some.injEq]

/-- A step without storage does what its function does. -/
theorem Phase.ofVector_eq_ok {f : FeatureVector α → Except Error
    (FeatureVector α)} {v w : FeatureVector α} (h : f v = .ok w)
    (s : Scratch α) : Phase.ofVector f s v = .ok (s, w) := by
  rw [Phase.ofVector, h]
  rfl

variable [Scalar α]

/-- The sample of a slot, unless it is NaN. -/
def usable (slot : Nat) (samples : List α) : Option α :=
  samples[slot]?.filter fun x => !isNaN x

theorem usable_of_isNaN {samples : List α} {slot : Nat} {x : α}
    (hx : samples[slot]? = some x) (h : isNaN x = true) :
    usable slot samples = none := by
  rw [usable, hx, Option.filter_some, h]
  rfl

theorem usable_of_not_isNaN {samples : List α} {slot : Nat} {x : α}
    (hx : samples[slot]? = some x) (h : isNaN x = false) :
    usable slot samples = some x := by
  rw [usable, hx, Option.filter_some, h]
  rfl

omit [Scalar α] in
theorem exists_sample {samples : List α} {slots : List Nat} {slot : Nat}
    (enough : ∀ slot ∈ slots, slot < samples.length) (h : slot ∈ slots) :
    ∃ x, samples[slot]? = some x :=
  ⟨_, List.getElem?_eq_getElem (enough slot h)⟩

-- ============================================================== extrema

namespace Extrema

/-- The smaller of two values; the first if they are not compared. -/
def lower (least x : α) : α := if x < least then x else least

/-- The larger of two values; the first if they are not compared. -/
def higher (greatest x : α) : α := if greatest < x then x else greatest

variable [LawfulScalar α] {least greatest : α}

theorem isNaN_lower (h : isNaN least = false) (x : α) :
    isNaN (lower least x) = false := by
  unfold lower
  split
  · rename_i lt
    exact (LawfulScalar.isNaN_of_lt lt).1
  · exact h

theorem isNaN_higher (h : isNaN greatest = false) (x : α) :
    isNaN (higher greatest x) = false := by
  unfold higher
  split
  · rename_i lt
    exact (LawfulScalar.isNaN_of_lt lt).2
  · exact h

omit [LawfulScalar α] in
theorem widen_eq (low high : α) (hleast : isNaN least = false)
    (hgreatest : isNaN greatest = false) :
    widen low high [least, greatest]
      = .ok [lower least low, higher greatest high] := by
  rw [widen, minimum, maximum, hleast, hgreatest]
  rfl

/-- NaN does not widen a range. -/
theorem lower_of_isNaN {x : α} (h : isNaN x = true) :
    lower least x = least := by
  refine if_neg fun lt => ?_
  rw [(LawfulScalar.isNaN_of_lt lt).1] at h
  cases h

theorem higher_of_isNaN {x : α} (h : isNaN x = true) :
    higher greatest x = greatest := by
  refine if_neg fun lt => ?_
  rw [(LawfulScalar.isNaN_of_lt lt).2] at h
  cases h

/-- The range of the readings. -/
@[reducible]
def reduction (e : Extrema) : Reduction α where
  Reading := α
  PassState := α × α
  RunState := α × α
  read := usable e.slot
  start := (infinity, -infinity)
  fold s x := (lower s.1 x, higher s.2 x)
  vector s := [s.1, s.2]
  begin := (infinity, -infinity)
  merge s pass := (lower s.1 pass.1, higher s.2 pass.2)
  finish s := .ok [s.1, s.2]
  Holds s _ v := v = [s.1, s.2] ∧ isNaN s.1 = false ∧ isNaN s.2 = false
  HoldsRun s _ v := v = [s.1, s.2] ∧ isNaN s.1 = false ∧ isNaN s.2 = false

theorem reducesTo (e : Extrema) :
    (e.phases : Phases α).ReducesTo e.names [e.slot] e.reduction where
  initSpatial s v hv := by
    obtain ⟨a, b, rfl⟩ := List.length_eq_two.mp hv
    exact ⟨s, _, rfl, rfl, LawfulScalar.isNaN_infinity,
      LawfulScalar.isNaN_neg_infinity⟩
  observe {samples} enough state s v holds := by
    obtain ⟨rfl, low, high⟩ := holds
    obtain ⟨x, hx⟩ := exists_sample enough List.mem_cons_self
    have widened : e.observe samples [state.1, state.2]
        = .ok [lower state.1 x, higher state.2 x] := by
      rw [observe, FeatureVector.value_eq_ok_iff.mpr hx, ok_bind,
        widen_eq x x low high]
    refine ⟨s, _, Phase.ofVector_eq_ok widened s, ?_⟩
    cases isNaN_x : isNaN x with
    | true =>
        rw [show e.reduction.read samples = none from
          usable_of_isNaN hx isNaN_x, lower_of_isNaN isNaN_x,
          higher_of_isNaN isNaN_x]
        exact ⟨rfl, low, high⟩
    | false =>
        rw [show e.reduction.read samples = some x from
          usable_of_not_isNaN hx isNaN_x]
        exact ⟨rfl, isNaN_lower low x, isNaN_higher high x⟩
  completeSpatial n state s v holds := by
    obtain ⟨rfl, -, -⟩ := holds
    exact ⟨s, rfl⟩
  initTemporal s v hv := by
    obtain ⟨a, b, rfl⟩ := List.length_eq_two.mp hv
    exact ⟨s, _, rfl, rfl, LawfulScalar.isNaN_infinity,
      LawfulScalar.isNaN_neg_infinity⟩
  addPass n pass s v held run t w holds := by
    obtain ⟨rfl, low, high⟩ := holds
    have widened : addPass [pass.1, pass.2] [run.1, run.2]
        = .ok [lower run.1 pass.1, higher run.2 pass.2] :=
      widen_eq pass.1 pass.2 low high
    exact ⟨t, _, Phase.ofVector_eq_ok widened t, rfl, isNaN_lower low _,
      isNaN_higher high _⟩
  completeTemporal n run s v holds := by
    obtain ⟨rfl, -, -⟩ := holds
    rfl
  merge_start run := by
    refine Prod.ext ?_ ?_
    · exact if_neg (LawfulScalar.not_infinity_lt run.1)
    · exact if_neg (LawfulScalar.not_lt_neg_infinity run.2)

end Extrema

-- ============================================================== moments

/-- A sum, a sum of squares and a count. -/
structure Sums (α : Type) where
  sum : α
  squares : α
  count : α

namespace Sums

/-- The sums of no values. -/
def zero : Sums α := ⟨0, 0, 0⟩

/-- The sums with one more value. -/
def add (m : Sums α) (x : α) : Sums α :=
  ⟨m.sum + x, m.squares + x * x, m.count + 1⟩

omit [Scalar α] in
/-- The sums in the slots of a vector. -/
def vector (m : Sums α) : FeatureVector α := [m.sum, m.squares, m.count]

end Sums

-- ============================================================== average

namespace Average

/-- The sums of a pass turned into means. -/
def completed (m : Sums α) : Sums α :=
  if 0 < m.count then ⟨m.sum / m.count, m.squares / m.count, m.count⟩
  else ⟨nan, nan, m.count⟩

omit [Scalar α] in
/-- Weighted sums of the means of passes, and the sample count. -/
structure Weighed (α : Type) where
  sum : α
  squares : α
  weights : α
  counts : α

/-- The sums with one more pass. -/
def weigh (a : Average α) (run : Weighed α) (means : Sums α) : Weighed α :=
  if isNaN means.sum || !decide (0 < means.count) then run
  else
    let weight := pow means.count a.weightCoeff
    ⟨run.sum + means.sum * weight, run.squares + means.squares * weight,
      run.weights + weight, run.counts + means.count⟩

omit [Scalar α] in
/-- The weighted sums in the slots of a vector. -/
def Weighed.vector (run : Weighed α) : FeatureVector α :=
  [run.sum, run.squares, run.weights, run.counts]

theorem completeSpatial_eq (m : Sums α) :
    completeSpatial m.vector = .ok (completed m).vector := by
  show (if 0 < m.count then _ else _) = _
  unfold completed
  split
  · rfl
  · rfl

theorem addPass_eq (a : Average α) (run : Weighed α) (means : Sums α) :
    a.addPass means.vector run.vector = .ok (a.weigh run means).vector := by
  show (if (isNaN means.sum || !decide (0 < means.count)) = true then _
    else _) = _
  unfold weigh
  by_cases skipped : (isNaN means.sum || !decide (0 < means.count)) = true
  · rw [if_pos skipped, if_pos skipped]
  · rw [if_neg skipped, if_neg skipped]
    rfl

/-- The sample of a sample vector is added to the sums, if it is of use. -/
theorem observe_eq (a : Average α) {samples : List α}
    (enough : a.slot < samples.length) (m : Sums α) :
    a.observe samples m.vector
      = .ok ((usable a.slot samples).elim m m.add).vector := by
  have hx := List.getElem?_eq_getElem enough
  rw [observe, FeatureVector.value_eq_ok_iff.mpr hx, ok_bind]
  cases isNaN_x : isNaN samples[a.slot] with
  | true =>
      rw [usable_of_isNaN hx isNaN_x]
      rfl
  | false =>
      rw [usable_of_not_isNaN hx isNaN_x]
      rfl

/-- The weighted means of the readings. -/
@[reducible]
def reduction (a : Average α) : Reduction α where
  Reading := α
  PassState := Sums α
  RunState := Weighed α
  read := usable a.slot
  start := .zero
  fold := Sums.add
  vector m := (completed m).vector
  begin := ⟨0, 0, 0, 0⟩
  merge run m := a.weigh run (completed m)
  finish run := .ok run.vector
  Holds m _ v := v = m.vector
  HoldsRun run _ v := v = run.vector

variable [LawfulScalar α]

/-- A pass without a reading has no means. -/
theorem completed_zero :
    completed (Sums.zero : Sums α) = ⟨nan, nan, 0⟩ :=
  if_neg (LawfulScalar.lt_irrefl 0)

theorem reducesTo (a : Average α) :
    a.phases.ReducesTo a.names [a.slot] a.reduction where
  initSpatial s v hv := by
    obtain ⟨x, y, z, rfl⟩ := List.length_eq_three.mp hv
    exact ⟨s, _, rfl, rfl⟩
  observe {samples} enough state s v holds := by
    obtain rfl := holds
    have observed := a.observe_eq (enough a.slot List.mem_cons_self) state
    exact ⟨s, _, Phase.ofVector_eq_ok observed s, rfl⟩
  completeSpatial n state s v holds := by
    obtain rfl := holds
    exact ⟨s, Phase.ofVector_eq_ok (completeSpatial_eq state) s⟩
  initTemporal s v hv := by
    obtain ⟨x, y, z, w, rfl⟩ := length_eq_four hv
    exact ⟨s, _, rfl, rfl⟩
  addPass n pass s v held run t w holds := by
    obtain rfl := holds
    exact ⟨t, _, Phase.ofVector_eq_ok (a.addPass_eq run _) t, rfl⟩
  completeTemporal n run s v holds := by
    obtain rfl := holds
    rfl
  merge_start run := by
    show a.weigh run (completed Sums.zero) = run
    unfold weigh
    rw [completed_zero, LawfulScalar.isNaN_nan]
    rfl

end Average

-- =========================================================== log-normal

namespace LogNormal

/-- The logarithm of the sample of a slot, if it is finite. -/
def usableLog (slot : Nat) (samples : List α) : Option α :=
  (samples[slot]?.map log).filter isFinite

/-- The sums with one more pass, whose sums are scaled. -/
def addScaled (run pass : Sums α) : Sums α :=
  if 0 < pass.count then
    ⟨run.sum + pass.sum / sqrt pass.count,
      run.squares + pass.squares / sqrt pass.count,
      run.count + sqrt pass.count⟩
  else run

/-- The sums of a pass, scaled if there is a reading. -/
def scaled (m : Sums α) : Sums α :=
  if 0 < m.count then
    ⟨m.sum / sqrt m.count, m.squares / sqrt m.count, m.count⟩
  else m

theorem completeSpatial_eq (m : Sums α) :
    completeSpatial m.vector = .ok (scaled m).vector := by
  show (if 0 < m.count then _ else _) = _
  unfold scaled
  split
  · rfl
  · rfl

theorem addPass_eq (run m : Sums α) :
    addPass (scaled m).vector run.vector = .ok (addScaled run m).vector := by
  unfold scaled addScaled
  by_cases positive : 0 < m.count
  · rw [if_pos positive, if_pos positive]
    exact if_pos positive
  · rw [if_neg positive, if_neg positive]
    exact if_neg positive

/-- The moments of the logarithms. -/
@[reducible]
def reduction (a : LogNormal) : Reduction α where
  Reading := α
  PassState := Sums α
  RunState := Sums α
  read := usableLog a.slot
  start := .zero
  fold := Sums.add
  vector m := (scaled m).vector
  begin := .zero
  merge := addScaled
  finish run := .ok run.vector
  Holds m _ v := v = m.vector
  HoldsRun run _ v := v = run.vector

variable [LawfulScalar α]

theorem reducesTo (a : LogNormal) :
    (a.phases : Phases α).ReducesTo a.names [a.slot] a.reduction where
  initSpatial s v hv := by
    obtain ⟨x, y, z, rfl⟩ := List.length_eq_three.mp hv
    exact ⟨s, _, rfl, rfl⟩
  observe {samples} enough state s v holds := by
    obtain rfl := holds
    obtain ⟨x, hx⟩ := exists_sample enough List.mem_cons_self
    have value := FeatureVector.value_eq_ok_iff.mpr hx
    have read : a.reduction.read samples
        = if isFinite (log x) then some (log x) else none := by
      show usableLog a.slot samples = _
      rw [usableLog, hx, Option.map_some, Option.filter_some]
    rw [read]
    cases finite : isFinite (log x) with
    | true =>
        refine ⟨s, _, Phase.ofVector_eq_ok ?_ s, rfl⟩
        rw [observe, value, ok_bind]
        dsimp only
        rw [finite]
        rfl
    | false =>
        refine ⟨s, _, Phase.ofVector_eq_ok ?_ s, rfl⟩
        rw [observe, value, ok_bind]
        dsimp only
        rw [finite]
        rfl
  completeSpatial n state s v holds := by
    obtain rfl := holds
    exact ⟨s, Phase.ofVector_eq_ok (completeSpatial_eq state) s⟩
  initTemporal s v hv := by
    obtain ⟨x, y, z, rfl⟩ := List.length_eq_three.mp hv
    exact ⟨s, _, rfl, rfl⟩
  addPass n pass s v held run t w holds := by
    obtain rfl := holds
    exact ⟨t, _, Phase.ofVector_eq_ok (addPass_eq run pass) t, rfl⟩
  completeTemporal n run s v holds := by
    obtain rfl := holds
    rfl
  merge_start run := if_neg (LawfulScalar.lt_irrefl 0)

end LogNormal

-- ======================================================= recorded values

namespace OnMax

/-- The payload of a sample vector in as many slots as there are for it. -/
def payloadOf (samples : List α) : List Nat → Nat → FeatureVector α
  | index :: indices, width + 1 =>
    samples[index]?.getD nan :: payloadOf samples indices width
  | _, width => FeatureVector.empty width

/-- Whether the slots behind those of a payload hold nothing. -/
def BlankBehind (indices : List Nat) (slots : FeatureVector α) : Prop :=
  slots.drop indices.length
    = FeatureVector.empty (slots.length - indices.length)

theorem length_payloadOf (samples : List α) (indices : List Nat)
    (width : Nat) : (payloadOf samples indices width).length = width := by
  induction indices generalizing width with
  | nil => exact List.length_replicate
  | cons index indices ih =>
      cases width with
      | zero => rfl
      | succ width => rw [payloadOf, List.length_cons, ih]

theorem blankBehind_empty (indices : List Nat) (width : Nat) :
    BlankBehind indices (FeatureVector.empty width : FeatureVector α) := by
  rw [BlankBehind, FeatureVector.empty, List.drop_replicate,
    List.length_replicate]
  rfl

theorem blankBehind_payloadOf (samples : List α) (indices : List Nat)
    (width : Nat) : BlankBehind indices (payloadOf samples indices width) := by
  induction indices generalizing width with
  | nil => exact blankBehind_empty [] width
  | cons index indices ih =>
      cases width with
      | zero => exact blankBehind_empty _ 0
      | succ width =>
          have behind := ih width
          rw [BlankBehind] at behind ⊢
          rw [payloadOf, List.length_cons, List.length_cons,
            List.drop_succ_cons, behind, Nat.add_sub_add_right]

/-- What is recorded is the payload, whatever was recorded before. -/
theorem record_eq {samples : List α} {indices : List Nat}
    {slots : FeatureVector α}
    (enough : ∀ index ∈ indices, index < samples.length)
    (blank : BlankBehind indices slots) :
    record samples indices slots
      = .ok (payloadOf samples indices slots.length) := by
  induction indices generalizing slots with
  | nil =>
      have same : slots = FeatureVector.empty slots.length := blank
      calc record samples [] slots
          = .ok slots := by cases slots <;> rfl
        _ = .ok (payloadOf samples [] slots.length) := by
          rw [payloadOf, ← same]
          nofun
  | cons index indices ih =>
      cases slots with
      | nil => rfl
      | cons slot slots =>
          have behind : BlankBehind indices slots := by
            rw [BlankBehind, List.length_cons, List.length_cons,
              List.drop_succ_cons, Nat.add_sub_add_right] at blank
            exact blank
          have here := List.getElem?_eq_getElem
            (enough index List.mem_cons_self)
          rw [record, FeatureVector.value_eq_ok_iff.mpr here, ok_bind,
            ih (fun i hi => enough i (List.mem_cons_of_mem _ hi)) behind,
            List.length_cons, payloadOf, here]
          rfl

/-- A key above minus infinity, and its payload. -/
def keyed (m : OnMax) (samples : List α) : Option (α × FeatureVector α) :=
  (samples[m.keySlot]?.filter fun key => decide (-infinity < key)).map
    fun key => (key, payloadOf samples m.payloadSlots m.payload.length)

/-- The entry with the larger key; the first of equal ones. -/
def leading (best new : α × FeatureVector α) : α × FeatureVector α :=
  if best.1 < new.1 then new else best

/-- No entry. -/
def nothing (m : OnMax) : α × FeatureVector α :=
  (-infinity, FeatureVector.empty m.payload.length)

/-- Whether an entry has the width of the payload, and every key above its
own is a reading. -/
def Sound (m : OnMax) (entry : α × FeatureVector α) : Prop :=
  entry.2.length = m.payload.length ∧ BlankBehind m.payloadSlots entry.2
  ∧ ∀ key, entry.1 < key → -infinity < key

/-- The entry with the largest key. -/
@[reducible]
def reduction (m : OnMax) : Reduction α where
  Reading := α × FeatureVector α
  PassState := α × FeatureVector α
  RunState := α × FeatureVector α
  read := m.keyed
  start := m.nothing
  fold := leading
  vector entry := entry.1 :: entry.2
  begin := m.nothing
  merge := leading
  finish entry := .ok (entry.1 :: entry.2)
  Holds entry _ v := v = entry.1 :: entry.2 ∧ m.Sound entry
  HoldsRun entry _ v := v = entry.1 :: entry.2 ∧ m.Sound entry

theorem sound_nothing (m : OnMax) :
    m.Sound (m.nothing : α × FeatureVector α) :=
  ⟨List.length_replicate, blankBehind_empty _ _, fun _ above => above⟩

theorem Sound.leading {m : OnMax} {best new : α × FeatureVector α}
    (h : m.Sound best) (h' : m.Sound new) : m.Sound (leading best new) := by
  unfold OnMax.leading
  split
  · exact h'
  · exact h

theorem clear_eq (m : OnMax) {v : FeatureVector α}
    (hv : v.length = m.payload.length + 1) :
    clear v = .ok (-infinity :: FeatureVector.empty m.payload.length) := by
  obtain ⟨key, slots, rfl⟩ := List.exists_cons_of_length_eq_add_one hv
  rw [clear, ← Nat.succ.inj hv]

theorem addPass_eq {run pass : α × FeatureVector α}
    (width : pass.2.length = run.2.length) :
    addPass (pass.1 :: pass.2) (run.1 :: run.2)
      = .ok ((leading run pass).1 :: (leading run pass).2) := by
  rw [addPass, List.length_cons, List.length_cons, width, if_pos rfl]
  unfold leading
  split
  · rfl
  · rfl

variable [LawfulScalar α]

/-- A sample vector leads if its key is above that of the entry. A key that
is not a reading is not above any. -/
theorem observe_eq {m : OnMax} {samples : List α}
    (enough : ∀ slot ∈ m.slots, slot < samples.length)
    {entry : α × FeatureVector α} (sound : m.Sound entry) :
    ∃ entry', m.observe samples (entry.1 :: entry.2)
        = .ok (entry'.1 :: entry'.2)
      ∧ (m.keyed samples).elim entry (leading entry) = entry'
      ∧ m.Sound entry' := by
  obtain ⟨width, blank, above⟩ := sound
  obtain ⟨key, hkey⟩ := exists_sample enough List.mem_cons_self
  have value := FeatureVector.value_eq_ok_iff.mpr hkey
  by_cases larger : entry.1 < key
  · have payload : ∀ i ∈ m.payloadSlots, i < samples.length :=
      fun i hi => enough i (List.mem_cons_of_mem _ hi)
    refine ⟨(key, payloadOf samples m.payloadSlots m.payload.length),
      ?_, ?_, ?_⟩
    · rw [observe, value, ok_bind]
      simp only [if_pos larger, record_eq payload blank, ok_bind, width]
      rfl
    · rw [keyed, hkey, Option.filter_some, decide_eq_true (above key larger)]
      exact if_pos larger
    · exact ⟨length_payloadOf _ _ _, blankBehind_payloadOf _ _ _,
        fun _ above' => LawfulScalar.lt_trans (above key larger) above'⟩
  · refine ⟨entry, ?_, ?_, width, blank, above⟩
    · rw [observe, value, ok_bind]
      simp only [if_neg larger]
      rfl
    · rw [keyed, hkey, Option.filter_some]
      split
      · exact if_neg larger
      · rfl

theorem reducesTo (m : OnMax) :
    (m.phases : Phases α).ReducesTo m.names m.slots m.reduction where
  initSpatial s v hv :=
    ⟨s, _, Phase.ofVector_eq_ok (m.clear_eq hv) s, rfl, m.sound_nothing⟩
  observe {samples} enough state s v holds := by
    obtain ⟨rfl, sound⟩ := holds
    obtain ⟨entry, observed, rfl, sound'⟩ := observe_eq enough sound
    exact ⟨s, _, Phase.ofVector_eq_ok observed s, rfl, sound'⟩
  completeSpatial n state s v holds := by
    obtain ⟨rfl, -⟩ := holds
    exact ⟨s, rfl⟩
  initTemporal s v hv :=
    ⟨s, _, Phase.ofVector_eq_ok (m.clear_eq hv) s, rfl, m.sound_nothing⟩
  addPass n pass s v held run t w holds := by
    obtain ⟨-, sound⟩ := held
    obtain ⟨rfl, sound'⟩ := holds
    have added := addPass_eq (sound.1.trans sound'.1.symm)
    exact ⟨t, _, Phase.ofVector_eq_ok added t, rfl, sound'.leading sound⟩
  completeTemporal n run s v holds := by
    obtain ⟨rfl, -⟩ := holds
    rfl
  merge_start run := if_neg (LawfulScalar.not_lt_neg_infinity run.1)

end OnMax

-- =========================================================== percentile

namespace Percentile

/-- The means with that of one more pass, unless it is NaN. -/
def collect (means : List α) (mean : α) : List α :=
  if isNaN mean then means else means ++ [mean]

/-- Whether the storage holds some means, in order. -/
def Collected (p : Percentile) (means : List α) (s : Scratch α) : Prop :=
  ∃ values, s.get? Entry.numbers? p.valuesKey = some values
    ∧ values.toList = means

/-- The percentile of the means of the readings. -/
@[reducible]
def reduction (p : Percentile) : Reduction α where
  Reading := α
  PassState := α × Nat
  RunState := List α
  read := usable p.slot
  start := (0, 0)
  fold s x := (s.1 + x, s.2 + 1)
  vector s := [passMean s.1 (some s.2)]
  begin := []
  merge means s := collect means (passMean s.1 (some s.2))
  finish means := do
    return [← percentileOf p.percentage (means.mergeSort totalLE)]
  Holds s scratch v :=
    v = [s.1] ∧ scratch.get? Entry.count? p.countKey = some s.2
  HoldsRun means scratch v := v.length = 1 ∧ p.Collected means scratch

theorem observe_of_isNaN {p : Percentile} {samples : List α} {x : α}
    (hx : samples[p.slot]? = some x) (h : isNaN x = true) (s : Scratch α)
    (v : FeatureVector α) : p.observe samples s v = .ok (s, v) := by
  rw [observe, FeatureVector.value_eq_ok_iff.mpr hx, ok_bind, h]
  rfl

theorem observe_of_not_isNaN {p : Percentile} {samples : List α} {x : α}
    (hx : samples[p.slot]? = some x) (h : isNaN x = false) (s : Scratch α)
    (sum : α) : p.observe samples s [sum]
      = .ok (s.increment p.countKey, [sum + x]) := by
  rw [observe, FeatureVector.value_eq_ok_iff.mpr hx, ok_bind, h]
  rfl

omit [Scalar α] in
/-- A count under a name, and one more. -/
theorem get?_increment {s : Scratch α} {name : String} {n : Nat}
    (h : s.get? Entry.count? name = some n) :
    (s.increment name).get? Entry.count? name = some (n + 1) := by
  rw [Scratch.increment, h]
  dsimp only
  rw [Scratch.get?_put, if_pos rfl]
  rfl

theorem Collected.add {p : Percentile} {means : List α} {s : Scratch α}
    (h : p.Collected means s) (mean : α) :
    p.Collected (collect means mean)
      (if isNaN mean then s else s.push p.valuesKey mean) := by
  obtain ⟨values, stored, rfl⟩ := h
  unfold collect
  split
  · exact ⟨values, stored, rfl⟩
  · refine ⟨values.push mean, ?_, Array.toList_push⟩
    rw [Scratch.push, Scratch.push?, stored]
    show (s.put p.valuesKey _).get? Entry.numbers? p.valuesKey = _
    rw [Scratch.get?_put, if_pos rfl]
    rfl

theorem completeTemporal_of_collected {p : Percentile} {means : List α}
    {s : Scratch α} (h : p.Collected means s) (a : α) :
    Prod.snd <$> p.completeTemporal s [a] = (do
      return [← percentileOf p.percentage (means.mergeSort totalLE)]) := by
  obtain ⟨values, stored, rfl⟩ := h
  rw [p.completeTemporal_eq s a, Scratch.fst_take?, stored, percentileIn,
    Option.getD_some]
  cases percentileOf p.percentage (values.toList.mergeSort totalLE) with
  | error e => rfl
  | ok x => rfl

variable [LawfulScalar α]

theorem reducesTo (p : Percentile) :
    (p.phases : Phases α).ReducesTo p.names [p.slot] p.reduction where
  initSpatial s v hv := by
    obtain ⟨a, rfl⟩ := List.length_eq_one_iff.mp hv
    refine ⟨_, _, rfl, rfl, ?_⟩
    rw [Scratch.get?_put, if_pos rfl]
    rfl
  observe {samples} enough state s v holds := by
    obtain ⟨rfl, counted⟩ := holds
    obtain ⟨x, hx⟩ := exists_sample enough List.mem_cons_self
    cases isNaN_x : isNaN x with
    | true =>
        rw [show p.reduction.read samples = none from
          usable_of_isNaN hx isNaN_x]
        exact ⟨s, _, observe_of_isNaN hx isNaN_x s _, rfl, counted⟩
    | false =>
        rw [show p.reduction.read samples = some x from
          usable_of_not_isNaN hx isNaN_x]
        exact ⟨_, _, observe_of_not_isNaN hx isNaN_x s _, rfl,
          get?_increment counted⟩
  completeSpatial n state s v holds := by
    obtain ⟨rfl, counted⟩ := holds
    have completed := p.completeSpatial_eq s state.1
    rw [Scratch.fst_take?, counted] at completed
    exact ⟨_, completed⟩
  initTemporal s v hv := by
    obtain ⟨a, rfl⟩ := List.length_eq_one_iff.mp hv
    refine ⟨_, _, rfl, rfl, #[], ?_, rfl⟩
    rw [Scratch.get?_put, if_pos rfl]
    rfl
  addPass n pass s v held run t w holds :=
    ⟨_, w, p.addPass_eq t _ w, holds.1, holds.2.add _⟩
  completeTemporal n run s v holds := by
    obtain ⟨width, collected⟩ := holds
    obtain ⟨a, rfl⟩ := List.length_eq_one_iff.mp width
    exact completeTemporal_of_collected collected a
  merge_start means := by
    have noMean : passMean (0 : α) (some 0) = nan := if_pos rfl
    show collect means (passMean 0 (some 0)) = means
    rw [noMean]
    exact if_pos LawfulScalar.isNaN_nan

end Percentile

-- ============================================================ all kinds

namespace Statistic

/-- What a statistic computes. -/
def reduction : Statistic α → Reduction α
  | logNormal a => a.reduction
  | onMax m => m.reduction
  | average a => a.reduction
  | extrema e => e.reduction
  | percentile p => p.reduction

/-- Every statistic computes its reduction. -/
theorem reducesTo [LawfulScalar α] (x : Statistic α) :
    x.ReducesTo x.reduction := by
  cases x with
  | logNormal a => exact a.reducesTo
  | onMax m => exact m.reducesTo
  | average a => exact a.reducesTo
  | extrema e => exact e.reducesTo
  | percentile p => exact p.reducesTo

end Statistic

end EarthBins
