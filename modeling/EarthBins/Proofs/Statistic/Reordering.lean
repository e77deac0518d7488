/-
The order of passes and of their samples does not matter.

Exact numbers have one sum in any order and one least and one greatest
member, and a list of means is sorted before its percentile is read off. So
the states of these reductions are the same whatever came first
(`Reduction.Orderless`).

# Recorded values

The first of several samples with the largest key is kept, and which one is
first is a matter of order. What is kept is a peak of all readings in any
case (`OnMax.kept_ofRun`), and all peaks have one key. So the key never
depends on the order, and the payload does not where the sample vectors with
the largest key have the same one (`Statistic.Settled`).
-/
import EarthBins.Proofs.Statistic.Recorded
import Mathlib

namespace EarthBins

open Scalar Outcome

-- ============================================================ reordering

/-- Lists with the members of others in another order, in another order
among each other. -/
def Reordered {ι : Type} (lists lists' : List (List ι)) : Prop :=
  ∃ between, List.Forall₂ List.Perm lists between ∧ between.Perm lists'

namespace Reordered

variable {ι κ : Type} {lists lists' : List (List ι)}

theorem map (h : Reordered lists lists') {f : List ι → List κ}
    (perm : ∀ {l l'}, List.Perm l l' → (f l).Perm (f l')) :
    Reordered (lists.map f) (lists'.map f) := by
  obtain ⟨between, inside, among⟩ := h
  refine ⟨between.map f, ?_, among.map f⟩
  rw [List.forall₂_map_left_iff, List.forall₂_map_right_iff]
  exact inside.imp fun _ _ => perm

/-- What is told of a list without its order is told of each list, in
another order. -/
theorem map_perm (h : Reordered lists lists') {f : List ι → κ}
    (same : ∀ {l l'}, List.Perm l l' → f l = f l') :
    (lists.map f).Perm (lists'.map f) := by
  obtain ⟨between, inside, among⟩ := h
  have told : lists.map f = between.map f := by
    refine List.forall₂_eq_eq_eq ▸ ?_
    rw [List.forall₂_map_left_iff, List.forall₂_map_right_iff]
    exact inside.imp fun _ _ => same
  rw [told]
  exact among.map f

theorem filter (h : Reordered lists lists') {keep : List ι → Bool}
    (perm : ∀ {l l'}, List.Perm l l' → keep l = keep l') :
    Reordered (lists.filter keep) (lists'.filter keep) := by
  obtain ⟨between, inside, among⟩ := h
  refine ⟨between.filter keep, ?_, among.filter keep⟩
  clear among
  induction inside with
  | nil => exact .nil
  | cons same _ ih =>
      rw [List.filter_cons, List.filter_cons, perm same]
      split
      · exact .cons same ih
      · exact ih

theorem flatten_perm (h : Reordered lists lists') :
    lists.flatten.Perm lists'.flatten := by
  obtain ⟨between, inside, among⟩ := h
  exact (List.Perm.flatten_congr inside).trans among.flatten

end Reordered

-- ============================================================ exact sums

namespace Exact

variable (x y z : Exact)

theorem add_comm : x + y = y + x := by
  show x.add y = y.add x
  cases x with
  | nan => cases y <;> rfl
  | infinite s =>
      cases y with
      | infinite t => cases s <;> cases t <;> rfl
      | _ => rfl
  | real a =>
      cases y with
      | real b => exact congrArg real (by ring)
      | _ => rfl

theorem add_assoc : x + y + z = x + (y + z) := by
  show (x.add y).add z = x.add (y.add z)
  cases x with
  | nan => cases y <;> cases z <;> rfl
  | infinite s =>
      cases y with
      | nan => cases z <;> rfl
      | infinite t =>
          cases z with
          | nan => cases s <;> cases t <;> rfl
          | infinite u => cases s <;> cases t <;> cases u <;> rfl
          | real c => cases s <;> cases t <;> rfl
      | real b => cases z <;> rfl
  | real a =>
      cases y with
      | nan => cases z <;> rfl
      | infinite t =>
          cases z with
          | nan => rfl
          | infinite u => cases t <;> cases u <;> rfl
          | real c => rfl
      | real b =>
          cases z with
          | real c => exact congrArg real (by ring)
          | _ => rfl

/-- Two numbers are added in any order. -/
theorem add_right_comm : x + y + z = x + z + y := by
  rw [add_assoc, add_comm y z, ← add_assoc]

end Exact

-- ================================================== orderless reductions

/-- Readings of a pass may change places, and so may the passes of a run. -/
structure Reduction.Orderless (r : Reduction Exact) : Prop where
  fold_comm : ∀ state a b,
    r.fold (r.fold state a) b = r.fold (r.fold state b) a
  finish_perm : ∀ {states states' : List r.PassState},
    states.Perm states' →
      r.finish (states.foldl r.merge r.begin)
        = r.finish (states'.foldl r.merge r.begin)

namespace Reduction

variable {r : Reduction Exact}

/-- Passes that can be merged in any order can be in the run vector. -/
theorem Orderless.of_comm
    (fold_comm : ∀ state a b,
      r.fold (r.fold state a) b = r.fold (r.fold state b) a)
    (merge_comm : ∀ run s t,
      r.merge (r.merge run s) t = r.merge (r.merge run t) s) :
    r.Orderless where
  fold_comm := fold_comm
  finish_perm perm := by
    rw [perm.foldl_eq' fun s _ t _ run => merge_comm run s t]

/-- A run of an orderless reduction is the same in any order. -/
theorem Orderless.finish_ofRun (h : r.Orderless)
    {passes passes' : List (List r.Reading)}
    (reordered : Reordered passes passes') :
    r.finish (r.ofRun passes) = r.finish (r.ofRun passes') := by
  have states : (passes.map r.ofPass).Perm (passes'.map r.ofPass) :=
    reordered.map_perm fun perm =>
      perm.foldl_eq' (fun a _ b _ state => h.fold_comm state a b) _
  have merged := h.finish_perm states
  rw [List.foldl_map, List.foldl_map] at merged
  exact merged

end Reduction

-- ============================================================== extrema

namespace Extrema

/-- The one of two numbers that comes before the other; the first of two
that do not. -/
def earlier (before : Exact → Exact → Prop) [DecidableRel before]
    (first x : Exact) : Exact :=
  if before x first then x else first

/-- Which of three numbers comes first does not depend on where one looks
first. -/
theorem earlier_comm (before : Exact → Exact → Prop) [DecidableRel before]
    (asymm : ∀ {x y}, before x y → ¬ before y x)
    (trans : ∀ {x y z}, before x y → before y z → before x z)
    (eq : ∀ {x y z}, before x z → before y z → ¬ before x y →
      ¬ before y x → x = y) (first x y : Exact) :
    earlier before (earlier before first x) y
      = earlier before (earlier before first y) x := by
  unfold earlier
  by_cases hx : before x first
  · rw [if_pos hx]
    by_cases hy : before y first
    · rw [if_pos hy]
      by_cases less : before x y
      · rw [if_neg (asymm less), if_pos less]
      · rw [if_neg less]
        split
        · rfl
        · exact eq hx hy less ‹_›
    · rw [if_neg hy, if_pos hx, if_neg fun less => hy (trans less hx)]
  · rw [if_neg hx]
    by_cases hy : before y first
    · rw [if_pos hy, if_neg fun less => hx (trans less hy)]
    · rw [if_neg hy, if_neg hx]

theorem lower_comm (least x y : Exact) :
    lower (lower least x) y = lower (lower least y) x :=
  earlier_comm (· < ·)
    (fun h h' => LawfulScalar.lt_irrefl _ (LawfulScalar.lt_trans h h'))
    LawfulScalar.lt_trans
    (fun h h' => Exact.eq_of_not_lt (Exact.lt_iff.mp h).1
      (Exact.lt_iff.mp h').1)
    least x y

theorem higher_comm (greatest x y : Exact) :
    higher (higher greatest x) y = higher (higher greatest y) x :=
  earlier_comm (· > ·)
    (fun h h' => LawfulScalar.lt_irrefl _ (LawfulScalar.lt_trans h h'))
    (fun h h' => LawfulScalar.lt_trans h' h)
    (fun h h' less greater => Exact.eq_of_not_lt (Exact.lt_iff.mp h).2.1
      (Exact.lt_iff.mp h').2.1 greater less)
    greatest x y

theorem orderless (e : Extrema) : (e.reduction (α := Exact)).Orderless :=
  .of_comm
    (fun s x y => Prod.ext (lower_comm s.1 x y) (higher_comm s.2 x y))
    (fun s p q => Prod.ext (lower_comm s.1 p.1 q.1) (higher_comm s.2 p.2 q.2))

end Extrema

-- ============================================================== averages

namespace Sums

theorem add_comm (m : Sums Exact) (x y : Exact) :
    (m.add x).add y = (m.add y).add x := by
  unfold add
  rw [Exact.add_right_comm m.sum, Exact.add_right_comm m.squares]

end Sums

namespace Average

theorem weigh_comm (a : Average Exact) (run : Weighed Exact)
    (means means' : Sums Exact) :
    a.weigh (a.weigh run means) means'
      = a.weigh (a.weigh run means') means := by
  unfold weigh
  dsimp only
  split
  · split
    · rfl
    · rfl
  · split
    · rfl
    · dsimp only
      rw [Exact.add_right_comm run.sum, Exact.add_right_comm run.squares,
        Exact.add_right_comm run.weights, Exact.add_right_comm run.counts]

theorem orderless (a : Average Exact) : a.reduction.Orderless :=
  .of_comm Sums.add_comm fun run m m' =>
    a.weigh_comm run (completed m) (completed m')

end Average

namespace LogNormal

theorem addScaled_comm (run pass pass' : Sums Exact) :
    addScaled (addScaled run pass) pass'
      = addScaled (addScaled run pass') pass := by
  unfold addScaled
  split
  · split
    · dsimp only
      rw [Exact.add_right_comm run.sum, Exact.add_right_comm run.squares,
        Exact.add_right_comm run.count]
    · rfl
  · split
    · rfl
    · rfl

theorem orderless (a : LogNormal) :
    (a.reduction (α := Exact)).Orderless :=
  .of_comm Sums.add_comm addScaled_comm

end LogNormal

-- =========================================================== percentile

namespace Percentile

variable {α : Type} [Scalar α]

/-- What is collected are the means that are not NaN. -/
theorem foldl_collect (means more : List α) :
    more.foldl collect means = means ++ more.filter fun m => !isNaN m := by
  induction more generalizing means with
  | nil => rw [List.filter_nil, List.append_nil, List.foldl_nil]
  | cons mean more ih =>
      rw [List.foldl_cons, ih, collect, List.filter_cons]
      cases isNaN mean with
      | true => rfl
      | false =>
          show means ++ [mean] ++ _ = means ++ mean :: _
          rw [List.append_assoc, List.singleton_append]

/-- Means in another order are sorted the same. -/
theorem mergeSort_eq_of_perm [SortedScalar α] {means means' : List α}
    (perm : means.Perm means') :
    means.mergeSort totalLE = means'.mergeSort totalLE := by
  have sorted (l : List α) := List.pairwise_mergeSort
    SortedScalar.totalLE_trans SortedScalar.totalLE_total l
  refine List.Perm.eq_of_pairwise
    (fun x y _ _ => SortedScalar.totalLE_antisymm) (sorted means)
    (sorted means') ?_
  exact ((List.mergeSort_perm _ _).trans perm).trans
    (List.mergeSort_perm _ _).symm

theorem orderless (p : Percentile) :
    (p.reduction (α := Exact)).Orderless where
  fold_comm state a b := by
    show (state.1 + a + b, state.2 + 1 + 1) = _
    rw [Exact.add_right_comm]
  finish_perm {states states'} perm := by
    have collected (l : List (Exact × Nat)) :
        l.foldl p.reduction.merge p.reduction.begin
          = (l.map fun s => passMean s.1 (some s.2)).filter
            fun m => !isNaN m := by
      rw [← List.nil_append (List.filter _ _), ← foldl_collect,
        List.foldl_map]
    show (do return [← percentileOf p.percentage (List.mergeSort _ _)]) = _
    rw [collected, collected,
      mergeSort_eq_of_perm ((perm.map _).filter _)]

end Percentile

-- ======================================================= recorded values

namespace OnMax

/-- Whether an entry is one of some, none of which has a larger key. -/
def Peak (entries : List (Exact × FeatureVector Exact))
    (entry : Exact × FeatureVector Exact) : Prop :=
  entry ∈ entries ∧ ∀ other ∈ entries, ¬ entry.1 < other.1

theorem Winner.peak {entries : List (Exact × FeatureVector Exact)}
    {entry : Exact × FeatureVector Exact} (h : Winner entries entry) :
    Peak entries entry :=
  ⟨h.foremost.mem, h.foremost.not_below ranks_key⟩

namespace Peak

variable {entries entries' : List (Exact × FeatureVector Exact)}
  {entry entry' : Exact × FeatureVector Exact}

theorem congr (same : ∀ e, e ∈ entries ↔ e ∈ entries')
    (h : Peak entries entry) : Peak entries' entry :=
  ⟨(same entry).mp h.1, fun other hother => h.2 other ((same other).mpr hother)⟩

/-- Peaks of the same entries have one key. -/
theorem key_eq (h : Peak entries entry) (h' : Peak entries entry')
    (keys : ∀ e ∈ entries, e.1 ≠ .nan) : entry.1 = entry'.1 :=
  Exact.eq_of_not_lt (keys entry h.1) (keys entry' h'.1) (h.2 entry' h'.1)
    (h'.2 entry h.1)

end Peak

variable {m : OnMax}

/-- Reordering keeps the key, and the payload where all peaks have one. -/
theorem ofRun_reordered
    {passes passes' : List (List (Exact × FeatureVector Exact))}
    (reordered : Reordered passes passes') (keyed : Keyed passes.flatten) :
    (m.reduction.ofRun passes).1 = (m.reduction.ofRun passes').1
    ∧ ((∀ e e', Peak passes.flatten e → Peak passes.flatten e' →
        e.2 = e'.2) →
      m.reduction.ofRun passes = m.reduction.ofRun passes') := by
  have same := reordered.flatten_perm
  rcases kept_ofRun (m := m) keyed with ⟨none, first⟩ | first
  · rcases kept_ofRun (m := m) (keyed.of_subset same.symm.subset)
      with ⟨-, second⟩ | second
    · rw [first, second]
      exact ⟨rfl, fun _ => rfl⟩
    · have here := same.mem_iff.mpr second.foremost.mem
      rw [none] at here
      cases here
  · rcases kept_ofRun (m := m) (keyed.of_subset same.symm.subset)
      with ⟨none, -⟩ | second
    · have here := same.mem_iff.mp first.foremost.mem
      rw [none] at here
      cases here
    · have second := second.peak.congr fun e => same.symm.mem_iff
      have key := first.peak.key_eq second keyed.compared
      exact ⟨key, fun settled => Prod.ext key (settled _ _ first.peak second)⟩

end OnMax

-- ========================================================== a whole cycle

namespace OnMax

variable {m : OnMax}

/-- Whether a sample vector has a key and no other of some has a larger
one. -/
def Leads (m : OnMax) (vectors : List (List Exact)) (samples : List Exact) :
    Prop :=
  ∃ key, samples[m.keySlot]? = some key ∧ key ≠ .nan
    ∧ ∀ other ∈ vectors, ∀ key', other[m.keySlot]? = some key' →
      ¬ key < key'

/-- Whether the sample vectors with the largest key have the same
payload. -/
def Settled (m : OnMax) (vectors : List (List Exact)) : Prop :=
  ∀ samples ∈ vectors, ∀ samples' ∈ vectors,
    m.Leads vectors samples → m.Leads vectors samples' →
      ∀ slot ∈ m.payloadSlots, samples[slot]? = samples'[slot]?

/-- Samples that are the same make the same payload. -/
theorem payloadOf_congr {samples samples' : List Exact} {slots : List Nat}
    (same : ∀ slot ∈ slots, samples[slot]? = samples'[slot]?)
    (width : Nat) :
    payloadOf samples slots width = payloadOf samples' slots width := by
  induction slots generalizing width with
  | nil => cases width <;> rfl
  | cons slot slots ih =>
      cases width with
      | zero => rfl
      | succ width =>
          rw [payloadOf, payloadOf, same slot List.mem_cons_self,
            ih (fun s hs => same s (List.mem_cons_of_mem _ hs))]

/-- The first output feature is the key, if there is one. -/
theorem head?_output {key : Exact} {rest out : FeatureVector Exact}
    (h : m.output (key :: rest) = .ok out) :
    out.head? = some (if -infinity < key then key else .nan) := by
  rw [output] at h
  split at h
  · rename_i above
    split at h
    · cases h
      rw [if_pos above]
      rfl
    · cases h
  · rename_i above
    cases h
    rw [if_neg above]
    rfl

/-- The sample vector of a peak of the readings leads. -/
theorem leads_of_peak {vectors : List (List Exact)}
    {entry : Exact × FeatureVector Exact}
    (h : Peak (vectors.filterMap m.keyed) entry) :
    ∃ samples ∈ vectors, m.Leads vectors samples
      ∧ entry.2 = payloadOf samples m.payloadSlots m.payload.length := by
  obtain ⟨samples, hsamples, read⟩ := List.mem_filterMap.mp h.1
  obtain ⟨key, above, payload⟩ := keyed_eq_some_iff.mp read
  refine ⟨samples, hsamples, ⟨entry.1, key, (Exact.lt_iff.mp above).2.1, ?_⟩,
    payload⟩
  -- a larger key would be a reading
  intro other hother key' hkey' larger
  refine h.2 (key', payloadOf other m.payloadSlots m.payload.length) ?_ larger
  refine List.mem_filterMap.mpr ⟨other, hother, keyed_eq_some_iff.mpr ?_⟩
  exact ⟨hkey', LawfulScalar.lt_trans above larger, rfl⟩

end OnMax

namespace Statistic

/-- Whether some sample vectors say what a statistic makes of them in any
order; only recorded values ask for it. -/
def Settled (x : Statistic Exact) (vectors : List (List Exact)) : Prop :=
  match x with
  | onMax m => m.Settled vectors
  | _ => True

variable {passes passes' : List (PassSamples Exact)}

theorem readings_reordered (r : Reduction Exact)
    (reordered : Reordered (passes.map (·.samples)) (passes'.map (·.samples))) :
    Reordered (passes.map r.readings) (passes'.map r.readings) := by
  have read := reordered.map fun perm => perm.filterMap r.read
  rw [List.map_map, List.map_map] at read
  exact read

/-- A cycle of an orderless reduction is the same in any order. -/
theorem cycle_of_orderless {x : Statistic Exact}
    (orderless : x.reduction.Orderless) (fits : x.Fits passes)
    (fits' : x.Fits passes')
    (reordered : Reordered (passes.map (·.samples)) (passes'.map (·.samples)))
    (bin numObs numObs' : Nat) :
    x.cycle bin passes numObs = x.cycle bin passes' numObs' := by
  rw [cycle, cycle, x.reducesTo.runVector_eq fits,
    x.reducesTo.runVector_eq fits',
    orderless.finish_ofRun (readings_reordered x.reduction reordered)]

/-- The cycle of recorded values has the key of its peak, and is the same in
any order if the sample vectors with the largest key have one payload. -/
theorem cycle_onMax {m : OnMax} (fits : (onMax m).Fits passes)
    (fits' : (onMax m).Fits passes')
    (reordered : Reordered (passes.map (·.samples)) (passes'.map (·.samples)))
    (bin numObs numObs' : Nat) :
    List.head? <$> (onMax m).cycle bin passes numObs
      = List.head? <$> (onMax m).cycle bin passes' numObs'
    ∧ ((onMax m).Settled (passes.flatMap (·.samples)) →
      (onMax m).cycle bin passes numObs
        = (onMax m).cycle bin passes' numObs') := by
  obtain ⟨key, settle⟩ := OnMax.ofRun_reordered (m := m)
    (readings_reordered m.reduction reordered)
    (OnMax.keyed_flatten_readings passes)
  refine ⟨?_, fun settled => ?_⟩
  · obtain ⟨out, made, -⟩ := (onMax m).cycle_isOk fits bin numObs
    obtain ⟨out', made', -⟩ := (onMax m).cycle_isOk fits' bin numObs'
    rw [made, made', map_ok, map_ok]
    rw [cycle_onMax_eq fits] at made
    rw [cycle_onMax_eq fits'] at made'
    rw [OnMax.head?_output made, OnMax.head?_output made', key]
  · rw [cycle_onMax_eq fits, cycle_onMax_eq fits', settle]
    intro e e' peak peak'
    rw [OnMax.flatten_readings] at peak peak'
    obtain ⟨samples, here, leads, payload⟩ := OnMax.leads_of_peak peak
    obtain ⟨samples', here', leads', payload'⟩ := OnMax.leads_of_peak peak'
    rw [payload, payload']
    exact OnMax.payloadOf_congr
      (settled samples here samples' here' leads leads') _

/-- Passes and their samples may come in any order: a cycle has the same
output features, as far as they are settled, and the same first one. -/
theorem cycle_reordered (x : Statistic Exact) (fits : x.Fits passes)
    (fits' : x.Fits passes')
    (reordered : Reordered (passes.map (·.samples)) (passes'.map (·.samples)))
    (bin numObs numObs' : Nat) :
    List.head? <$> x.cycle bin passes numObs
      = List.head? <$> x.cycle bin passes' numObs'
    ∧ (x.Settled (passes.flatMap (·.samples)) →
      x.cycle bin passes numObs = x.cycle bin passes' numObs') := by
  have same (orderless : x.reduction.Orderless) :=
    cycle_of_orderless orderless fits fits' reordered bin numObs numObs'
  cases x with
  | logNormal a =>
      have same := same a.orderless
      exact ⟨congrArg _ same, fun _ => same⟩
  | onMax m => exact cycle_onMax fits fits' reordered bin numObs numObs'
  | average a =>
      have same := same a.orderless
      exact ⟨congrArg _ same, fun _ => same⟩
  | extrema e =>
      have same := same e.orderless
      exact ⟨congrArg _ same, fun _ => same⟩
  | percentile p =>
      have same := same p.orderless
      exact ⟨congrArg _ same, fun _ => same⟩

end Statistic

end EarthBins
