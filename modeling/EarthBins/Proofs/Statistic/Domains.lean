/-
Statistics stay where quotients and roots exist.

A division by zero and the root of a number below zero have results too,
infinities or NaN, so a statistic might evaluate one and go on. To see that
none does, give these operations any results whatever (`Scalar.patched`):
the phases of every statistic remain the same functions, on all vectors and
storages, those that no run reaches among them (`Statistic.phases_patched`).

# What guards the operations

Sums are divided by numbers of samples, by their roots and by sums of
weights, and only where these are above zero. The radicand of a standard
deviation is kept from falling below zero; that of the log-normal sigma is
`exp σ² - 1`, which asks of the exponential function that it does not fall
below one on numbers that are not below zero.
-/
import EarthBins.Proofs.Scalar.Signs
import EarthBins.Proofs.Statistic.Kinds

namespace EarthBins

open Scalar

-- ======================================================= number systems

namespace Scalar

variable {α : Type} [Scalar α]

/-- The number system with other results where a number is divided by zero
and where the root of a number below zero is taken. -/
@[reducible]
def patched (quotient : α → α → α) (root : α → α) : Scalar α :=
  { (inferInstance : Scalar α) with
    div := fun x y => if y ≤ 0 ∧ 0 ≤ y then quotient x y else x / y
    sqrt := fun x => if x < 0 then root x else sqrt x }

variable [SignedScalar α] {quotient : α → α → α} {root : α → α} {x y : α}

/-- A division by a number above zero has its own result. -/
theorem patched_div (x : α) (h : 0 < y) :
    (patched quotient root).toDiv.div x y = x / y :=
  if_neg fun zero => SignedScalar.not_le_of_lt h zero.1

omit [SignedScalar α] in
/-- So has the root of a number that is not below zero. -/
theorem patched_sqrt (h : ¬ x < 0) :
    (patched quotient root).sqrt x = sqrt x :=
  if_neg h

theorem not_neg_of_pos (h : 0 < x) : ¬ x < 0 :=
  fun neg => LawfulScalar.lt_irrefl 0 (LawfulScalar.lt_trans h neg)

/-- What is kept from falling below zero is not below it. -/
theorem zero_le_maximum (x : α) : 0 ≤ maximum x 0 := by
  have zero_le_zero : (0 : α) ≤ 0 :=
    SignedScalar.le_of_not_lt SignedScalar.isNaN_zero SignedScalar.isNaN_zero
      (LawfulScalar.lt_irrefl 0)
  unfold maximum
  split
  · exact zero_le_zero
  · rename_i not_isNaN
    split
    · exact zero_le_zero
    · exact SignedScalar.le_of_not_lt (Bool.eq_false_iff.mpr not_isNaN)
        SignedScalar.isNaN_zero ‹_›

theorem not_maximum_neg (x : α) : ¬ maximum x 0 < 0 :=
  fun neg => SignedScalar.not_le_of_lt neg (zero_le_maximum x)

theorem half_patched : @half α (patched quotient root) = half :=
  patched_div 1 (SignedScalar.ofNat_pos two_pos)

end Scalar

/-- The 64-bit numbers with another exponential function. -/
@[reducible]
def Double.withExp (exponential : Float → Float) : Scalar Float :=
  { (inferInstance : Scalar Float) with exp := exponential }

example : Double.withExp Float.exp = instScalarFloat := rfl

theorem Double.signedScalar_withExp (exponential : Float → Float) :
    @SignedScalar Float (withExp exponential) := by
  have signed : SignedScalar Float := inferInstance
  have lawful := signed.toLawfulScalar
  let _ := withExp exponential
  exact {
    isNaN_nan := lawful.isNaN_nan
    isNaN_infinity := lawful.isNaN_infinity
    isNaN_neg_infinity := lawful.isNaN_neg_infinity
    lt_irrefl := lawful.lt_irrefl
    lt_trans := lawful.lt_trans
    isNaN_of_lt := lawful.isNaN_of_lt
    not_infinity_lt := lawful.not_infinity_lt
    not_lt_neg_infinity := lawful.not_lt_neg_infinity
    isFinite_log := lawful.isFinite_log
    neg_infinity_lt_infinity := signed.neg_infinity_lt_infinity
    le_of_not_lt := signed.le_of_not_lt
    not_le_of_lt := signed.not_le_of_lt
    ofNat_pos := signed.ofNat_pos
    sqrt_pos := signed.sqrt_pos
    not_sub_one_neg := signed.not_sub_one_neg }

-- ============================================================== averages

variable {α : Type} [Scalar α] [SignedScalar α] (quotient : α → α → α)
  (root : α → α)

namespace Average

theorem completeSpatial_patched :
    @completeSpatial α (patched quotient root) = completeSpatial := by
  funext v
  match v with
  | sum :: squares :: count :: rest =>
      show (if 0 < count then Except.ok
          ((patched quotient root).toDiv.div sum count
            :: (patched quotient root).toDiv.div squares count
            :: count :: rest) else _)
        = if 0 < count then _ else _
      split
      · rename_i positive
        rw [patched_div _ positive, patched_div _ positive]
      · rfl
  | [] | [_] | [_, _] => rfl

theorem output_patched :
    @output α (patched quotient root) = output := by
  funext v
  match v with
  | sum :: squares :: weights :: rest =>
      show (if 0 < weights then do
          let counts ← FeatureVector.value rest 0
          let mean := (patched quotient root).toDiv.div sum weights
          let variance := maximum
            ((patched quotient root).toDiv.div squares weights
              - mean * mean) 0
          return [mean, (patched quotient root).sqrt variance, counts]
        else _) = if 0 < weights then _ else _
      split
      · rename_i positive
        dsimp only
        rw [patched_div _ positive, patched_div _ positive,
          patched_sqrt (not_maximum_neg _)]
      · rfl
  | [] | [_] | [_, _] => rfl

theorem phases_patched (a : Average α) :
    @phases α (patched quotient root) a = a.phases := by
  unfold phases
  rw [completeSpatial_patched, output_patched]
  rfl

end Average

namespace LogNormal

theorem completeSpatial_patched :
    @completeSpatial α (patched quotient root) = completeSpatial := by
  funext v
  match v with
  | sum :: squares :: count :: rest =>
      show (if 0 < count then Except.ok
          ((patched quotient root).toDiv.div sum
              ((patched quotient root).sqrt count)
            :: (patched quotient root).toDiv.div squares
              ((patched quotient root).sqrt count)
            :: count :: rest) else _)
        = if 0 < count then _ else _
      split
      · rename_i positive
        rw [patched_sqrt (not_neg_of_pos positive),
          patched_div _ (SignedScalar.sqrt_pos positive),
          patched_div _ (SignedScalar.sqrt_pos positive)]
      · rfl
  | [] | [_] | [_, _] => rfl

theorem merge_patched {count : α} (positive : 0 < count)
    (sum squares : α) (v : FeatureVector α) :
    @merge α (patched quotient root) sum squares count v
      = merge sum squares count v := by
  match v with
  | sums :: sumSquares :: weights :: rest =>
      show Except.ok ((sums + sum) :: (sumSquares + squares)
        :: (weights + (patched quotient root).sqrt count) :: rest) = _
      rw [patched_sqrt (not_neg_of_pos positive)]
      rfl
  | [] | [_] | [_, _] => rfl

theorem addPass_patched (pass : FeatureVector α) :
    @addPass α (patched quotient root) pass = addPass pass := by
  funext v
  match pass with
  | sum :: squares :: count :: rest =>
      show (if 0 < count then
          @merge α (patched quotient root) sum squares count v else _)
        = if 0 < count then _ else _
      split
      · rename_i positive
        exact merge_patched quotient root positive sum squares v
      · rfl
  | [] | [_] | [_, _] => rfl

-- the exponential function does not fall below one where it should not
variable (exp_not_below : ∀ x : α, 0 ≤ x → 1 ≤ exp x)

include exp_not_below

theorem ofMoments_patched (mu : α) {variance : α} (nonneg : 0 ≤ variance) :
    @ofMoments α (patched quotient root) mu variance
      = ofMoments mu variance := by
  show ([exp (mu + @half α (patched quotient root) * variance),
      exp (mu + @half α (patched quotient root) * variance)
        * (patched quotient root).sqrt (exp variance - 1),
      exp mu, exp (mu - variance)] : FeatureVector α) = _
  rw [half_patched, patched_sqrt
    (SignedScalar.not_sub_one_neg (exp_not_below variance nonneg))]
  rfl

theorem output_patched :
    @output α (patched quotient root) = output := by
  funext v
  match v with
  | sum :: squares :: weights :: rest =>
      show (if 0 < weights then
          let mu := (patched quotient root).toDiv.div sum weights
          Except.ok (@ofMoments α (patched quotient root) mu (maximum
            ((patched quotient root).toDiv.div squares weights - mu * mu) 0))
        else _) = if 0 < weights then _ else _
      split
      · rename_i positive
        dsimp only
        rw [patched_div _ positive, patched_div _ positive,
          ofMoments_patched quotient root exp_not_below _ (zero_le_maximum _)]
      · rfl
  | [] | [_] | [_, _] => rfl

theorem phases_patched (a : LogNormal) :
    @phases α (patched quotient root) a = a.phases := by
  unfold phases
  rw [completeSpatial_patched, output_patched quotient root exp_not_below]
  simp only [addPass_patched]
  rfl

end LogNormal

-- =========================================================== percentile

theorem percentileOf_patched (percentage : Nat) :
    @percentileOf α (patched quotient root) percentage
      = percentileOf percentage := by
  funext sorted
  have part : (patched quotient root).toDiv.div (ofNat percentage) 100
      = ofNat percentage / 100 :=
    patched_div _ (SignedScalar.ofNat_pos (by decide))
  unfold percentileOf
  rw [← part]
  rfl

namespace Percentile

theorem passMean_patched (sum : α) (count : Option Nat) :
    @passMean α (patched quotient root) sum count = passMean sum count := by
  unfold passMean
  split
  · rfl
  · exact patched_div sum (SignedScalar.ofNat_pos (Nat.pos_of_ne_zero ‹_›))

theorem completeSpatial_patched (p : Percentile) :
    @completeSpatial α (patched quotient root) p = p.completeSpatial := by
  funext s v
  cases v with
  | nil => rfl
  | cons sum rest =>
      show Except.ok ((s.take? Entry.count? p.countKey).2,
        @passMean α (patched quotient root) sum
          (s.take? Entry.count? p.countKey).1 :: rest) = _
      rw [passMean_patched]
      rfl

theorem completeTemporal_patched (p : Percentile) :
    @completeTemporal α (patched quotient root) p = p.completeTemporal := by
  funext s v
  unfold completeTemporal
  rw [percentileOf_patched]
  rfl

theorem phases_patched (p : Percentile) :
    @phases α (patched quotient root) p = p.phases := by
  unfold phases
  rw [completeSpatial_patched, completeTemporal_patched]
  rfl

end Percentile

-- ============================================================ all kinds

/-- No statistic divides by zero or takes the root of a number below zero:
its phases do not depend on what these are. -/
theorem Statistic.phases_patched
    (exp_not_below : ∀ x : α, 0 ≤ x → 1 ≤ exp x) (x : Statistic α) :
    @phases α (patched quotient root) x = x.phases := by
  cases x with
  | logNormal a => exact a.phases_patched quotient root exp_not_below
  | onMax m => rfl
  | average a => exact a.phases_patched quotient root
  | extrema e => rfl
  | percentile p => exact p.phases_patched quotient root

end EarthBins
