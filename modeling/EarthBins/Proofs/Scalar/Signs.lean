/-
Which results are above zero.

Statistics divide by numbers of samples and by roots of these, and they take
the roots of what they keep from falling below zero. `SignedScalar` has what
it takes to see that all of these quotients and roots exist: numbers of
things and roots of positive numbers are positive, and taking one from a
number that is not below one leaves nothing below zero.

# Rounding

A 64-bit result could be rounded to zero. The exponents here are never too
small for that: a positive mantissa whose exponent is within the range keeps
a bit (`roundWithAccuracy_positive`), and the three operations have such
exponents. A result that is too large is infinite, and positive as well.
-/
import EarthBins.Proofs.Scalar.Order
import EarthBins.Proofs.Scalar.Rounding

namespace EarthBins

open Scalar

/-- Number systems in which results have the signs that the formulas of the
library rely on. -/
class SignedScalar (α : Type) [Scalar α] : Prop extends LawfulScalar α where
  neg_infinity_lt_infinity : (-infinity : α) < infinity
  le_of_not_lt : ∀ {x y : α}, isNaN x = false → isNaN y = false →
    ¬ x < y → y ≤ x
  not_le_of_lt : ∀ {x y : α}, x < y → ¬ y ≤ x
  ofNat_pos : ∀ {n : Nat}, 0 < n → (0 : α) < ofNat n
  sqrt_pos : ∀ {x : α}, 0 < x → 0 < sqrt x
  not_sub_one_neg : ∀ {x : α}, 1 ≤ x → ¬ x - 1 < 0

namespace SignedScalar

variable {α : Type} [Scalar α] [SignedScalar α]

theorem isNaN_zero : isNaN (0 : α) = false :=
  (LawfulScalar.isNaN_of_lt (ofNat_pos Nat.one_pos)).1

end SignedScalar

-- ======================================================= exact numbers

open Exact in
instance : SignedScalar Exact where
  neg_infinity_lt_infinity := by
    refine Exact.lt_iff.mpr ⟨?_, ?_, bot_lt_top⟩
    · nofun
    · nofun
  le_of_not_lt hx hy := (not_lt_iff (isNaN_eq_false_iff.mp hx)
    (isNaN_eq_false_iff.mp hy)).mp
  not_le_of_lt h := h.2
  ofNat_pos {n} positive := by
    simpa using positive
  sqrt_pos {x} positive := by
    cases x with
    | nan => exact absurd rfl (Exact.lt_iff.mp positive).2.1
    | infinite s =>
        cases s with
        | true => exact absurd positive (LawfulScalar.not_lt_neg_infinity 0)
        | false => exact positive
    | real a =>
        have positive : 0 < a := by simpa using positive
        rw [sqrt_real positive.le]
        simpa using positive
  not_sub_one_neg {x} above := by
    cases x with
    | nan => exact absurd above (not_le_nan _)
    | infinite s =>
        cases s with
        | true => exact above.elim
        | false => exact LawfulScalar.not_infinity_lt 0
    | real a =>
        have above : 1 ≤ a := by simpa using above
        simpa using above

/-- The exponential function is not below one on numbers that are not below
zero. -/
theorem Exact.one_le_exp (x : Exact) (nonneg : 0 ≤ x) : 1 ≤ Scalar.exp x := by
  cases x with
  | nan => exact absurd nonneg (not_le_nan _)
  | infinite s =>
      cases s with
      | true => exact nonneg.elim
      | false => trivial
  | real a =>
      have nonneg : 0 ≤ a := by simpa using nonneg
      simpa using nonneg

-- ====================================================== 64-bit numbers

namespace Binary64

open Float.Model Float.Model.UnpackedFloat Exact

/-- The numbers in parts above zero. -/
inductive Positive : UnpackedFloat → Prop
  | infinity : Positive (.infinity .positive)
  | finite {m : Nat} {e : Int} {positive : 0 < m}
      (canonical : Canonical m e) : Positive (.finite .positive m e positive)

variable {x : Float} {u : UnpackedFloat} {m : Nat} {e : Int}

theorem zero_lt_iff : 0 < x ↔ Positive x.toModel.unpack := by
  have parts : 0 < x
      ↔ UnpackedFloat.lt (.zero .positive) x.toModel.unpack = true := by
    show decide (UnpackedFloat.lt (.zero .positive) x.toModel.unpack = true)
      = true ↔ _
    rw [decide_eq_true_iff]
  rw [parts]
  cases hu : x.toModel.unpack with
  | notANumber => exact iff_of_false nofun nofun
  | infinity s =>
      cases s with
      | positive => exact iff_of_true rfl .infinity
      | negative => exact iff_of_false nofun nofun
  | zero s => exact iff_of_false nofun nofun
  | finite s m e positive =>
      cases s with
      | positive => exact iff_of_true rfl (.finite (unpack_finite hu).1)
      | negative => exact iff_of_false nofun nofun

/-- A positive number is written and read back as one; it may have become
infinite. -/
theorem Positive.unpack_pack (h : Positive u) : Positive (pack u).unpack := by
  have infinite : Positive (pack (.infinity .positive)).unpack := .infinity
  cases h with
  | infinity => exact infinite
  | @finite m e positive canonical =>
      by_cases range : e ≤ 971
      · rw [unpack_pack_finite canonical range]
        exact .finite canonical
      · have written : UnpackedFloat.pack spec (.finite .positive m e positive)
            = packedInfinity spec .positive := by
          show (if 2 ^ 11 ≤ (e + 1023 + 52).toNat + 1 then _ else _) = _
          exact if_pos (by omega)
        show Positive (UnpackedFloat.unpack spec
          (UnpackedFloat.pack spec (.finite .positive m e positive)))
        rw [written]
        exact infinite

/-- A positive mantissa keeps a bit if its exponent is within the range. -/
theorem roundWithAccuracy_positive {acc : Accuracy} (positive : 0 < m)
    (low : -1074 ≤ e) (fits : e ≤ target m e) :
    Positive (roundWithAccuracy spec .positive m e acc) := by
  obtain ⟨n, hn⟩ : ∃ n : Nat, target m e = e + n :=
    ⟨(target m e - e).toNat, by omega⟩
  obtain ⟨m', e', canonical, -, same, result⟩ :=
    roundWithAccuracy_canonical .positive acc hn
  have mantissa := mantissa_ofMantissaAndAccuracy m acc
  generalize ExtendedMantissa.ofMantissaAndAccuracy m acc = em
    at mantissa same
  subst mantissa
  have rounded : 0 < (em >>> n).roundedMantissa := by
    rcases two_pow_le_roundedMantissa (Floors.natCast em.mantissa) hn
      with long | smallest
    · omega
    · obtain rfl : n = 0 := by omega
      exact lt_of_lt_of_le positive (roundedMantissa_near em).1
  have filled : m' ≠ 0 := by
    rintro rfl
    have above : (0 : ℝ) < (em >>> n).roundedMantissa * 2 ^ (e + n) := by
      positivity
    rw [← same, Nat.cast_zero, zero_mul] at above
    exact above.false
  rw [result, dif_neg filled]
  exact .finite canonical

theorem round_positive (positive : 0 < m) (low : -1074 ≤ e) :
    Positive (UnpackedFloat.round spec .positive m e) := by
  rw [round_eq]
  refine roundWithAccuracy_positive ?_ ?_ (le_target_round e positive)
  · positivity
  · have := le_max_right ((m.log2 : Int) + 1 + e - 53) (-1074)
    rw [← target_eq] at this
    omega

/-- The number of some things is positive. -/
theorem ofNat_pos {n : Nat} (positive : 0 < n) : 0 < Float.ofNat n := by
  refine zero_lt_iff.mpr ?_
  rcases Nat.lt_or_ge n (2 ^ 53) with short | long
  · obtain ⟨filled, unpacked⟩ := unpack_ofNat_small positive short
    have canonical := (unpack_finite unpacked).1
    rw [unpacked]
    exact .finite canonical
  · rw [toModel_ofNat_of_long long]
    refine Positive.unpack_pack
      (roundWithAccuracy_positive ?_ ?_ (le_target (Or.inl ?_)))
    · positivity
    · decide
    · omega

/-- The root of a mantissa has 53 bits or more, and its exponent is within
the range. -/
theorem sqrtCore_eq (m : Nat) {e : Int} (low : -1074 ≤ e) :
    ∃ (n : Nat) (t : Int), (sqrtCore spec m e).1 = Nat.sqrt (m * 2 ^ n)
      ∧ (sqrtCore spec m e).2.1 = t ∧ -1074 ≤ t ∧ 104 ≤ m.log2 + n := by
  obtain ⟨t, ht⟩ : ∃ t, t = min (e / 2)
      (max (((m.log2 : Int) + 1 + e + 1) / 2 - 53) (-1074)) := ⟨_, rfl⟩
  refine ⟨(e - 2 * t).toNat, t, ?_, ht.symm, by omega, by omega⟩
  rw [← Nat.shiftLeft_eq, ht]
  rfl

theorem two_pow_le_sqrt {n : Nat} (positive : 0 < m)
    (h : 104 ≤ m.log2 + n) : 2 ^ 52 ≤ Nat.sqrt (m * 2 ^ n) := by
  rw [Nat.le_sqrt]
  calc 2 ^ 52 * 2 ^ 52 = 2 ^ 104 := by norm_num
    _ ≤ 2 ^ (m.log2 + n) := Nat.pow_le_pow_right two_pos h
    _ = 2 ^ m.log2 * 2 ^ n := pow_add _ _ _
    _ ≤ m * 2 ^ n := Nat.mul_le_mul_right _ (Nat.log2_self_le positive.ne')

theorem Positive.sqrt (h : Positive u) :
    Positive (UnpackedFloat.sqrt spec u) := by
  cases h with
  | infinity => exact .infinity
  | @finite m e positive canonical =>
      obtain ⟨n, t, root, place, low, long⟩ :=
        sqrtCore_eq m canonical.2.1
      have filled := two_pow_le_sqrt positive long
      show Positive (roundWithAccuracy spec .positive (sqrtCore spec m e).1
        (sqrtCore spec m e).2.1 (sqrtCore spec m e).2.2)
      rw [root, place]
      exact roundWithAccuracy_positive (by omega) low
        (le_target (Or.inl filled))

theorem sqrt_pos (positive : 0 < x) : 0 < Float.sqrt x :=
  zero_lt_iff.mpr (zero_lt_iff.mp positive).sqrt.unpack_pack

theorem normalize_not_neg {n : Int} (nonneg : 0 ≤ n) (low : -1074 ≤ e) :
    UnpackedFloat.normalize spec n e .positive = .zero .positive
      ∨ Positive (UnpackedFloat.normalize spec n e .positive) := by
  unfold UnpackedFloat.normalize
  rcases nonneg.eq_or_lt with rfl | positive
  · exact Or.inl rfl
  · rw [compare_gt_iff_gt.mpr positive]
    exact Or.inr (round_positive (by omega) low)

/-- The difference of a number and one that is not above it is not below
zero. -/
theorem sub_not_neg {s s' : Sign} {m' : Nat} {e' : Int} (positive : 0 < m)
    (positive' : 0 < m')
    (above : signed s' (m' * 2 ^ e') ≤ signed s (m * 2 ^ e))
    (low : -1074 ≤ min e e') :
    UnpackedFloat.sub spec (.finite s m e positive)
        (.finite s' m' e' positive') = .zero .positive
      ∨ Positive (UnpackedFloat.sub spec (.finite s m e positive)
        (.finite s' m' e' positive')) := by
  -- the difference of the mantissas, brought to one exponent
  have value : ((s.apply (m <<< (e - min e e').toNat : Nat)
      - s'.apply (m' <<< (e' - min e e').toNat : Nat) : Int) : ℝ)
        * 2 ^ min e e'
      = signed s (m * 2 ^ e) - signed s' (m' * 2 ^ e') := by
    rw [Int.cast_sub, sub_mul, apply_value s m (min_le_left e e'),
      apply_value s' m' (min_le_right e e')]
  have nonneg := sub_nonneg.mpr above
  rw [← value] at nonneg
  exact normalize_not_neg (Int.cast_nonneg_iff.mp
    (nonneg_of_mul_nonneg_left nonneg (by positivity))) low

theorem not_neg_of_unpack (h : x.toModel.unpack = .zero .positive
    ∨ Positive x.toModel.unpack) : ¬ x < 0 := by
  rcases h with zero | positive
  · intro neg
    have parts : decide (UnpackedFloat.lt x.toModel.unpack (.zero .positive)
      = true) = true := neg
    rw [zero] at parts
    cases parts
  · intro neg
    exact LawfulScalar.lt_irrefl x
      (LawfulScalar.lt_trans neg (zero_lt_iff.mpr positive))

/-- Taking one from a number that is not below it leaves nothing below
zero. -/
theorem not_sub_one_neg (above : 1 ≤ x) : ¬ x - 1 < 0 := by
  have one : (1 : Float).toModel.unpack
      = .finite .positive (2 ^ 52) (-52) (Nat.two_pow_pos 52) := rfl
  have canonical : Canonical (2 ^ 52) (-52) := (unpack_finite one).1
  refine not_neg_of_unpack ?_
  show (pack (UnpackedFloat.sub spec x.toModel.unpack
      (1 : Float).toModel.unpack)).unpack = _
    ∨ Positive (pack (UnpackedFloat.sub spec x.toModel.unpack
      (1 : Float).toModel.unpack)).unpack
  rw [le_iff] at above
  rw [one] at above ⊢
  cases hx : x.toModel.unpack with
  | notANumber =>
      rw [hx] at above
      cases above
  | infinity s =>
      rw [hx] at above
      cases s with
      | positive => exact Or.inr .infinity
      | negative => cases above
  | zero s =>
      rw [hx] at above
      cases above
  | finite s m e positive =>
      obtain ⟨⟨-, low, -⟩, -⟩ := unpack_finite hx
      rw [hx, finite_le canonical (unpack_finite hx).1] at above
      rcases sub_not_neg positive (Nat.two_pow_pos 52) above (by omega)
        with zero | positive
      · refine Or.inl ?_
        rw [zero]
        rfl
      · exact Or.inr positive.unpack_pack

end Binary64

open Exact in
instance : SignedScalar Float where
  neg_infinity_lt_infinity := by decide
  le_of_not_lt {x y} hx hy h := by
    rw [← ofFloat_lt] at h
    rw [← isNaN_ofFloat] at hx hy
    exact ofFloat_le.mp (SignedScalar.le_of_not_lt hx hy h)
  not_le_of_lt h := (Binary64.lt_iff.mp h).2
  ofNat_pos := Binary64.ofNat_pos
  sqrt_pos := Binary64.sqrt_pos
  not_sub_one_neg := Binary64.not_sub_one_neg

end EarthBins
