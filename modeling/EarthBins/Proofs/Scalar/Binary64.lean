/-
The 64-bit numbers, taken apart into mantissa and exponent.

A finite number is `m · 2 ^ e` with a mantissa below `2 ^ 53`, and the
mantissa fills its 53 bits unless the exponent is the smallest there is.
What is read from a bit pattern has this form (`unpack_finite`), and a
pattern that was written from it reads back (`unpack_pack_finite`).

# Rounding

A result with a longer mantissa is shifted to 53 bits. The bits that fall
off decide between the quotient and the number above it, and the quotient
is exact where none of them was set (`roundedMantissa_shift`). Rounding up
may fill a 54th bit; then the mantissa is `2 ^ 52` and the exponent one
larger (`roundWithAccuracy_eq`).
-/
import EarthBins.Scalar.Double
import Mathlib

namespace EarthBins.Binary64

open Float.Model Float.Model.UnpackedFloat

/-- The format of the 64-bit numbers. -/
abbrev spec : Format := Format.binary64

-- ==================================================== bits and numbers

/-- The leading bit that patterns leave out. -/
theorem toNat_one_append (m : BitVec 52) :
    (1#1 ++ m).toNat = 2 ^ 52 + m.toNat := by
  rw [BitVec.toNat_append, ← Nat.shiftLeft_add_eq_or_of_lt m.isLt,
    Nat.shiftLeft_eq]
  rfl

/-- A sign is read as it was written. -/
theorem ofBitVec_unpackSign (s : Sign) (e : BitVec spec.exponentBits)
    (m : BitVec spec.mantissaBitsWithoutImplicit) :
    Sign.ofBitVec (unpackSign (packComponents spec s e m)) = s := by
  have h : unpackSign (packComponents spec s e m) = s.toBitVec := by
    apply BitVec.eq_of_getLsbD_eq
    intro i hi
    obtain rfl : i = 0 := by omega
    simp only [unpackSign, packComponents, BitVec.getLsbD_cast,
      BitVec.getLsbD_extract]
    rw [BitVec.getLsbD_append, BitVec.getLsbD_append]
    simp
  rw [h]
  cases s with
  | positive => rfl
  | negative => rfl

/-- Finite numbers agree in their parts. -/
theorem finite_congr {s : Sign} {m m' : Nat} {e e' : Int} {h : 0 < m}
    {h' : 0 < m'} (hm : m = m') (he : e = e') :
    UnpackedFloat.finite s m e h = .finite s m' e' h' := by
  subst hm
  subst he
  rfl

/-- The mantissas and exponents of the finite numbers: at most 53 bits, all
of them in use unless the exponent is the smallest. -/
def Canonical (m : Nat) (e : Int) : Prop :=
  m < 2 ^ 53 ∧ -1074 ≤ e ∧ (2 ^ 52 ≤ m ∨ e = -1074)

/-- A finite number read from a pattern is canonical, and its exponent is
within the range. -/
theorem unpack_finite {b : BitVec spec.numBits} {s : Sign} {m : Nat}
    {e : Int} {positive : 0 < m}
    (h : UnpackedFloat.unpack spec b = .finite s m e positive) :
    Canonical m e ∧ e ≤ 971 := by
  have short : (unpackMantissa b).toNat < 2 ^ 52 := (unpackMantissa b).isLt
  unfold UnpackedFloat.unpack at h
  dsimp only at h
  split at h
  · split at h <;> cases h
  · split at h
    · split at h
      · cases h
      · rename_i hzero _
        cases h
        rw [hzero]
        refine ⟨⟨by omega, ?_, Or.inr ?_⟩, ?_⟩
        · decide
        · decide
        · decide
    · rename_i hones hzero
      cases h
      have filled : 0 < (unpackExponent b).toNat := by
        rw [Nat.pos_iff_ne_zero]
        intro hn
        exact hzero (BitVec.eq_of_toNat_eq hn)
      have below : (unpackExponent b).toNat < 2047 := by
        have fits : (unpackExponent b).toNat < 2 ^ 11 :=
          (unpackExponent b).isLt
        have other : (unpackExponent b).toNat ≠ 2047 := fun h =>
          hones (BitVec.eq_of_toNat_eq h)
        omega
      rw [toNat_one_append]
      refine ⟨⟨by omega, ?_, Or.inl (by omega)⟩, ?_⟩
      · show (-1074 : Int) ≤ (unpackExponent b).toNat - (1023 + 52)
        omega
      · show ((unpackExponent b).toNat : Int) - (1023 + 52) ≤ 971
        omega

/-- A number with all its mantissa bits reads back as it was written. -/
theorem unpack_pack_normal {s : Sign} {m : Nat} {e : Int}
    (hm : 2 ^ 52 ≤ m) (hm' : m < 2 ^ 53) (he : -1074 ≤ e) (he' : e ≤ 971)
    (positive : 0 < m) :
    (pack (.finite s m e positive)).unpack = .finite s m e positive := by
  have hlog : m.log2 + 1 = 53 := by
    rw [(Nat.log2_eq_iff (by omega)).mpr ⟨hm, hm'⟩]
  obtain ⟨biased, hb⟩ : ∃ biased : Nat, (biased : Int) = e + 1023 + 52 :=
    ⟨(e + 1023 + 52).toNat, Int.toNat_of_nonneg (by omega)⟩
  have hexp : (BitVec.ofNat 11 biased).toNat = biased := by
    rw [BitVec.toNat_ofNat, Nat.mod_eq_of_lt (by omega)]
  have hmant : (BitVec.ofNat 52 m).toNat = m - 2 ^ 52 := by
    rw [BitVec.toNat_ofNat]
    omega
  have written : UnpackedFloat.pack spec (.finite s m e positive)
      = packComponents spec s (BitVec.ofNat 11 biased)
          (BitVec.ofNat 52 m) := by
    show (if 2 ^ 11 ≤ (e + 1023 + 52).toNat + 1 then _
      else if m.log2 + 1 = 53 then
        packComponents spec s
          (BitVec.ofNat 11 (e + 1023 + 52).toNat) (BitVec.ofNat 52 m)
      else _) = _
    rw [← hb, Int.toNat_natCast, if_neg (by omega), if_pos hlog]
  have hones : BitVec.ofNat 11 biased ≠ -1#11 := by
    intro h
    have h := congrArg BitVec.toNat h
    rw [hexp] at h
    have : (-1#11).toNat = 2047 := rfl
    omega
  have hzero : BitVec.ofNat 11 biased ≠ 0#11 := by
    intro h
    have h := congrArg BitVec.toNat h
    rw [hexp] at h
    have : (0#11).toNat = 0 := rfl
    omega
  show UnpackedFloat.unpack spec
    (UnpackedFloat.pack spec (.finite s m e positive)) = _
  rw [written]
  unfold UnpackedFloat.unpack
  simp only [unpackMantissa_packComponents, unpackExponent_packComponents,
    ofBitVec_unpackSign, hones, hzero, if_false]
  refine finite_congr ?_ ?_
  · rw [toNat_one_append, hmant]
    omega
  · rw [hexp]
    show (biased : Int) - (1023 + 52) = e
    omega

/-- A number with the smallest exponent and leading zeros reads back as it
was written. -/
theorem unpack_pack_subnormal {s : Sign} {m : Nat} (hm : m < 2 ^ 52)
    (positive : 0 < m) :
    (pack (.finite s m (-1074) positive)).unpack
      = .finite s m (-1074) positive := by
  have hlog : m.log2 < 52 := (Nat.log2_lt positive.ne').mpr hm
  have hmant : (BitVec.ofNat 52 m).toNat = m := by
    rw [BitVec.toNat_ofNat, Nat.mod_eq_of_lt hm]
  have written : UnpackedFloat.pack spec (.finite s m (-1074) positive)
      = packComponents spec s 0#11 (BitVec.ofNat 52 m) := by
    show (if 2 ^ 11 ≤ 1 + 1 then packedInfinity spec s
      else if m.log2 + 1 = 53 then
        packComponents spec s (BitVec.ofNat 11 1) (BitVec.ofNat 52 m)
      else packComponents spec s 0#11 (BitVec.ofNat 52 m)) = _
    rw [if_neg (by decide), if_neg (by omega)]
  have hzero : BitVec.ofNat 52 m ≠ 0#52 := by
    intro h
    have h := congrArg BitVec.toNat h
    rw [hmant] at h
    have : (0#52).toNat = 0 := rfl
    omega
  have hones : 0#11 ≠ -1#11 := by decide
  show UnpackedFloat.unpack spec
    (UnpackedFloat.pack spec (.finite s m (-1074) positive)) = _
  rw [written]
  unfold UnpackedFloat.unpack
  simp only [unpackMantissa_packComponents, unpackExponent_packComponents,
    ofBitVec_unpackSign, hones, hzero, if_false, if_true, dite_false]
  exact finite_congr hmant rfl

/-- A finite number within the range reads back as it was written. -/
theorem unpack_pack_finite {s : Sign} {m : Nat} {e : Int}
    (canonical : Canonical m e) (he : e ≤ 971) (positive : 0 < m) :
    (pack (.finite s m e positive)).unpack = .finite s m e positive := by
  obtain ⟨short, low, filled⟩ := canonical
  by_cases full : 2 ^ 52 ≤ m
  · exact unpack_pack_normal full short low he positive
  · obtain rfl := filled.resolve_left full
    exact unpack_pack_subnormal (Nat.lt_of_not_le full) positive

theorem unpack_pack_zero (s : Sign) :
    (pack (.zero s)).unpack = .zero s := by
  cases s <;> rfl

-- =========================================================== rounding

/-- A mantissa shifted by `n` bits: the quotient, and whether a bit that
fell off was set. -/
theorem shiftRight_exact (m n : Nat) :
    ((ExtendedMantissa.mk m false false) >>> n).mantissa = m / 2 ^ n
    ∧ ((((ExtendedMantissa.mk m false false) >>> n).roundBit
        || ((ExtendedMantissa.mk m false false) >>> n).stickyBit) = true
      ↔ m % 2 ^ n ≠ 0) := by
  induction n with
  | zero =>
      rw [pow_zero, Nat.div_one, Nat.mod_one]
      refine ⟨rfl, ?_⟩
      show false = true ↔ 0 ≠ 0
      decide
  | succ n ih =>
      obtain ⟨hm, hbits⟩ := ih
      have step : (ExtendedMantissa.mk m false false) >>> (n + 1)
          = ((ExtendedMantissa.mk m false false) >>> n).shiftRightOne :=
        rfl
      rw [step]
      generalize (ExtendedMantissa.mk m false false) >>> n = em at hm hbits
      constructor
      · show em.mantissa / 2 = _
        rw [hm, Nat.div_div_eq_div_mul, pow_succ]
      · show (em.mantissa % 2 != 0 || (em.roundBit || em.stickyBit)) = true
          ↔ _
        rw [Bool.or_eq_true, hbits, bne_iff_ne, hm, Nat.mod_pow_succ]
        have positive : 0 < 2 ^ n := Nat.two_pow_pos n
        have bit : m / 2 ^ n % 2 = 0 ∨ m / 2 ^ n % 2 = 1 := by omega
        rcases bit with bit | bit
        · rw [bit]
          omega
        · rw [bit]
          omega

/-- Rounding leaves a mantissa or takes the number above it. -/
theorem roundedMantissa_near (em : ExtendedMantissa) :
    em.mantissa ≤ em.roundedMantissa
      ∧ em.roundedMantissa ≤ em.mantissa + 1 := by
  obtain ⟨q, round, sticky⟩ := em
  cases round with
  | false =>
      cases sticky with
      | false => exact ⟨Nat.le_refl q, Nat.le_succ q⟩
      | true => exact ⟨Nat.le_refl q, Nat.le_succ q⟩
  | true =>
      cases sticky with
      | false =>
          show q ≤ q + q % 2 ∧ q + q % 2 ≤ q + 1
          omega
      | true => exact ⟨Nat.le_succ q, Nat.le_refl (q + 1)⟩

/-- A rounded mantissa is the quotient or the number above it, and the
quotient where the division is exact. -/
theorem roundedMantissa_shift (m n : Nat) :
    m / 2 ^ n ≤ ((ExtendedMantissa.mk m false false) >>> n).roundedMantissa
    ∧ ((ExtendedMantissa.mk m false false) >>> n).roundedMantissa
      ≤ m / 2 ^ n + 1
    ∧ (m % 2 ^ n = 0 →
      ((ExtendedMantissa.mk m false false) >>> n).roundedMantissa
        = m / 2 ^ n) := by
  obtain ⟨hm, hbits⟩ := shiftRight_exact m n
  rw [← hm]
  generalize (ExtendedMantissa.mk m false false) >>> n = em at hm hbits
  obtain ⟨low, high⟩ := roundedMantissa_near em
  refine ⟨low, high, fun whole => ?_⟩
  have clear : (em.roundBit || em.stickyBit) = false := by
    rw [Bool.eq_false_iff]
    intro set
    exact hbits.mp set whole
  obtain ⟨q, round, sticky⟩ := em
  obtain ⟨rfl, rfl⟩ := Bool.or_eq_false_iff.mp clear
  rfl

/-- The exponent of a result: that of the last of 53 bits, unless it would
be too small. -/
def target (m : Nat) (e : Int) : Int :=
  spec.targetExponent (totalExponent m e)

theorem target_eq (m : Nat) (e : Int) :
    target m e = max ((m.log2 : Int) + 1 + e - 53) (-1074) :=
  rfl

/-- A mantissa is shifted until its exponent is that of the result. -/
theorem shiftToTargetExponent_eq {m : Nat} {e : Int} {n : Nat}
    (acc : Accuracy) (hn : target m e = e + n) :
    shiftToTargetExponent spec m e acc
      = (ExtendedMantissa.ofMantissaAndAccuracy m acc >>> n, e + n) := by
  show (ExtendedMantissa.ofMantissaAndAccuracy m acc
      >>> (target m e - e).toNat, e + ((target m e - e).toNat : Nat)) = _
  rw [hn, show (e + n - e).toNat = n by omega]

/-- The position of the leading bit decides the exponent of a result. -/
theorem shiftToTargetExponent_exact {m : Nat} {e : Int} {k : Nat}
    (hlog : m.log2 = 52 + k) (he : -1074 ≤ e) :
    shiftToTargetExponent spec m e .exact
      = ((ExtendedMantissa.mk m false false) >>> k, e + k) := by
  refine shiftToTargetExponent_eq .exact ?_
  rw [target_eq, hlog]
  omega

/-- A result is what is left after two shifts with a rounding between
them, unless that is zero. -/
theorem roundWithAccuracy_of_shifts {m q : Nat} {e : Int}
    {first final : ExtendedMantissa × Int}
    (hfirst : shiftToTargetExponent spec m e .exact = first)
    (hq : first.1.roundedMantissa = q)
    (hfinal : shiftToTargetExponent spec q first.2 .exact = final)
    (positive : 0 < final.1.mantissa) :
    roundWithAccuracy spec .positive m e .exact
      = .finite .positive final.1.mantissa final.2 positive := by
  subst hfirst
  subst hq
  subst hfinal
  exact dif_neg (Nat.ne_of_gt positive)

/-- A result with a mantissa of more than 52 bits is rounded to 53 of them:
the quotient or the number above it, and one bit less where that number
fills a 54th. -/
theorem roundWithAccuracy_eq {m : Nat} {e : Int} {k : Nat}
    (hlow : 2 ^ (52 + k) ≤ m) (hhigh : m < 2 ^ (53 + k))
    (he : -1074 ≤ e) :
    ∃ q, m / 2 ^ k ≤ q ∧ q ≤ m / 2 ^ k + 1
      ∧ (m % 2 ^ k = 0 → q = m / 2 ^ k)
      ∧ ∃ m' e' positive,
        roundWithAccuracy spec .positive m e .exact
          = .finite .positive m' e' positive
        ∧ (q < 2 ^ 53 ∧ m' = q ∧ e' = e + k
          ∨ q = 2 ^ 53 ∧ m' = 2 ^ 52 ∧ e' = e + k + 1) := by
  have positive : 0 < m := Nat.lt_of_lt_of_le (Nat.two_pow_pos _) hlow
  have hlog : m.log2 = 52 + k :=
    (Nat.log2_eq_iff (by omega)).mpr
      ⟨hlow, by rwa [show 52 + k + 1 = 53 + k by omega]⟩
  obtain ⟨hq, hq', hexact⟩ := roundedMantissa_shift m k
  generalize hr :
    ((ExtendedMantissa.mk m false false) >>> k).roundedMantissa = q
    at hq hq' hexact
  have low : 2 ^ 52 ≤ m / 2 ^ k := by
    rw [Nat.le_div_iff_mul_le (Nat.two_pow_pos k), ← pow_add]
    exact hlow
  have high : m / 2 ^ k < 2 ^ 53 := by
    rw [Nat.div_lt_iff_lt_mul (Nat.two_pow_pos k), ← pow_add]
    exact hhigh
  refine ⟨q, hq, hq', hexact, ?_⟩
  have first := shiftToTargetExponent_exact hlog he
  by_cases fits : q < 2 ^ 53
  · have hqlog : q.log2 = 52 + 0 :=
      (Nat.log2_eq_iff (by omega)).mpr ⟨by omega, by omega⟩
    have final := shiftToTargetExponent_exact (e := e + k) hqlog (by omega)
    have filled : 0 < q := by omega
    refine ⟨q, e + k, filled, ?_, Or.inl ⟨fits, rfl, rfl⟩⟩
    rw [roundWithAccuracy_of_shifts first hr final filled]
    exact finite_congr rfl (Int.add_zero _)
  · obtain rfl : q = 2 ^ 53 := by omega
    have hqlog : (2 ^ 53).log2 = 52 + 1 := by
      rw [Nat.log2_two_pow]
    have final := shiftToTargetExponent_exact (e := e + k) hqlog (by omega)
    have halved := (shiftRight_exact (2 ^ 53) 1).1
    have filled : 0 < ((ExtendedMantissa.mk (2 ^ 53) false false)
        >>> 1).mantissa := by
      rw [halved]
      omega
    refine ⟨2 ^ 52, e + k + 1, by omega, ?_, Or.inr ⟨rfl, rfl, rfl⟩⟩
    rw [roundWithAccuracy_of_shifts first hr final filled]
    exact finite_congr halved rfl

/-- A result that has 53 bits and zeros behind them is only shifted. -/
theorem roundWithAccuracy_exact {m : Nat} {e : Int} (k : Nat)
    (hm : 2 ^ 52 ≤ m) (hm' : m < 2 ^ 53) (he : -1074 ≤ e)
    (positive : 0 < m) :
    roundWithAccuracy spec .positive (m * 2 ^ k) e .exact
      = .finite .positive m (e + k) positive := by
  have low : 2 ^ (52 + k) ≤ m * 2 ^ k := by
    rw [pow_add]
    exact Nat.mul_le_mul_right _ hm
  have high : m * 2 ^ k < 2 ^ (53 + k) := by
    rw [pow_add]
    exact Nat.mul_lt_mul_of_pos_right hm' (Nat.two_pow_pos k)
  obtain ⟨q, -, -, hexact, m', e', positive', hr, cases⟩ :=
    roundWithAccuracy_eq low high he
  rw [Nat.mul_div_cancel _ (Nat.two_pow_pos k)] at hexact
  obtain rfl := hexact (Nat.mul_mod_left _ _)
  rw [hr]
  rcases cases with ⟨-, hm', he'⟩ | ⟨hq, -, -⟩
  · exact finite_congr hm' he'
  · omega

-- ==================================================== natural numbers

/-- A positive integer is rounded after its mantissa was brought to 53
bits. -/
theorem normalize_natCast {n : Nat} (hpos : 0 < n) (hlog : n.log2 ≤ 52) :
    UnpackedFloat.normalize spec n 0 .positive
      = roundWithAccuracy spec .positive (n * 2 ^ (52 - n.log2))
          (n.log2 - 52) .exact := by
  have target : spec.targetExponent (totalExponent n 0) = n.log2 - 52 := by
    show max (((n.log2 : Nat) : Int) + 1 + 0 - 53) (-1074) = _
    omega
  have shift : (0 - ((n.log2 : Int) - 52)).toNat = 52 - n.log2 := by omega
  have sign : compare (n : Int) 0 = .gt :=
    compare_gt_iff_gt.mpr (by omega)
  unfold UnpackedFloat.normalize
  rw [sign]
  show UnpackedFloat.round spec .positive (n : Int).toNat 0 = _
  rw [Int.toNat_natCast]
  unfold UnpackedFloat.round decreaseExponent
  rw [target]
  show roundWithAccuracy spec .positive
    (n <<< (0 - ((n.log2 : Int) - 52)).toNat)
    (0 - ((0 - ((n.log2 : Int) - 52)).toNat : Nat)) .exact = _
  rw [shift, Nat.shiftLeft_eq]
  congr 1
  omega

/-- The number one. -/
theorem unpack_one : (Float.ofBits 0x3FF0000000000000).toModel.unpack
    = .finite .positive (2 ^ 52) (-52) (Nat.two_pow_pos 52) := by
  rfl

/-- A product of positive numbers is rounded from the exact one. -/
theorem mul_positive {m m' : Nat} {e e' : Int} {h : 0 < m} {h' : 0 < m'} :
    UnpackedFloat.mul spec (.finite .positive m e h)
        (.finite .positive m' e' h')
      = roundWithAccuracy spec .positive (m * m') (e + e') .exact :=
  rfl

/-- A natural number of at most 53 bits is brought to all of them. -/
theorem filled_mantissa {n : Nat} (hpos : 0 < n) (hn : n < 2 ^ 53) :
    n.log2 ≤ 52 ∧ 2 ^ 52 ≤ n * 2 ^ (52 - n.log2)
      ∧ n * 2 ^ (52 - n.log2) < 2 ^ 53 := by
  have hlog : n.log2 ≤ 52 := by
    have := (Nat.log2_lt (by omega)).mpr hn
    omega
  obtain ⟨hlow, hhigh⟩ := (Nat.log2_eq_iff (by omega)).mp (rfl : n.log2 = _)
  refine ⟨hlog, ?_, ?_⟩
  · calc 2 ^ 52 = 2 ^ n.log2 * 2 ^ (52 - n.log2) := by
          rw [← pow_add, Nat.add_sub_cancel' hlog]
      _ ≤ n * 2 ^ (52 - n.log2) := Nat.mul_le_mul_right _ hlow
  · calc n * 2 ^ (52 - n.log2)
        < 2 ^ (n.log2 + 1) * 2 ^ (52 - n.log2) :=
          Nat.mul_lt_mul_of_pos_right hhigh (Nat.two_pow_pos _)
      _ = 2 ^ 53 := by
          rw [← pow_add, show n.log2 + 1 + (52 - n.log2) = 53 by omega]

/-- A natural number of at most 53 bits is written exactly. -/
theorem toModel_ofNat_small {n : Nat} (hpos : 0 < n) (hn : n < 2 ^ 53) :
    ∃ positive, (Float.ofNat n).toModel
      = pack (.finite .positive (n * 2 ^ (52 - n.log2)) (n.log2 - 52)
          positive) := by
  obtain ⟨hlog, low, high⟩ := filled_mantissa hpos hn
  have positive : 0 < n * 2 ^ (52 - n.log2) := by omega
  refine ⟨positive, ?_⟩
  have machine : n.toUInt64.toNat = n := by
    show n % 2 ^ 64 = n
    exact Nat.mod_eq_of_lt (by omega)
  have fresh : n.toUInt64.toFloat.toModel.unpack
      = .finite .positive (n * 2 ^ (52 - n.log2)) (n.log2 - 52)
          positive := by
    show (pack (UnpackedFloat.normalize spec (n.toUInt64.toNat : Nat) 0
      .positive)).unpack = _
    have rounded := roundWithAccuracy_exact (e := (n.log2 : Int) - 52) 0
      low high (by omega) positive
    rw [pow_zero, Nat.mul_one] at rounded
    rw [machine, normalize_natCast hpos hlog, rounded,
      unpack_pack_normal low high (by omega) (by omega)]
    exact finite_congr rfl (Int.add_zero _)
  -- the number is multiplied by one, the power of ten it is scaled with
  have product : (Float.ofNat n).toModel
      = n.toUInt64.toFloat.toModel
        * (Float.ofBits 0x3FF0000000000000).toModel := by
    show (Float.ofScientific n false 0).toModel = _
    unfold Float.ofScientific
    rw [dif_pos ⟨hn, by omega⟩]
    rfl
  rw [product]
  show pack (UnpackedFloat.mul spec _ _) = _
  rw [fresh, unpack_one, mul_positive,
    roundWithAccuracy_exact 52 low high (by omega) positive]
  exact congrArg pack (finite_congr rfl (by omega))

/-- A natural number of at most 53 bits is represented exactly. -/
theorem unpack_ofNat_small {n : Nat} (hpos : 0 < n) (hn : n < 2 ^ 53) :
    ∃ positive, (Float.ofNat n).toModel.unpack
      = .finite .positive (n * 2 ^ (52 - n.log2)) (n.log2 - 52) positive := by
  obtain ⟨hlog, low, high⟩ := filled_mantissa hpos hn
  obtain ⟨positive, written⟩ := toModel_ofNat_small hpos hn
  refine ⟨positive, ?_⟩
  rw [written]
  exact unpack_pack_normal low high (by omega) (by omega) positive

/-- A longer natural number is rounded with zeros behind it. -/
theorem toModel_ofNat_of_long {n : Nat} (long : 2 ^ 53 ≤ n) :
    (Float.ofNat n).toModel
      = pack (roundWithAccuracy spec .positive (n * 2 ^ 53) (-53)
          .exact) := by
  show (Float.ofScientific n false 0).toModel = _
  unfold Float.ofScientific
  rw [dif_neg (by omega)]
  show pack (UnpackedFloat.ofScientific spec n 0) = _
  unfold UnpackedFloat.ofScientific
  have range : (0 : Int) ≤ 2 ^ spec.exponentBits := by decide
  rw [dif_neg (by omega), if_neg (by omega), if_neg (by omega),
    if_pos (Int.le_refl 0), mul_positive, Int.toNat_zero, pow_zero,
    Nat.mul_one, Int.add_zero, Nat.shiftLeft_eq]
  rfl

/-- A longer natural number below `2 ^ 64` is rounded to 53 bits. -/
theorem unpack_ofNat_large {n k : Nat} (hlow : 2 ^ (52 + k) ≤ n)
    (hhigh : n < 2 ^ (53 + k)) (hk : 1 ≤ k) (hk' : k ≤ 11) :
    ∃ q, n / 2 ^ k ≤ q ∧ q ≤ n / 2 ^ k + 1
      ∧ (n % 2 ^ k = 0 → q = n / 2 ^ k)
      ∧ ∃ m e positive,
        (Float.ofNat n).toModel.unpack = .finite .positive m e positive
        ∧ (q < 2 ^ 53 ∧ m = q ∧ e = k
          ∨ q = 2 ^ 53 ∧ m = 2 ^ 52 ∧ e = k + 1) := by
  have long : 2 ^ 53 ≤ n := by
    calc 2 ^ 53 ≤ 2 ^ (52 + k) := Nat.pow_le_pow_right (by omega) (by omega)
      _ ≤ n := hlow
  have low : 2 ^ (52 + (k + 53)) ≤ n * 2 ^ 53 := by
    rw [← Nat.add_assoc, pow_add]
    exact Nat.mul_le_mul_right _ hlow
  have high : n * 2 ^ 53 < 2 ^ (53 + (k + 53)) := by
    rw [← Nat.add_assoc, pow_add]
    exact Nat.mul_lt_mul_of_pos_right hhigh (Nat.two_pow_pos 53)
  obtain ⟨q, hq, hq', hexact, m, e, positive, hr, cases⟩ :=
    roundWithAccuracy_eq (e := -53) low high (by omega)
  rw [pow_add, Nat.mul_div_mul_right _ _ (Nat.two_pow_pos 53)]
    at hq hq' hexact
  rw [Nat.mul_mod_mul_right] at hexact
  have filled : 2 ^ 52 ≤ n / 2 ^ k := by
    rw [Nat.le_div_iff_mul_le (Nat.two_pow_pos k), ← pow_add]
    exact hlow
  refine ⟨q, hq, hq', fun h => hexact (by rw [h, Nat.zero_mul]), m, e,
    positive, ?_, ?_⟩
  · rw [toModel_ofNat_of_long long, hr]
    exact unpack_pack_normal (by omega) (by omega) (by omega) (by omega) _
  · omega

end EarthBins.Binary64
