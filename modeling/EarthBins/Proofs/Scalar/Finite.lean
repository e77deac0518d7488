/-
Which 64-bit numbers are finite.

The magnitude bits of a finite number are below those of infinity. That is
to say that its exponent field is not filled with ones, and so it is one of
the numbers that have a sign, a mantissa and an exponent, or zero. The
opposite of a finite number is finite, and so is every integer that is kept
as one.
-/
import EarthBins.Decimal.Reading
import EarthBins.Proofs.Scalar.Index

namespace EarthBins.Binary64

open Float.Model Float.Model.UnpackedFloat

-- ====================================================== exponent fields

theorem toNat_unpackExponent (b : BitVec spec.numBits) :
    (unpackExponent b).toNat = b.toNat / 2 ^ 52 % 2 ^ 11 := by
  unfold unpackExponent
  rw [BitVec.toNat_cast, BitVec.extractLsb_toNat, Nat.shiftRight_eq_div_pow]
  rfl

/-- A pattern is a finite number unless its exponent field is filled. -/
theorem isFinite_unpack_iff (b : BitVec spec.numBits) :
    (UnpackedFloat.unpack spec b).isFinite = true
      ↔ (unpackExponent b).toNat < 2047 := by
  have filled : unpackExponent b = -1#11
      ↔ ¬ (unpackExponent b).toNat < 2047 := by
    have fits : (unpackExponent b).toNat < 2 ^ 11 := (unpackExponent b).isLt
    rw [← BitVec.toNat_inj]
    show _ = 2047 ↔ _
    omega
  unfold UnpackedFloat.unpack
  dsimp only
  by_cases ones : unpackExponent b = -1#11
  · rw [if_pos ones]
    refine iff_of_false ?_ (filled.mp ones)
    split
    · exact nofun
    · exact nofun
  · rw [if_neg ones]
    refine iff_of_true ?_ (not_not.mp (mt filled.mpr ones))
    split
    · split
      · rfl
      · rfl
    · rfl

/-- Finite numbers are told by their parts. -/
theorem isFinite_iff (x : Float) :
    Double.isFinite x = true ↔ x.toModel.unpack.isFinite = true := by
  show decide (x.toModel.toBits.toNat % 2 ^ 63 < 2047 * 2 ^ 52) = true
    ↔ (UnpackedFloat.unpack spec x.toModel.toBits.toBitVec).isFinite = true
  rw [isFinite_unpack_iff, toNat_unpackExponent, decide_eq_true_iff]
  show _ ↔ x.toModel.toBits.toNat / 2 ^ 52 % 2 ^ 11 < 2047
  omega

-- ============================================================= integers

theorem isFinite_neg {x : Float} (finite : Double.isFinite x = true) :
    Double.isFinite (-x) = true := by
  rw [isFinite_iff] at finite ⊢
  show (pack x.toModel.unpack.neg).unpack.isFinite = true
  cases hx : x.toModel.unpack with
  | notANumber =>
      rw [hx] at finite
      cases finite
  | infinity s =>
      rw [hx] at finite
      cases finite
  | zero s =>
      show (pack (.zero _)).unpack.isFinite = true
      rw [unpack_pack_zero]
      rfl
  | finite s m e positive =>
      obtain ⟨canonical, high⟩ := unpack_finite hx
      show (pack (.finite _ m e positive)).unpack.isFinite = true
      rw [unpack_pack_finite canonical high]
      rfl

theorem isFinite_ofNat {n : Nat} (short : n < 2 ^ 64) :
    Double.isFinite (Float.ofNat n) = true := by
  rcases Nat.eq_zero_or_pos n with rfl | positive
  · decide
  · obtain ⟨m, e, filled, hu⟩ := unpack_ofNat positive short
    rw [isFinite_iff, hu]
    rfl

/-- An integer of at most 64 bits has at most twenty digits, so neither of
the guards of a decimal concerns it. -/
theorem ofDecimal_of_short {n : Nat} (short : n < 2 ^ 64) (negative : Bool) :
    Decimal.ofDecimal negative n 0
      = if negative then -Float.ofNat n else Float.ofNat n := by
  have digits : Decimal.length n ≤ 20 :=
    (Nat.length_toDigits_le_iff (by decide) (by decide)).mpr (by omega)
  unfold Decimal.ofDecimal
  extract_lets size x
  have value : x = Float.ofNat n := by
    have unguarded : ¬ size < -330 ∧ ¬ 310 < size := by
      have : size = Decimal.length n := Int.zero_add _
      omega
    by_cases zero : n = 0
    · simp only [x, zero, decide_true, Bool.true_or, if_true]
      rfl
    · simp only [x, zero, unguarded, decide_false, Bool.or_self,
        Bool.false_eq_true, if_false]
      rfl
  rw [value]

/-- Every integer that is kept as one is a finite number. -/
theorem isFinite_ofInteger {n : Int} (low : -2 ^ 64 < n) (high : n < 2 ^ 64) :
    Double.isFinite (Decimal.ofInteger n) = true := by
  have short : n.natAbs < 2 ^ 64 := by omega
  rw [Decimal.ofInteger, ofDecimal_of_short short]
  split
  · exact isFinite_neg (isFinite_ofNat short)
  · exact isFinite_ofNat short

end EarthBins.Binary64
