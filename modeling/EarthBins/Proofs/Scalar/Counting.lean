/-
Numbers of things in 64-bit arithmetic.

Natural numbers of at most 53 bits are added exactly: the sum of the 64-bit
numbers is the 64-bit number of the sum, bit for bit (`ofNat_add`). So a
count that is kept by adding one again and again is the count.

# One exponent for both

The mantissas fill their 53 bits, and the sum is taken at the exponent of
the smaller number, with zeros behind the mantissa of the larger one. As
the sum has at most 53 bits in front of the zeros, rounding only shifts
them away (`round_natCast`).
-/
import EarthBins.Proofs.Scalar.Rounding

namespace EarthBins.Binary64

open Float.Model Float.Model.UnpackedFloat

/-- Zeros behind a mantissa make up for a smaller exponent. -/
theorem shifted_mantissa (n : Nat) {place lead : Nat} (low : place ≤ lead)
    (high : lead ≤ 52) :
    (n * 2 ^ (52 - lead)) <<< ((lead : Int) - 52 - (place - 52)).toNat
      = n * 2 ^ (52 - place) := by
  rw [Nat.shiftLeft_eq, Nat.mul_assoc, ← pow_add]
  congr 2
  omega

/-- A mantissa with zeros behind it is brought to 53 bits, as long as the
bits in front of the zeros are no more. -/
theorem round_natCast {n place : Nat} (hpos : 0 < n) (hn : n < 2 ^ 53)
    (low : place ≤ n.log2) :
    ∃ positive, UnpackedFloat.round spec .positive (n * 2 ^ (52 - place))
        ((place : Int) - 52)
      = .finite .positive (n * 2 ^ (52 - n.log2)) (n.log2 - 52) positive := by
  obtain ⟨hlog, filled, short⟩ := filled_mantissa hpos hn
  have positive : 0 < n * 2 ^ (52 - n.log2) := by omega
  refine ⟨positive, ?_⟩
  have placed : (((place : Int) - 52)
      - target (n * 2 ^ (52 - place)) ((place : Int) - 52)).toNat = 0 := by
    rw [target_eq, log2_mul_two_pow hpos]
    omega
  have zeros : n * 2 ^ (52 - place)
      = n * 2 ^ (52 - n.log2) * 2 ^ (n.log2 - place) := by
    rw [Nat.mul_assoc, ← pow_add]
    congr 2
    omega
  rw [round_eq, placed, pow_zero, Nat.mul_one, zeros,
    roundWithAccuracy_exact (n.log2 - place) filled short (by omega) positive]
  exact finite_congr rfl (by omega)

/-- The mantissas of two natural numbers are added at the smaller exponent. -/
theorem add_natCast {m n : Nat} (hm : 0 < m) (hn : 0 < n)
    (h : m + n < 2 ^ 53) {positive positive' positive''} :
    UnpackedFloat.add spec
        (.finite .positive (m * 2 ^ (52 - m.log2)) (m.log2 - 52) positive)
        (.finite .positive (n * 2 ^ (52 - n.log2)) (n.log2 - 52) positive')
      = .finite .positive ((m + n) * 2 ^ (52 - (m + n).log2))
          ((m + n).log2 - 52) positive'' := by
  obtain ⟨place, hplace⟩ : ∃ place, place = min m.log2 n.log2 :=
    ⟨_, rfl⟩
  have exponent : min ((m.log2 : Int) - 52) (n.log2 - 52) = place - 52 := by
    omega
  have hm' := (filled_mantissa hm (by omega)).1
  have hn' := (filled_mantissa hn (by omega)).1
  have low : place ≤ (m + n).log2 := by
    have held : 2 ^ m.log2 ≤ m + n :=
      (Nat.log2_self_le hm.ne').trans (Nat.le_add_right m n)
    have := (Nat.le_log2 (Nat.add_pos_left hm n).ne').mpr held
    omega
  obtain ⟨_, rounded⟩ := round_natCast (Nat.add_pos_left hm n) h low
  show UnpackedFloat.normalize spec
    (((m * 2 ^ (52 - m.log2)) <<< ((m.log2 : Int) - 52
        - min ((m.log2 : Int) - 52) (n.log2 - 52)).toNat : Nat)
      + ((n * 2 ^ (52 - n.log2)) <<< ((n.log2 : Int) - 52
        - min ((m.log2 : Int) - 52) (n.log2 - 52)).toNat : Nat) : Int)
    (min ((m.log2 : Int) - 52) (n.log2 - 52)) .positive = _
  rw [exponent, shifted_mantissa m (by omega) hm',
    shifted_mantissa n (by omega) hn', ← Nat.cast_add, ← Nat.add_mul]
  unfold UnpackedFloat.normalize
  rw [compare_gt_iff_gt.mpr (by positivity)]
  exact rounded

theorem ext_toModel {x y : Float} (h : x.toModel = y.toModel) : x = y := by
  cases x
  cases y
  cases h
  rfl

/-- A sum of natural numbers is exact as long as it has at most 53 bits. -/
theorem ofNat_add {m n : Nat} (h : m + n < 2 ^ 53) :
    Float.ofNat m + Float.ofNat n = Float.ofNat (m + n) := by
  refine ext_toModel ?_
  show pack (UnpackedFloat.add spec (Float.ofNat m).toModel.unpack
    (Float.ofNat n).toModel.unpack) = _
  rcases Nat.eq_zero_or_pos m with rfl | hm
  · rcases Nat.eq_zero_or_pos n with rfl | hn
    · rfl
    · rw [Nat.zero_add] at h ⊢
      obtain ⟨positive, unpacked⟩ := unpack_ofNat_small hn h
      obtain ⟨_, written⟩ := toModel_ofNat_small hn h
      rw [unpacked, written]
      rfl
  · obtain ⟨_, unpacked⟩ := unpack_ofNat_small hm (by omega)
    rcases Nat.eq_zero_or_pos n with rfl | hn
    · rw [Nat.add_zero] at h ⊢
      obtain ⟨_, written⟩ := toModel_ofNat_small hm h
      rw [unpacked, written]
      rfl
    · obtain ⟨_, unpacked'⟩ := unpack_ofNat_small hn (by omega)
      obtain ⟨_, written⟩ := toModel_ofNat_small (Nat.add_pos_left hm n) h
      rw [unpacked, unpacked', written]
      exact congrArg pack (add_natCast hm hn h)

end EarthBins.Binary64
