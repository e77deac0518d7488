/-
From numbers to indices and back.

A list is read at an index that was computed as a number. The computation
compares the number with the length of the list, as a number, and drops the
fraction afterwards. That the index is then inside the list takes a law
about the two conversions: a number that is not as large as `n` does not
become an index as large as `n`. The class states it, and the 64-bit
numbers obey it for every `n`, those that have no exact representation
among them.
-/
import EarthBins.Proofs.Scalar.Binary64

namespace EarthBins

open Scalar

/-- Number systems in which a comparison with a length bounds the index. -/
class LawfulIndex (α : Type) [Scalar α] : Prop where
  /-- A number below `n` has an integer part below `n`. -/
  toNat_lt : ∀ {x : α} {n : Nat}, 0 < n → ¬ ofNat n ≤ x → toNat x < n

namespace Binary64

open Float.Model Float.Model.UnpackedFloat

-- ======================================================= integer parts

/-- The integer part of a positive number. -/
theorem roundToInt_positive (m : Nat) (e : Int) :
    roundToInt .positive m e
      = (m * 2 ^ e.toNat / 2 ^ (-e).toNat : Nat) := by
  have behind : (0 - (e - (e - 0).toNat)).toNat = (-e).toNat := by omega
  have front : (e - 0).toNat = e.toNat := by omega
  show ((((ExtendedMantissa.mk (m <<< (e - 0).toNat) false false)
    >>> (0 - (e - (e - 0).toNat)).toNat).mantissa : Nat) : Int) = _
  rw [(shiftRight_exact _ _).1, behind, front, Nat.shiftLeft_eq]

/-- The integer part of a negative number is not positive. -/
theorem roundToInt_negative (m : Nat) (e : Int) :
    roundToInt .negative m e ≤ 0 := by
  show -(((_ : Nat) : Int)) ≤ 0
  omega

/-- A number is no larger than what it was clamped from. -/
theorem toNat_ofNatClamp_le (n : Nat) :
    (UInt64.ofNatClamp n).toNat ≤ n := by
  unfold UInt64.ofNatClamp
  split
  · exact Nat.le_refl n
  · rename_i h
    have : UInt64.size = 2 ^ 64 := rfl
    show 2 ^ 64 - 1 ≤ n
    omega

/-- Only a positive number has a positive integer part: infinity, or a
finite number whose integer part is as large. -/
theorem unpack_of_le_toNat {x : Float} {n : Nat} (hpos : 0 < n)
    (h : n ≤ toNat x) :
    x.toModel.unpack = .infinity .positive
    ∨ ∃ m e positive, x.toModel.unpack = .finite .positive m e positive
      ∧ n ≤ m * 2 ^ e.toNat / 2 ^ (-e).toNat := by
  have clamped : n ≤ (x.toModel.unpack.toInt 0 (UInt64.size - 1)).toNat :=
    Nat.le_trans h (toNat_ofNatClamp_le _)
  cases hx : x.toModel.unpack with
  | notANumber =>
      rw [hx] at clamped
      exact absurd clamped (Nat.not_le.mpr hpos)
  | zero s =>
      rw [hx] at clamped
      exact absurd clamped (Nat.not_le.mpr hpos)
  | infinity s =>
      cases s with
      | positive => exact Or.inl rfl
      | negative =>
          rw [hx] at clamped
          exact absurd clamped (Nat.not_le.mpr hpos)
  | finite s m e positive =>
      rw [hx] at clamped
      cases s with
      | negative =>
          have := roundToInt_negative m e
          have : n ≤ (roundToInt .negative m e).toNat := clamped
          omega
      | positive =>
          refine Or.inr ⟨m, e, positive, rfl, ?_⟩
          have : n ≤ (roundToInt .positive m e).toNat := clamped
          rwa [roundToInt_positive, Int.toNat_natCast] at this

-- ========================================================== comparison

/-- Numbers are compared by their parts. -/
theorem le_iff {x y : Float} :
    x ≤ y ↔ UnpackedFloat.le x.toModel.unpack y.toModel.unpack = true := by
  show decide (UnpackedFloat.le x.toModel.unpack y.toModel.unpack = true)
    = true ↔ _
  rw [decide_eq_true_iff]

/-- Positive numbers are compared by exponent, then by mantissa. -/
theorem le_of_unpack {x y : Float} {m m' : Nat} {e e' : Int} {h : 0 < m}
    {h' : 0 < m'} (hx : x.toModel.unpack = .finite .positive m e h)
    (hy : y.toModel.unpack = .finite .positive m' e' h')
    (hle : e < e' ∨ e = e' ∧ m ≤ m') : x ≤ y := by
  rw [le_iff, hx, hy]
  show ((compare e e').then (compare m m')).isLE = true
  rcases hle with hlt | ⟨rfl, hle⟩
  · rw [compare_lt_iff_lt.mpr hlt]
    rfl
  · rw [compare_eq_iff_eq.mpr (rfl : e = e)]
    exact Nat.isLE_compare.mpr hle

/-- A short natural number is not above a number whose integer part is as
large. -/
theorem ofNat_le_of_small {x : Float} {n m : Nat} {e : Int} {h : 0 < m}
    (hpos : 0 < n) (hn : n < 2 ^ 53)
    (hx : x.toModel.unpack = .finite .positive m e h)
    (hle : n ≤ m * 2 ^ e.toNat / 2 ^ (-e).toNat) : Float.ofNat n ≤ x := by
  obtain ⟨positive, hu⟩ := unpack_ofNat_small hpos hn
  have hlog : n.log2 ≤ 52 := by
    have := (Nat.log2_lt (by omega)).mpr hn
    omega
  refine le_of_unpack hu hx ?_
  by_cases hlt : (n.log2 : Int) - 52 < e
  · exact Or.inl hlt
  -- the exponents are not positive here, and the mantissa of `x` is short
  have hm : m < 2 ^ 53 := (unpack_finite hx).1.1
  have front : e.toNat = 0 := by omega
  rw [front, pow_zero, Nat.mul_one,
    Nat.le_div_iff_mul_le (Nat.two_pow_pos _)] at hle
  have hlow : 2 ^ n.log2 ≤ n := Nat.log2_self_le (by omega)
  have hlt : 2 ^ (n.log2 + (-e).toNat) < 2 ^ 53 := by
    calc 2 ^ (n.log2 + (-e).toNat) = 2 ^ n.log2 * 2 ^ (-e).toNat :=
          pow_add 2 _ _
      _ ≤ n * 2 ^ (-e).toNat := Nat.mul_le_mul_right _ hlow
      _ < 2 ^ 53 := by omega
  have shifts : n.log2 + (-e).toNat < 53 :=
    (Nat.pow_lt_pow_iff_right (by omega)).mp hlt
  have same : 52 - n.log2 = (-e).toNat := by omega
  refine Or.inr ⟨by omega, ?_⟩
  rw [same]
  exact hle

/-- The bits of a long number beyond the 53 of a mantissa. -/
theorem excess_of_large {n : Nat} (hlong : 2 ^ 53 ≤ n) (hn : n < 2 ^ 64) :
    ∃ k, 1 ≤ k ∧ k ≤ 11 ∧ 2 ^ (52 + k) ≤ n ∧ n < 2 ^ (53 + k) := by
  have low : 53 ≤ n.log2 := (Nat.le_log2 (by omega)).mpr hlong
  have high : n.log2 < 64 := (Nat.log2_lt (by omega)).mpr hn
  obtain ⟨hlow, hhigh⟩ := (Nat.log2_eq_iff (by omega)).mp (rfl : n.log2 = _)
  refine ⟨n.log2 - 52, by omega, by omega, ?_, ?_⟩
  · rw [show 52 + (n.log2 - 52) = n.log2 by omega]
    exact hlow
  · rw [show 53 + (n.log2 - 52) = n.log2 + 1 by omega]
    exact hhigh

/-- Nor is a longer one. -/
theorem ofNat_le_of_large {x : Float} {n m : Nat} {e : Int} {h : 0 < m}
    (hlong : 2 ^ 53 ≤ n) (hn : n < 2 ^ 64)
    (hx : x.toModel.unpack = .finite .positive m e h)
    (hle : n ≤ m * 2 ^ e.toNat / 2 ^ (-e).toNat) : Float.ofNat n ≤ x := by
  obtain ⟨⟨hm, -, hfull⟩, -⟩ := unpack_finite hx
  obtain ⟨k, hk1, hk2, hlow, hhigh⟩ := excess_of_large hlong hn
  obtain ⟨q, hq, hq', hexact, m', e', positive, hu, cases⟩ :=
    unpack_ofNat_large hlow hhigh hk1 hk2
  refine le_of_unpack hu hx ?_
  -- an integer part of more than 53 bits takes a positive exponent
  have he : 0 ≤ e := by
    by_contra hneg
    have front : e.toNat = 0 := by omega
    rw [front, pow_zero, Nat.mul_one] at hle
    have := Nat.div_le_self m (2 ^ (-e).toNat)
    omega
  obtain ⟨j, rfl⟩ := Int.eq_ofNat_of_zero_le he
  have back : (-(j : Int)).toNat = 0 := by omega
  rw [back, pow_zero, Nat.div_one, Int.toNat_natCast] at hle
  have hkj : k ≤ j := by
    have hlt : 2 ^ (52 + k) < 2 ^ (53 + j) := by
      calc 2 ^ (52 + k) ≤ n := hlow
        _ ≤ m * 2 ^ j := hle
        _ < 2 ^ 53 * 2 ^ j :=
          Nat.mul_lt_mul_of_pos_right hm (Nat.two_pow_pos j)
        _ = 2 ^ (53 + j) := (pow_add 2 _ _).symm
    have := (Nat.pow_lt_pow_iff_right (by omega)).mp hlt
    omega
  rcases Nat.lt_or_eq_of_le hkj with hlt | rfl
  · rcases cases with ⟨-, -, he'⟩ | ⟨-, hm', he'⟩
    · exact Or.inl (by omega)
    · by_cases next : j = k + 1
      · exact Or.inr ⟨by omega, by omega⟩
      · exact Or.inl (by omega)
  · have hqm : q ≤ m := by
      by_cases h0 : n % 2 ^ k = 0
      · rw [hexact h0]
        exact Nat.div_le_of_le_mul (Nat.mul_comm m _ ▸ hle)
      · have parts := Nat.div_add_mod n (2 ^ k)
        have : n / 2 ^ k < m := by
          refine Nat.lt_of_mul_lt_mul_left (a := 2 ^ k) ?_
          rw [Nat.mul_comm _ m]
          omega
        omega
    rcases cases with ⟨-, hm', he'⟩ | ⟨hq53, -, -⟩
    · exact Or.inr ⟨he', by omega⟩
    · omega

/-- Natural numbers below `2 ^ 64` are finite and positive. -/
theorem unpack_ofNat {n : Nat} (hpos : 0 < n) (hn : n < 2 ^ 64) :
    ∃ m e positive, (Float.ofNat n).toModel.unpack
      = .finite .positive m e positive := by
  by_cases short : n < 2 ^ 53
  · obtain ⟨positive, hu⟩ := unpack_ofNat_small hpos short
    exact ⟨_, _, positive, hu⟩
  · obtain ⟨k, hk1, hk2, hlow, hhigh⟩ := excess_of_large (by omega) hn
    obtain ⟨q, -, -, -, m, e, positive, hu, -⟩ :=
      unpack_ofNat_large hlow hhigh hk1 hk2
    exact ⟨m, e, positive, hu⟩

/-- A natural number is not above a number whose integer part is as
large. -/
theorem ofNat_le_of_le_toNat {x : Float} {n : Nat} (hpos : 0 < n)
    (h : n ≤ toNat x) : Float.ofNat n ≤ x := by
  have hn : n < 2 ^ 64 := Nat.lt_of_le_of_lt h x.toUInt64.toNat_lt
  rcases unpack_of_le_toNat hpos h with hx | ⟨m, e, positive, hx, hle⟩
  · obtain ⟨m, e, positive, hu⟩ := unpack_ofNat hpos hn
    rw [le_iff, hu, hx]
    rfl
  · by_cases short : n < 2 ^ 53
    · exact ofNat_le_of_small hpos short hx hle
    · exact ofNat_le_of_large (by omega) hn hx hle

end Binary64

instance : LawfulIndex Float where
  toNat_lt hpos h := by
    rw [← Nat.not_le]
    exact fun hle => h (Binary64.ofNat_le_of_le_toNat hpos hle)

end EarthBins
