/-
The exact number that a 64-bit number stands for.

A finite number stands for the real number that its mantissa and its
exponent make up. Comparing two numbers compares what they stand for
(`ofFloat_le`): the exponents decide where they differ, since the mantissa
with the larger one fills its 53 bits, and the mantissas where they do not.
-/
import EarthBins.Proofs.Scalar.Exact
import EarthBins.Proofs.Scalar.Index

namespace EarthBins

open Float.Model Float.Model.UnpackedFloat

namespace Exact

/-- No number is below NaN. -/
theorem not_le_nan (x : Exact) : ¬ x ≤ nan := by
  cases x with
  | nan => exact id
  | infinite s => cases s <;> exact id
  | real x => exact id

/-- A real number with a sign. -/
def signed : Sign → ℝ → ℝ
  | .positive, x => x
  | .negative, x => -x

theorem signed_zero (s : Sign) : signed s 0 = 0 := by
  cases s with
  | positive => rfl
  | negative => exact neg_zero

theorem signed_neg (s : Sign) (x : ℝ) : signed (-s) x = -signed s x := by
  cases s with
  | positive => rfl
  | negative => exact (neg_neg x).symm

theorem signed_sub (s : Sign) (x y : ℝ) :
    |signed s x - signed s y| = |x - y| := by
  cases s with
  | positive => rfl
  | negative =>
      show |-x - -y| = _
      rw [← neg_sub', abs_neg]

theorem signed_mul (s s' : Sign) (x y : ℝ) :
    signed (s * s') (x * y) = signed s x * signed s' y := by
  cases s with
  | positive =>
      cases s' with
      | positive => rfl
      | negative => exact (mul_neg x y).symm
  | negative =>
      cases s' with
      | positive => exact (neg_mul x y).symm
      | negative => exact (neg_mul_neg x y).symm

theorem signed_div (s s' : Sign) (x y : ℝ) :
    signed (s / s') (x / y) = signed s x / signed s' y := by
  cases s with
  | positive =>
      cases s' with
      | positive => rfl
      | negative => exact (div_neg x).symm
  | negative =>
      cases s' with
      | positive => exact (neg_div y x).symm
      | negative => exact (neg_div_neg_eq x y).symm

theorem abs_signed (s : Sign) (x : ℝ) : |signed s x| = |x| := by
  cases s with
  | positive => rfl
  | negative => exact abs_neg x

/-- The exact number that a number in parts stands for. -/
noncomputable def ofUnpacked : UnpackedFloat → Exact
  | .notANumber => nan
  | .infinity .negative => infinite true
  | .infinity .positive => infinite false
  | .zero _ => real 0
  | .finite s m e _ => real (signed s (m * twoPow e))

/-- The exact number that a 64-bit number stands for. -/
noncomputable def ofFloat (x : Float) : Exact :=
  ofUnpacked x.toModel.unpack

/-- The real number that a 64-bit number stands for, zero for NaN and the
infinities. -/
noncomputable def value (x : Float) : ℝ :=
  match ofFloat x with
  | real a => a
  | _ => 0

/-- Whether a 64-bit number stands for a real number. -/
def IsReal (x : Float) : Prop :=
  ofFloat x = real (value x)

theorem isReal_of_eq {x : Float} {a : ℝ} (h : ofFloat x = real a) :
    IsReal x ∧ value x = a := by
  have same : value x = a := by
    unfold value
    rw [h]
  exact ⟨by rw [IsReal, same, h], same⟩

end Exact

-- ========================================================== comparison

namespace Binary64

open Exact

variable {m m' : Nat} {e e' : Int}

/-- A mantissa that fills its bits outweighs any with a smaller exponent. -/
theorem lt_of_exponent_lt (h : Canonical m e) (h' : Canonical m' e')
    (lt : e < e') : (m : ℝ) * 2 ^ e < m' * 2 ^ e' := by
  have short : (m : ℝ) < 2 ^ 53 := by exact_mod_cast h.1
  have above : e' ≠ -1074 := by
    have := h.2.1
    omega
  have filled : (2 : ℝ) ^ 52 ≤ m' := by
    exact_mod_cast h'.2.2.resolve_right above
  calc (m : ℝ) * 2 ^ e < 2 ^ 53 * 2 ^ e := by gcongr
    _ = 2 ^ 52 * 2 ^ (e + 1) := by
      rw [zpow_add_one₀ two_ne_zero]
      ring
    _ ≤ m' * 2 ^ e' := by
      gcongr
      · exact one_le_two
      · omega

/-- Exponents and then mantissas are compared as the numbers are. -/
theorem compare_parts (h : Canonical m e) (h' : Canonical m' e') :
    ((compare e e').then (compare m m')).isLE = true
      ↔ (m : ℝ) * 2 ^ e ≤ m' * 2 ^ e' := by
  rcases lt_trichotomy e e' with lt | rfl | lt
  · rw [compare_lt_iff_lt.mpr lt]
    exact iff_of_true rfl (lt_of_exponent_lt h h' lt).le
  · rw [compare_eq_iff_eq.mpr rfl, mul_le_mul_iff_left₀ (by positivity),
      Nat.cast_le]
    exact Nat.isLE_compare
  · rw [compare_gt_iff_gt.mpr lt]
    exact iff_of_false nofun
      (lt_of_exponent_lt h' h lt).not_ge

/-- Finite numbers are compared as what they stand for. -/
theorem finite_le {s s' : Sign} {positive : 0 < m} {positive' : 0 < m'}
    (h : Canonical m e) (h' : Canonical m' e') :
    UnpackedFloat.le (.finite s m e positive) (.finite s' m' e' positive')
        = true
      ↔ signed s (m * 2 ^ e) ≤ signed s' (m' * 2 ^ e') := by
  have low : 0 < (m : ℝ) * 2 ^ e := by positivity
  have low' : 0 < (m' : ℝ) * 2 ^ e' := by positivity
  unfold signed
  cases s with
  | positive =>
      cases s' with
      | positive => exact compare_parts h h'
      | negative => exact iff_of_false nofun (by linarith)
  | negative =>
      cases s' with
      | positive => exact iff_of_true rfl (by linarith)
      | negative =>
          have turned : ((compare e e').then (compare m m')).swap
              = (compare e' e).then (compare m' m) := by
            rw [Ordering.swap_then, ← Std.OrientedOrd.eq_swap,
              ← Std.OrientedOrd.eq_swap]
          rw [neg_le_neg_iff, ← compare_parts h' h, ← turned]
          rfl

/-- A finite number is positive or negative by its sign. -/
theorem signed_pos_or_neg (s : Sign) (positive : 0 < m) :
    s = .positive ∧ 0 < signed s (m * 2 ^ e)
      ∨ s = .negative ∧ signed s (m * 2 ^ e) < 0 := by
  have low : 0 < (m : ℝ) * 2 ^ e := by positivity
  cases s with
  | positive => exact Or.inl ⟨rfl, low⟩
  | negative => exact Or.inr ⟨rfl, neg_lt_zero.mpr low⟩

/-- Numbers in parts are compared as what they stand for. -/
theorem unpacked_le {u v : UnpackedFloat}
    (hu : ∀ s m e positive, u = .finite s m e positive → Canonical m e)
    (hv : ∀ s m e positive, v = .finite s m e positive → Canonical m e) :
    UnpackedFloat.le u v = true ↔ ofUnpacked u ≤ ofUnpacked v := by
  cases u with
  | notANumber => exact iff_of_false nofun id
  | infinity s =>
      cases s with
      | negative =>
          cases v with
          | notANumber => exact iff_of_false nofun (not_le_nan _)
          | infinity s' => cases s' <;> exact iff_of_true rfl trivial
          | zero s' => exact iff_of_true rfl trivial
          | finite s' m' e' positive' => exact iff_of_true rfl trivial
      | positive =>
          cases v with
          | notANumber => exact iff_of_false nofun (not_le_nan _)
          | infinity s' =>
              cases s' with
              | negative => exact iff_of_false nofun id
              | positive => exact iff_of_true rfl trivial
          | zero s' => exact iff_of_false nofun id
          | finite s' m' e' positive' => exact iff_of_false nofun id
  | zero s =>
      cases v with
      | notANumber => exact iff_of_false nofun (not_le_nan _)
      | infinity s' =>
          cases s' with
          | negative => exact iff_of_false nofun id
          | positive => exact iff_of_true rfl trivial
      | zero s' => exact iff_of_true rfl (le_refl (0 : ℝ))
      | finite s' m' e' positive' =>
          rcases signed_pos_or_neg (e := e') s' positive'
            with ⟨rfl, h⟩ | ⟨rfl, h⟩
          · exact iff_of_true rfl h.le
          · exact iff_of_false nofun h.not_ge
  | finite s m e positive =>
      cases v with
      | notANumber =>
          refine iff_of_false ?_ (not_le_nan _)
          cases s <;> exact nofun
      | infinity s' =>
          cases s' with
          | negative =>
              refine iff_of_false ?_ id
              cases s <;> exact nofun
          | positive =>
              refine iff_of_true ?_ trivial
              cases s <;> rfl
      | zero s' =>
          rcases signed_pos_or_neg (e := e) s positive
            with ⟨rfl, h⟩ | ⟨rfl, h⟩
          · exact iff_of_false nofun h.not_ge
          · exact iff_of_true rfl h.le
      | finite s' m' e' positive' =>
          exact finite_le (hu _ _ _ _ rfl) (hv _ _ _ _ rfl)

end Binary64

/-- Two 64-bit numbers are compared as what they stand for. -/
theorem Exact.ofFloat_le {x y : Float} :
    ofFloat x ≤ ofFloat y ↔ x ≤ y :=
  (Binary64.unpacked_le (fun _ _ _ _ h => (Binary64.unpack_finite h).1)
    (fun _ _ _ _ h => (Binary64.unpack_finite h).1)).symm.trans
    Binary64.le_iff.symm

namespace Exact

variable {x y z : Float}

/-- Real numbers are compared by their values. -/
theorem value_le_iff (hx : IsReal x) (hy : IsReal y) :
    value x ≤ value y ↔ x ≤ y := by
  rw [← ofFloat_le, hx, hy]
  exact Iff.rfl

/-- What lies between two real numbers is real. -/
theorem isReal_of_between (hx : IsReal x) (hz : IsReal z) (low : x ≤ y)
    (high : y ≤ z) : IsReal y := by
  rw [← ofFloat_le, hx] at low
  rw [← ofFloat_le, hz] at high
  cases hy : ofFloat y with
  | nan =>
      rw [hy] at high
      exact high.elim
  | infinite s =>
      rw [hy] at low high
      cases s with
      | true => exact low.elim
      | false => exact high.elim
  | real a => exact (isReal_of_eq hy).1

end Exact

end EarthBins
