/-
What a comparison says about the numbers compared.

The formulas of the library pass over values without a use by comparing
them: NaN is below nothing, not even itself, an infinity is below or above
nothing on its side, and a logarithm that does not exist is not finite.
`LawfulScalar` gathers these facts, and both number systems obey them.

# Through the extended real numbers

Exact numbers other than NaN are compared as extended real numbers are
(`Exact.le_iff`, `Exact.lt_iff`), and comparing 64-bit numbers compares what
they stand for (`Exact.ofFloat_le`, `Exact.ofFloat_lt`). So each fact is one
about a linear order.
-/
import EarthBins.Proofs.Scalar.Value
import Mathlib.Data.EReal.Basic

namespace EarthBins

open Scalar

/-- Number systems in which NaN, the infinities and missing logarithms are
told by comparing. -/
class LawfulScalar (α : Type) [Scalar α] : Prop where
  isNaN_nan : isNaN (nan : α) = true
  isNaN_infinity : isNaN (infinity : α) = false
  isNaN_neg_infinity : isNaN (-infinity : α) = false
  lt_irrefl : ∀ x : α, ¬ x < x
  lt_trans : ∀ {x y z : α}, x < y → y < z → x < z
  /-- NaN is not compared. -/
  isNaN_of_lt : ∀ {x y : α}, x < y → isNaN x = false ∧ isNaN y = false
  not_infinity_lt : ∀ x : α, ¬ infinity < x
  not_lt_neg_infinity : ∀ x : α, ¬ x < -infinity
  /-- Only positive finite numbers have a finite logarithm. -/
  isFinite_log : ∀ {x : α}, isNaN x = true ∨ x ≤ 0 ∨ infinity ≤ x →
    isFinite (log x) = false

-- ======================================================= exact numbers

namespace Exact

/-- An exact number among the extended real numbers; NaN is not one of
them. -/
noncomputable def extended : Exact → EReal
  | nan => 0
  | infinite negative => if negative then ⊥ else ⊤
  | real x => x

theorem extended_inj {x y : Exact} (hx : x ≠ nan) (hy : y ≠ nan)
    (h : x.extended = y.extended) : x = y := by
  cases x with
  | nan => exact absurd rfl hx
  | infinite s => cases y <;> cases s <;> simp_all [extended]
  | real x =>
      cases y with
      | nan => exact absurd rfl hy
      | infinite t => cases t <;> simp [extended] at h
      | real y => exact congrArg real (EReal.coe_injective h)

/-- Numbers are compared as extended real numbers, and NaN is not
compared. -/
theorem le_iff {x y : Exact} :
    x ≤ y ↔ x ≠ nan ∧ y ≠ nan ∧ x.extended ≤ y.extended := by
  show le x y ↔ _
  cases x with
  | nan => simp [le]
  | infinite s =>
      cases y with
      | nan => cases s <;> simp [le]
      | infinite t => cases s <;> cases t <;> simp [le, extended]
      | real y => cases s <;> simp [le, extended]
  | real x =>
      cases y with
      | nan => simp [le]
      | infinite t => cases t <;> simp [le, extended]
      | real y => simp [le, extended]

theorem lt_iff {x y : Exact} :
    x < y ↔ x ≠ nan ∧ y ≠ nan ∧ x.extended < y.extended := by
  show x ≤ y ∧ ¬ y ≤ x ↔ _
  rw [le_iff, le_iff]
  constructor
  · rintro ⟨⟨hx, hy, -⟩, not_ge⟩
    exact ⟨hx, hy, not_le.mp fun ge => not_ge ⟨hy, hx, ge⟩⟩
  · rintro ⟨hx, hy, lt⟩
    exact ⟨⟨hx, hy, lt.le⟩, fun ge => lt.not_ge ge.2.2⟩

/-- Of two numbers that are not NaN one is below the other or not above
it. -/
theorem not_lt_iff {x y : Exact} (hx : x ≠ nan) (hy : y ≠ nan) :
    ¬ x < y ↔ y ≤ x := by
  rw [lt_iff, le_iff]
  constructor
  · intro not_lt
    exact ⟨hy, hx, le_of_not_gt fun lt => not_lt ⟨hx, hy, lt⟩⟩
  · rintro ⟨-, -, le⟩ ⟨-, -, lt⟩
    exact le.not_gt lt

/-- Numbers that are not NaN are equal if neither is below the other. -/
theorem eq_of_not_lt {x y : Exact} (hx : x ≠ nan) (hy : y ≠ nan)
    (not_lt : ¬ x < y) (not_gt : ¬ y < x) : x = y :=
  extended_inj hx hy (le_antisymm
    (le_iff.mp ((not_lt_iff hy hx).mp not_gt)).2.2
    (le_iff.mp ((not_lt_iff hx hy).mp not_lt)).2.2)

theorem isNaN_eq_true_iff {x : Exact} : isNaN x = true ↔ x = nan := by
  rw [isNaN, Bool.not_eq_true', decide_eq_false_iff_not, le_iff]
  simp

theorem isNaN_eq_false_iff {x : Exact} : isNaN x = false ↔ x ≠ nan := by
  rw [← Bool.not_eq_true, ne_eq, isNaN_eq_true_iff]

@[simp]
theorem isNaN_real (x : ℝ) : isNaN (real x) = false :=
  isNaN_eq_false_iff.mpr nofun

@[simp]
theorem isNaN_nan : isNaN nan = true :=
  isNaN_eq_true_iff.mpr rfl

/-- The finite numbers are the real ones. -/
theorem isFinite_eq_true_iff {x : Exact} :
    isFinite x = true ↔ ∃ r, x = real r := by
  rw [isFinite, Bool.and_eq_true, decide_eq_true_eq, decide_eq_true_eq,
    lt_iff, lt_iff]
  cases x with
  | nan => simp
  | infinite s =>
      refine iff_of_false ?_ nofun
      rintro ⟨⟨-, -, low⟩, -, -, high⟩
      cases s with
      | true => exact lt_irrefl _ low
      | false => exact lt_irrefl _ high
  | real r =>
      refine iff_of_true ⟨⟨nofun, nofun, ?_⟩, nofun, nofun, ?_⟩ ⟨r, rfl⟩
      · exact EReal.bot_lt_coe r
      · exact EReal.coe_lt_top r

open Classical in
/-- NaN is sorted behind all numbers, and these as they are compared. -/
theorem totalLE_iff {x y : Exact} :
    Scalar.totalLE x y = true ↔ y = nan ∨ x ≤ y := by
  cases y with
  | nan => cases x <;> exact iff_of_true rfl (Or.inl rfl)
  | infinite t => cases x <;> exact decide_eq_true_iff.trans (by simp; rfl)
  | real b => cases x <;> exact decide_eq_true_iff.trans (by simp; rfl)

theorem totalLE_trans (x y z : Exact) (h : Scalar.totalLE x y = true)
    (h' : Scalar.totalLE y z = true) : Scalar.totalLE x z = true := by
  rw [totalLE_iff] at h h' ⊢
  rcases h' with rfl | h'
  · exact Or.inl rfl
  · rw [le_iff] at h' ⊢
    obtain ⟨hx, -, le⟩ := le_iff.mp (h.resolve_left h'.1)
    exact Or.inr ⟨hx, h'.2.1, le.trans h'.2.2⟩

theorem totalLE_total (x y : Exact) :
    (Scalar.totalLE x y || Scalar.totalLE y x) = true := by
  rw [Bool.or_eq_true, totalLE_iff, totalLE_iff]
  by_cases hx : x = nan
  · exact Or.inr (Or.inl hx)
  by_cases hy : y = nan
  · exact Or.inl (Or.inl hy)
  rw [le_iff, le_iff]
  rcases le_total x.extended y.extended with le | ge
  · exact Or.inl (Or.inr ⟨hx, hy, le⟩)
  · exact Or.inr (Or.inr ⟨hy, hx, ge⟩)

theorem totalLE_antisymm {x y : Exact} (h : Scalar.totalLE x y = true)
    (h' : Scalar.totalLE y x = true) : x = y := by
  rw [totalLE_iff] at h h'
  rcases h with rfl | h
  · exact h'.resolve_right fun le => (le_iff.mp le).1 rfl
  · have le := le_iff.mp h
    have ge := le_iff.mp (h'.resolve_left le.1)
    exact extended_inj le.1 le.2.1 (le_antisymm le.2.2 ge.2.2)

/-- Only a positive real number has a real logarithm. -/
theorem exists_of_log_eq_real {x : Exact} {r : ℝ}
    (h : Scalar.log x = real r) : ∃ a, 0 < a ∧ x = real a := by
  cases x with
  | nan => cases h
  | infinite s => cases s <;> cases h
  | real a =>
      change (if a < 0 then nan
        else if a = 0 then infinite true else real (Real.log a)) = _ at h
      split at h
      · cases h
      · split at h
        · cases h
        · exact ⟨a, by grind, rfl⟩

end Exact

open Exact in
instance : LawfulScalar Exact where
  isNaN_nan := isNaN_nan
  isNaN_infinity := isNaN_eq_false_iff.mpr nofun
  isNaN_neg_infinity := isNaN_eq_false_iff.mpr nofun
  lt_irrefl x h := (lt_iff.mp h).2.2.false
  lt_trans h h' :=
    lt_iff.mpr ⟨(lt_iff.mp h).1, (lt_iff.mp h').2.1,
      (lt_iff.mp h).2.2.trans (lt_iff.mp h').2.2⟩
  isNaN_of_lt h :=
    ⟨isNaN_eq_false_iff.mpr (lt_iff.mp h).1,
      isNaN_eq_false_iff.mpr (lt_iff.mp h).2.1⟩
  not_infinity_lt x h := not_top_lt (lt_iff.mp h).2.2
  not_lt_neg_infinity x h := not_lt_bot (lt_iff.mp h).2.2
  isFinite_log {x} h := by
    rw [← Bool.not_eq_true, isFinite_eq_true_iff]
    rintro ⟨r, hr⟩
    obtain ⟨a, positive, rfl⟩ := exists_of_log_eq_real hr
    rcases h with isNaN | le | ge
    · exact absurd (isNaN_eq_true_iff.mp isNaN) nofun
    · exact positive.not_ge (by simpa using le)
    · exact (EReal.coe_lt_top a).not_ge (le_iff.mp ge).2.2

open Exact in
instance : LawfulIndex Exact where
  toNat_lt {x n} positive h := by
    cases x with
    | nan => exact positive
    | infinite negative =>
        cases negative with
        | true => exact positive
        | false =>
            refine absurd (le_iff.mpr ⟨?_, ?_, le_top⟩) h
            · nofun
            · nofun
    | real x =>
        rw [ofNat_eq, real_le, not_le] at h
        exact (Nat.floor_lt' positive.ne').mpr h

-- ====================================================== 64-bit numbers

namespace Binary64

open Float.Model Float.Model.UnpackedFloat

/-- A comparison turned around. -/
theorem compare_swap (u v : UnpackedFloat) :
    UnpackedFloat.compare v u
      = (UnpackedFloat.compare u v).map Ordering.swap := by
  have exponents (e e' : Int) (m m' : Nat) :
      (compare e' e).then (compare m' m)
        = ((compare e e').then (compare m m')).swap := by
    rw [Ordering.swap_then, ← Std.OrientedOrd.eq_swap,
      ← Std.OrientedOrd.eq_swap]
  cases u with
  | notANumber => cases v <;> rfl
  | infinity s =>
      cases v with
      | infinity s' => cases s <;> cases s' <;> rfl
      | _ => cases s <;> rfl
  | zero s =>
      cases v with
      | infinity s' => cases s' <;> rfl
      | finite s' m e h => cases s' <;> rfl
      | _ => rfl
  | finite s m e h =>
      cases v with
      | infinity s' => cases s <;> cases s' <;> rfl
      | finite s' m' e' h' =>
          cases s with
          | positive =>
              cases s' with
              | positive => exact congrArg some (exponents e e' m m')
              | negative => rfl
          | negative =>
              cases s' with
              | positive => rfl
              | negative =>
                  exact congrArg some
                    (congrArg Ordering.swap (exponents e e' m m'))
      | _ => cases s <;> rfl

/-- Of two numbers in parts one is below the other unless that is not above
it, if they are compared at all. -/
theorem unpacked_lt {u v : UnpackedFloat} :
    UnpackedFloat.lt u v = true
      ↔ UnpackedFloat.le u v = true ∧ ¬ UnpackedFloat.le v u = true := by
  unfold UnpackedFloat.lt UnpackedFloat.le
  rw [compare_swap u v]
  cases UnpackedFloat.compare u v with
  | none => simp
  | some o => cases o <;> simp [Ordering.isLE]

theorem lt_iff {x y : Float} : x < y ↔ x ≤ y ∧ ¬ y ≤ x := by
  rw [le_iff, le_iff, ← unpacked_lt]
  show decide (UnpackedFloat.lt x.toModel.unpack y.toModel.unpack = true)
    = true ↔ _
  rw [decide_eq_true_iff]

end Binary64

namespace Exact

variable {x y : Float}

/-- One 64-bit number is below another if what it stands for is. -/
theorem ofFloat_lt : ofFloat x < ofFloat y ↔ x < y := by
  rw [Binary64.lt_iff, ← ofFloat_le, ← ofFloat_le]
  exact Iff.rfl

theorem isNaN_ofFloat (x : Float) : isNaN (ofFloat x) = isNaN x := by
  rw [isNaN, isNaN, decide_eq_decide.mpr ofFloat_le]

/-- Of two real numbers one is below the other or not above it. -/
theorem not_lt_of_isReal (hx : IsReal x) (hy : IsReal y) :
    ¬ x < y ↔ y ≤ x := by
  rw [← ofFloat_lt, ← ofFloat_le]
  refine not_lt_iff ?_ ?_
  · rw [hx]
    nofun
  · rw [hy]
    nofun

end Exact

open Exact in
/-- Only a positive finite number has a finite logarithm. -/
theorem Double.isFinite_log {x : Float}
    (h : isNaN x = true ∨ x ≤ 0 ∨ infinity ≤ x) :
    Scalar.isFinite (Double.log x) = false := by
  have outside : (decide (0 < x) && decide (x < Double.infinity)) = false := by
    rw [Bool.and_eq_false_iff, decide_eq_false_iff_not,
      decide_eq_false_iff_not, Binary64.lt_iff, Binary64.lt_iff]
    rcases h with isNaN | le | ge
    · refine Or.inl fun lt => ?_
      rw [← isNaN_ofFloat, isNaN_eq_true_iff] at isNaN
      rw [← ofFloat_le, isNaN] at lt
      exact not_le_nan _ lt.1
    · exact Or.inl fun lt => lt.2 le
    · exact Or.inr fun lt => lt.2 ge
  unfold Double.log
  rw [outside]
  split
  · cases ‹false = true›
  split
  · decide
  split
  · decide
  · decide

open Exact in
instance : LawfulScalar Float where
  isNaN_nan := by decide
  isNaN_infinity := by decide
  isNaN_neg_infinity := by decide
  lt_irrefl x h := (Binary64.lt_iff.mp h).2 (Binary64.lt_iff.mp h).1
  lt_trans h h' :=
    ofFloat_lt.mp (LawfulScalar.lt_trans (ofFloat_lt.mpr h) (ofFloat_lt.mpr h'))
  isNaN_of_lt {x y} h := by
    rw [← isNaN_ofFloat, ← isNaN_ofFloat]
    exact LawfulScalar.isNaN_of_lt (ofFloat_lt.mpr h)
  not_infinity_lt x h :=
    LawfulScalar.not_infinity_lt (ofFloat x) (ofFloat_lt.mpr h)
  not_lt_neg_infinity x h :=
    LawfulScalar.not_lt_neg_infinity (ofFloat x) (ofFloat_lt.mpr h)
  isFinite_log := Double.isFinite_log

end EarthBins
