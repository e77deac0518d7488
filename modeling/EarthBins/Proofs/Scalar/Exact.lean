/-
Exact numbers: the real numbers, the two infinities and "not a number".

Read over these numbers, the formulas of the library are computed without
rounding. On real numbers every operation is that of the reals, as long as
it has a result; what has none follows the machine: a number divided by
zero is infinite, zero divided by zero, the difference of two infinities
and the product of an infinity and zero are NaN, and a comparison with NaN
is false. Zero has no sign.
-/
import EarthBins.Scalar
import Mathlib.Analysis.SpecialFunctions.Complex.Arg
import Mathlib.Analysis.SpecialFunctions.Pow.Real
import Mathlib.Analysis.SpecialFunctions.Trigonometric.Arctan

namespace EarthBins

/-- A real number, an infinity or "not a number". -/
inductive Exact where
  | nan
  | infinite (negative : Bool)
  | real (x : ℝ)

namespace Exact

noncomputable section

open Classical Real

-- ======================================================== operations

/-- The opposite number. -/
def neg : Exact → Exact
  | nan => nan
  | infinite s => infinite (!s)
  | real x => real (-x)

/-- The sum; infinities of opposite signs have none. -/
def add : Exact → Exact → Exact
  | real x, real y => real (x + y)
  | infinite s, infinite t => if s = t then infinite s else nan
  | infinite s, real _ => infinite s
  | real _, infinite t => infinite t
  | _, _ => nan

/-- The product; an infinity and zero have none. -/
def mul : Exact → Exact → Exact
  | real x, real y => real (x * y)
  | infinite s, infinite t => infinite (s != t)
  | infinite s, real y =>
    if y = 0 then nan else infinite (s != decide (y < 0))
  | real x, infinite t =>
    if x = 0 then nan else infinite (decide (x < 0) != t)
  | _, _ => nan

/-- The quotient; zeros have none, and infinities have none. -/
def div : Exact → Exact → Exact
  | real x, real y =>
    if y ≠ 0 then real (x / y)
    else if x = 0 then nan
    else infinite (decide (x < 0))
  | infinite s, real y => infinite (s != decide (y < 0))
  | real _, infinite _ => real 0
  | _, _ => nan

/-- The order of the extended real numbers; nothing is comparable with
NaN. -/
def le : Exact → Exact → Prop
  | nan, _ => False
  | _, nan => False
  | infinite true, _ => True
  | _, infinite false => True
  | real x, real y => x ≤ y
  | _, _ => False

/-- The remainder in `[0, |y|)` of the division by a number that is not
zero. -/
def mod : Exact → Exact → Exact
  | real x, real y =>
    if y = 0 then nan else real (x - |y| * ⌊x / |y|⌋)
  | real x, infinite _ => if x < 0 then infinite false else real x
  | _, _ => nan

/-- The integer part of a positive number, and zero for all others. An
infinite one has the largest there is on the machine. -/
def toNat : Exact → Nat
  | real x => ⌊x⌋₊
  | infinite false => 2 ^ 64 - 1
  | _ => 0

/-- The value of a binary place. -/
def twoPow (k : ℤ) : ℝ := 2 ^ k

/-- A function of real numbers that has no value at the infinities. -/
def lift (f : ℝ → ℝ) : Exact → Exact
  | real x => real (f x)
  | _ => nan

def sqrt : Exact → Exact
  | real x => if x < 0 then nan else real √x
  | infinite false => infinite false
  | _ => nan

def exp : Exact → Exact
  | real x => real (Real.exp x)
  | infinite true => real 0
  | infinite false => infinite false
  | nan => nan

def log : Exact → Exact
  | real x =>
    if x < 0 then nan
    else if x = 0 then infinite true
    else real (Real.log x)
  | infinite false => infinite false
  | _ => nan

/-- The power. Whatever the other operand, an exponent of zero and a base
of one give one. -/
def pow (x y : Exact) : Exact :=
  if y = real 0 ∨ x = real 1 then real 1
  else
    match x, y with
    | real x, real y =>
      if x = 0 then if y < 0 then infinite false else real 0
      else if x < 0 ∧ ∀ n : ℤ, y ≠ n then nan
      else real (x ^ y)
    | real x, infinite t =>
      if |x| = 1 then real 1
      else if (1 < |x|) ↔ t = true then real 0
      else infinite false
    | infinite s, real y =>
      if y < 0 then real 0
      else infinite (s && decide (∃ n : ℤ, y = 2 * n + 1))
    | infinite _, infinite t => if t then real 0 else infinite false
    | _, _ => nan

def atan : Exact → Exact
  | real x => real (arctan x)
  | infinite s => real (if s then -(π / 2) else π / 2)
  | nan => nan

/-- The direction of a coordinate beside an infinite one. -/
def direction : Exact → ℝ
  | infinite s => if s then -1 else 1
  | _ => 0

/-- The angle of the point `(x, y)`. -/
def atan2 : Exact → Exact → Exact
  | real y, real x => real (Complex.arg ⟨x, y⟩)
  | real y, infinite true => real (if y < 0 then -π else π)
  | nan, _ => nan
  | _, nan => nan
  | y, x => real (Complex.arg ⟨x.direction, y.direction⟩)

/-- The hypotenuse over two legs. An infinite leg wins over NaN. -/
def hypot : Exact → Exact → Exact
  | real x, real y => real √(x ^ 2 + y ^ 2)
  | infinite _, _ => infinite false
  | _, infinite _ => infinite false
  | _, _ => nan

/-- The order with NaN behind all numbers. -/
def totalLE : Exact → Exact → Bool
  | _, nan => true
  | x, y => decide (le x y)

instance : Scalar Exact where
  add := add
  sub x y := add x (neg y)
  mul := mul
  div := div
  neg := neg
  lt x y := le x y ∧ ¬ le y x
  le := le
  decidableLT := Classical.decRel _
  decidableLE := Classical.decRel _
  ofNat n := real n
  nan := nan
  infinity := infinite false
  toNat := toNat
  mod := mod
  sqrt := sqrt
  exp := exp
  log := log
  pow := pow
  pi := real π
  sin := lift Real.sin
  cos := lift Real.cos
  atan := atan
  atan2 := atan2
  hypot := hypot
  totalLE := totalLE

-- ====================================================== real operands

@[simp]
theorem ofNat_eq (n : Nat) : (Scalar.ofNat n : Exact) = real n :=
  rfl

@[simp]
theorem numeral_eq (n : Nat) :
    (OfNat.ofNat n : Exact) = real ((OfNat.ofNat n : Nat) : ℝ) :=
  rfl

variable (x y : ℝ)

@[simp]
theorem real_add : real x + real y = real (x + y) :=
  rfl

@[simp]
theorem real_sub : real x - real y = real (x - y) :=
  congrArg real (sub_eq_add_neg x y).symm

@[simp]
theorem real_neg : -real x = real (-x) :=
  rfl

@[simp]
theorem real_mul : real x * real y = real (x * y) :=
  rfl

@[simp]
theorem real_div (h : y ≠ 0) : real x / real y = real (x / y) :=
  if_pos h

@[simp]
theorem exp_real : Scalar.exp (real x) = real (Real.exp x) :=
  rfl

@[simp]
theorem sin_real : Scalar.sin (real x) = real (Real.sin x) :=
  rfl

@[simp]
theorem cos_real : Scalar.cos (real x) = real (Real.cos x) :=
  rfl

@[simp]
theorem atan2_real :
    Scalar.atan2 (real y) (real x) = real (Complex.arg ⟨x, y⟩) :=
  rfl

@[simp]
theorem hypot_real :
    Scalar.hypot (real x) (real y) = real √(x ^ 2 + y ^ 2) :=
  rfl

theorem sqrt_real {x : ℝ} (nonneg : 0 ≤ x) :
    Scalar.sqrt (real x) = real √x :=
  if_neg nonneg.not_gt

theorem log_real {x : ℝ} (positive : 0 < x) :
    Scalar.log (real x) = real (Real.log x) := by
  show (if x < 0 then nan else if x = 0 then infinite true else _) = _
  rw [if_neg positive.not_gt, if_neg positive.ne']

@[simp]
theorem real_le : real x ≤ real y ↔ x ≤ y :=
  Iff.rfl

@[simp]
theorem real_lt : real x < real y ↔ x < y :=
  lt_iff_le_not_ge.symm

@[simp]
theorem half_eq : (Scalar.half : Exact) = real (1 / 2) := by
  unfold Scalar.half
  rw [numeral_eq, numeral_eq, real_div]
  · norm_num
  · norm_num

@[simp]
theorem toNat_real : Scalar.toNat (real x) = ⌊x⌋₊ :=
  rfl

/-- A number below the divisor is its own remainder. -/
theorem mod_real_of_mem {x y : ℝ} (low : 0 ≤ x) (high : x < y) :
    Scalar.mod (real x) (real y) = real x := by
  have positive : 0 < y := lt_of_le_of_lt low high
  have whole : ⌊x / |y|⌋ = 0 := by
    rw [abs_of_pos positive, Int.floor_eq_zero_iff]
    exact ⟨div_nonneg low positive.le, (div_lt_one positive).mpr high⟩
  show (if y = 0 then nan else real (x - |y| * ⌊x / |y|⌋)) = real x
  rw [if_neg positive.ne', whole, Int.cast_zero, mul_zero, sub_zero]

-- ================================================== infinite operands

variable (s t : Bool)

@[simp]
theorem infinite_add_real : infinite s + real x = infinite s :=
  rfl

@[simp]
theorem real_add_infinite : real x + infinite s = infinite s :=
  rfl

@[simp]
theorem infinite_sub_real : infinite s - real x = infinite s :=
  rfl

@[simp]
theorem real_sub_infinite : real x - infinite s = infinite (!s) :=
  rfl

theorem infinite_add_infinite :
    infinite s + infinite t = if s = t then infinite s else nan :=
  rfl

theorem infinite_sub_infinite :
    infinite s - infinite t = if s = !t then infinite s else nan :=
  rfl

/-- A number below zero turns an infinity around, and zero destroys it. -/
theorem real_mul_infinite :
    real x * infinite s
      = if x = 0 then nan else infinite (decide (x < 0) != s) :=
  rfl

-- ======================================================= NaN operands

variable (z : Exact)

@[simp]
theorem nan_add : nan + z = nan := by
  cases z <;> rfl

@[simp]
theorem add_nan : z + nan = nan := by
  cases z <;> rfl

@[simp]
theorem nan_sub : nan - z = nan :=
  nan_add (-z)

@[simp]
theorem sub_nan : z - nan = nan :=
  add_nan z

@[simp]
theorem nan_mul : nan * z = nan := by
  cases z <;> rfl

@[simp]
theorem mul_nan : z * nan = nan := by
  cases z <;> rfl

@[simp]
theorem nan_div : nan / z = nan := by
  cases z <;> rfl

@[simp]
theorem div_nan : z / nan = nan := by
  cases z <;> rfl

@[simp]
theorem neg_nan : -nan = nan :=
  rfl

theorem real_ne_nan : real x ≠ nan := by
  intro h
  cases h

theorem infinite_ne_nan (negative : Bool) : infinite negative ≠ nan := by
  intro h
  cases h

end

end Exact

end EarthBins
