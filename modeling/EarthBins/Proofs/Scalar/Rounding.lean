/-
How far a result is from the exact one.

The four operations compute an exact mantissa, or one that ends where the
exact one goes on, and round it to 53 bits. So a result below `2 ^ k` is off
by one in its 53rd place at most (`Rounds`): rounding moves a mantissa to
itself or to the next one, a second rounding only passes a 54th bit on to
the exponent, and a number that is not too large is written and read back
as it is.
-/
import EarthBins.Proofs.Scalar.Value

namespace EarthBins.Binary64

open Float.Model Float.Model.UnpackedFloat Exact

-- ============================================================ mantissas

/-- Whether a number lies between a mantissa and the next. -/
def Floors (m : Nat) (x : ℝ) : Prop :=
  m ≤ x ∧ x < m + 1

namespace Floors

theorem natCast (m : Nat) : Floors m m :=
  ⟨le_refl _, lt_add_one _⟩

theorem div (m : Nat) {d : Nat} (positive : 0 < d) :
    Floors (m / d) (m / d) := by
  have scale : (0 : ℝ) < d := by exact_mod_cast positive
  refine ⟨Nat.cast_div_le, ?_⟩
  rw [div_lt_iff₀ scale, mul_comm]
  exact_mod_cast Nat.lt_mul_div_succ m positive

variable {m n : Nat} {x : ℝ}

theorem half (h : Floors m x) : Floors (m / 2) (x / 2) := by
  obtain ⟨low, high⟩ := h
  have parts : (m : ℝ) = 2 * (m / 2 : Nat) + (m % 2 : Nat) := by
    exact_mod_cast (Nat.div_add_mod m 2).symm
  have bit : (0 : ℝ) ≤ (m % 2 : Nat) := Nat.cast_nonneg _
  have bit' : ((m % 2 : Nat) : ℝ) ≤ 1 := by
    exact_mod_cast Nat.le_of_lt_succ (Nat.mod_lt m two_pos)
  constructor
  · linarith
  · linarith

/-- The bits that are shifted out are those behind the end. -/
theorem shift {em : ExtendedMantissa} (h : Floors em.mantissa x)
    (n : Nat) : Floors (em >>> n).mantissa (x / 2 ^ n) := by
  induction n with
  | zero => rwa [pow_zero, div_one]
  | succ n ih =>
      have step : em >>> (n + 1) = (em >>> n).shiftRightOne := rfl
      rw [step, pow_succ, ← div_div]
      exact ih.half

theorem lt_two_pow (h : Floors m x) (hx : x < 2 ^ n) : m < 2 ^ n := by
  exact_mod_cast lt_of_le_of_lt h.1 hx

theorem two_pow_le (h : Floors m x) (hx : 2 ^ n ≤ x) : 2 ^ n ≤ m := by
  have above : (2 : ℝ) ^ n < m + 1 := lt_of_le_of_lt hx h.2
  exact Nat.le_of_lt_succ (by exact_mod_cast above)

end Floors

section

variable {em : ExtendedMantissa} {e : Int} {n : Nat} {x : ℝ}
  (floors : Floors em.mantissa x) (hn : target em.mantissa e = e + n)

include floors hn

/-- A mantissa that is shifted to its place and rounded has 53 bits, or a
54th one by itself. -/
theorem roundedMantissa_le : (em >>> n).roundedMantissa ≤ 2 ^ 53 := by
  rw [target_eq] at hn
  have bound : x / 2 ^ n < 2 ^ 53 := by
    rw [div_lt_iff₀ (by positivity), ← pow_add]
    calc x < em.mantissa + 1 := floors.2
      _ ≤ 2 ^ (em.mantissa.log2 + 1) := by exact_mod_cast Nat.lt_log2_self
      _ ≤ 2 ^ (53 + n) := pow_le_pow_right₀ one_le_two (by omega)
  have short := (floors.shift n).lt_two_pow bound
  have near := (roundedMantissa_near (em >>> n)).2
  omega

/-- All of its bits are in use unless the exponent is the smallest. -/
theorem two_pow_le_roundedMantissa :
    2 ^ 52 ≤ (em >>> n).roundedMantissa ∨ e + n = -1074 := by
  rw [target_eq] at hn
  by_cases smallest : e + (n : Int) = -1074
  · exact Or.inr smallest
  · have full : em.mantissa.log2 = 52 + n := by omega
    have nonzero : em.mantissa ≠ 0 := by
      intro zero
      rw [zero, Nat.log2_zero] at full
      omega
    have bound : 2 ^ 52 ≤ x / 2 ^ n := by
      rw [le_div_iff₀ (by positivity), ← pow_add, ← full]
      calc (2 : ℝ) ^ em.mantissa.log2 ≤ em.mantissa := by
            exact_mod_cast Nat.log2_self_le nonzero
        _ ≤ x := floors.1
    exact Or.inl (le_trans ((floors.shift n).two_pow_le bound)
      (roundedMantissa_near (em >>> n)).1)

omit hn

/-- It is off by one in its last place at most. -/
theorem roundedMantissa_off (e : Int) :
    |((em >>> n).roundedMantissa : ℝ) * 2 ^ (e + n) - x * 2 ^ e|
      ≤ 2 ^ (e + n) := by
  obtain ⟨low, high⟩ := floors.shift n
  obtain ⟨up, down⟩ := roundedMantissa_near (em >>> n)
  have power : (0 : ℝ) < 2 ^ (e + n) := zpow_pos two_pos _
  have up : ((em >>> n).mantissa : ℝ) ≤ (em >>> n).roundedMantissa := by
    exact_mod_cast up
  have down : ((em >>> n).roundedMantissa : ℝ)
      ≤ (em >>> n).mantissa + 1 := by
    exact_mod_cast down
  have off : |((em >>> n).roundedMantissa : ℝ) - x / 2 ^ n| ≤ 1 := by
    rw [abs_le]
    constructor
    · linarith
    · linarith
  calc |((em >>> n).roundedMantissa : ℝ) * 2 ^ (e + n) - x * 2 ^ e|
      = |((em >>> n).roundedMantissa - x / 2 ^ n) * 2 ^ (e + n)| := by
        rw [zpow_add₀ two_ne_zero, zpow_natCast]
        congr 1
        field_simp
    _ = |((em >>> n).roundedMantissa : ℝ) - x / 2 ^ n| * 2 ^ (e + n) := by
        rw [abs_mul, abs_of_pos power]
    _ ≤ 2 ^ (e + n) := mul_le_of_le_one_left power.le off

end

theorem mantissa_ofMantissaAndAccuracy (m : Nat) (acc : Accuracy) :
    (ExtendedMantissa.ofMantissaAndAccuracy m acc).mantissa = m := by
  cases acc with
  | exact => rfl
  | inexact order => cases order <;> rfl

-- ======================================================= finite numbers

/-- Whether a number in parts is finite and stands for a real number. -/
inductive Stands : UnpackedFloat → ℝ → Prop
  | zero (s : Sign) : Stands (.zero s) 0
  | finite {s : Sign} {m : Nat} {e : Int} {positive : 0 < m}
      (canonical : Canonical m e) (range : e ≤ 971) :
      Stands (.finite s m e positive) (signed s (m * 2 ^ e))

variable {u v : UnpackedFloat} {a b : ℝ} {k : Int}

theorem stands_unpack {x : Float} (h : IsReal x) :
    Stands x.toModel.unpack (value x) := by
  unfold IsReal ofFloat at h
  generalize value x = a at h
  cases hu : x.toModel.unpack with
  | notANumber =>
      rw [hu] at h
      cases h
  | infinity s =>
      rw [hu] at h
      cases s <;> cases h
  | zero s =>
      rw [hu] at h
      cases h
      exact .zero s
  | finite s m e positive =>
      rw [hu] at h
      cases h
      obtain ⟨canonical, range⟩ := unpack_finite hu
      exact .finite canonical range

/-- A finite number is written and read back as it is. -/
theorem Stands.value_eq (h : Stands u a) {x : Float}
    (hx : x.toModel = pack u) : IsReal x ∧ value x = a := by
  refine isReal_of_eq ?_
  unfold ofFloat
  rw [hx]
  cases h with
  | zero s =>
      rw [unpack_pack_zero]
      rfl
  | finite canonical range =>
      rw [unpack_pack_finite canonical range]
      rfl

theorem Stands.neg (h : Stands u a) : Stands u.neg (-a) := by
  cases h with
  | zero s =>
      rw [neg_zero]
      exact .zero (-s)
  | finite canonical range =>
      rw [← signed_neg]
      exact .finite canonical range

-- ============================================================= rounding

/-- Whether a number is finite and, for numbers below `2 ^ k`, off by one in
the 53rd place at most. -/
def Rounds (k : Int) (u : UnpackedFloat) (a : ℝ) : Prop :=
  ∃ c, Stands u c ∧ |c - a| ≤ twoPow (k - 53)

theorem Stands.rounds (h : Stands u a) : Rounds k u a := by
  refine ⟨a, h, ?_⟩
  rw [sub_self, abs_zero]
  exact zpow_nonneg zero_le_two _

/-- A rounded mantissa is not rounded again: a 54th bit goes to the
exponent. -/
theorem exists_canonical {q : Nat} {e : Int} (hq : q ≤ 2 ^ 53)
    (low : -1074 ≤ e) (filled : 2 ^ 52 ≤ q ∨ e = -1074) :
    ∃ m e', (shiftToTargetExponent spec q e .exact).1.mantissa = m
      ∧ (shiftToTargetExponent spec q e .exact).2 = e'
      ∧ Canonical m e' ∧ e' ≤ e + 1 ∧ (m : ℝ) * 2 ^ e' = q * 2 ^ e := by
  rcases Nat.lt_or_eq_of_le hq with hq | rfl
  · have hlog : q.log2 ≤ 52 := by
      by_cases zero : q = 0
      · subst zero
        decide
      · exact Nat.le_of_lt_succ ((Nat.log2_lt zero).mpr hq)
    have place : target q e = e + (0 : Nat) := by
      rw [target_eq]
      rcases filled with long | smallest
      · have := (Nat.le_log2 (by omega)).mpr long
        omega
      · omega
    rw [shiftToTargetExponent_eq .exact place]
    refine ⟨q, e, rfl, Int.add_zero e, ⟨hq, low, filled⟩, ?_, rfl⟩
    exact Int.le_add_one (le_refl e)
  · have place : target (2 ^ 53) e = e + (1 : Nat) := by
      rw [target_eq, Nat.log2_two_pow]
      omega
    rw [shiftToTargetExponent_eq .exact place]
    refine ⟨2 ^ 52, e + 1, rfl, rfl,
      ⟨by decide, by omega, Or.inl (le_refl _)⟩, le_refl _, ?_⟩
    rw [zpow_add_one₀ two_ne_zero]
    norm_num
    ring

/-- The last of the 53 places of a number below `2 ^ k`. -/
theorem target_le {m : Nat} {e : Int} (hk : -1021 ≤ k)
    (fits : e ≤ target m e) (bound : (m : ℝ) * 2 ^ e < 2 ^ k) :
    target m e ≤ k - 53 := by
  have top := target_eq m e
  by_cases zero : m = 0
  · rw [zero, Nat.log2_zero] at top
    rw [zero] at fits ⊢
    omega
  · have leading : (2 : ℝ) ^ m.log2 ≤ m := by
      exact_mod_cast Nat.log2_self_le zero
    have power : (2 : ℝ) ^ (m.log2 + e) < 2 ^ k := by
      rw [zpow_add₀ two_ne_zero, zpow_natCast]
      refine lt_of_le_of_lt ?_ bound
      gcongr
    have := (zpow_lt_zpow_iff_right₀ one_lt_two).mp power
    omega

/-- What is left of a mantissa that is shifted to its place and rounded is
canonical, or nothing. -/
theorem roundWithAccuracy_canonical {m n : Nat} {e : Int} (s : Sign)
    (acc : Accuracy) (hn : target m e = e + n) :
    ∃ m' e', Canonical m' e' ∧ e' ≤ e + n + 1
      ∧ (m' : ℝ) * 2 ^ e'
        = ((ExtendedMantissa.ofMantissaAndAccuracy m acc
            >>> n).roundedMantissa : ℝ) * 2 ^ (e + n)
      ∧ roundWithAccuracy spec s m e acc
        = if h : m' = 0 then .zero s
          else .finite s m' e' (Nat.pos_of_ne_zero h) := by
  have low : -1074 ≤ target m e := le_max_right _ _
  rw [hn] at low
  have first := shiftToTargetExponent_eq acc hn
  have mantissa := mantissa_ofMantissaAndAccuracy m acc
  generalize ExtendedMantissa.ofMantissaAndAccuracy m acc = em
    at mantissa first
  subst mantissa
  have floors := Floors.natCast em.mantissa
  obtain ⟨m', e', hm, he, canonical, carry, same⟩ := exists_canonical
    (roundedMantissa_le floors hn) low (two_pow_le_roundedMantissa floors hn)
  refine ⟨m', e', canonical, carry, same, ?_⟩
  unfold roundWithAccuracy
  rw [first]
  simp only [hm, he]

/-- A mantissa that goes on behind its end is rounded. -/
theorem roundWithAccuracy_rounds {s : Sign} {m : Nat} {e : Int}
    {acc : Accuracy} {x : ℝ} (hk : -1021 ≤ k ∧ k ≤ 1023)
    (floors : Floors m x) (fits : e ≤ target m e)
    (bound : x * 2 ^ e < 2 ^ k) :
    Rounds k (roundWithAccuracy spec s m e acc) (signed s (x * 2 ^ e)) := by
  obtain ⟨n, hn⟩ : ∃ n : Nat, target m e = e + n :=
    ⟨(target m e - e).toNat, by omega⟩
  have high : target m e ≤ k - 53 := by
    refine target_le hk.1 fits (lt_of_le_of_lt ?_ bound)
    gcongr
    exact floors.1
  rw [hn] at high
  obtain ⟨m', e', canonical, carry, same, result⟩ :=
    roundWithAccuracy_canonical s acc hn
  rw [← mantissa_ofMantissaAndAccuracy m acc] at floors
  have near := roundedMantissa_off floors (n := n) e
  rw [← same] at near
  have near : |signed s (m' * 2 ^ e') - signed s (x * 2 ^ e)|
      ≤ 2 ^ (k - 53) := by
    rw [signed_sub]
    exact near.trans (zpow_le_zpow_right₀ one_le_two high)
  refine ⟨_, ?_, near⟩
  rw [result]
  split
  · rename_i zero
    subst zero
    rw [Nat.cast_zero, zero_mul, signed_zero]
    exact .zero s
  · exact .finite canonical (by omega)

-- =========================================================== operations

/-- A mantissa of 53 bits or more keeps its places in front of the 53rd. -/
theorem le_target {m : Nat} {e : Int} (h : 2 ^ 52 ≤ m ∨ e ≤ -1074) :
    e ≤ target m e := by
  rw [target_eq]
  rcases h with long | small
  · have := (Nat.le_log2 (by omega)).mpr long
    omega
  · omega

theorem log2_mul_two_pow {m : Nat} (positive : 0 < m) (n : Nat) :
    (m * 2 ^ n).log2 = m.log2 + n := by
  obtain ⟨hlow, hhigh⟩ := (Nat.log2_eq_iff positive.ne').mp
    (rfl : m.log2 = _)
  rw [Nat.log2_eq_iff (by positivity), pow_add]
  constructor
  · exact Nat.mul_le_mul_right _ hlow
  · rw [show m.log2 + n + 1 = m.log2 + 1 + n by omega, pow_add]
    exact Nat.mul_lt_mul_of_pos_right hhigh (Nat.two_pow_pos n)

/-- Zeros behind a mantissa are made up for by the exponent. -/
theorem mul_two_pow_value (x : ℝ) (n : Nat) (e : Int) :
    x * 2 ^ n * 2 ^ (e - n) = x * 2 ^ e := by
  rw [mul_assoc, ← zpow_natCast, ← zpow_add₀ two_ne_zero]
  congr 2
  omega

/-- A mantissa is brought to its place before it is rounded. -/
theorem round_eq (s : Sign) (m : Nat) (e : Int) :
    UnpackedFloat.round spec s m e
      = roundWithAccuracy spec s (m * 2 ^ (e - target m e).toNat)
        (e - (e - target m e).toNat) .exact := by
  rw [← Nat.shiftLeft_eq]
  rfl

theorem le_target_round {m : Nat} (e : Int) (positive : 0 < m) :
    e - (e - target m e).toNat ≤ target (m * 2 ^ (e - target m e).toNat)
      (e - (e - target m e).toNat) := by
  rw [target_eq, target_eq, log2_mul_two_pow positive]
  omega

/-- A mantissa of any length is rounded. -/
theorem round_rounds {s : Sign} {m : Nat} {e : Int}
    (hk : -1021 ≤ k ∧ k ≤ 1023) (positive : 0 < m)
    (bound : (m : ℝ) * 2 ^ e < 2 ^ k) :
    Rounds k (UnpackedFloat.round spec s m e) (signed s (m * 2 ^ e)) := by
  have floors := Floors.natCast (m * 2 ^ (e - target m e).toNat)
  rw [Nat.cast_mul, Nat.cast_pow, Nat.cast_ofNat] at floors
  rw [← mul_two_pow_value m (e - target m e).toNat e] at bound ⊢
  rw [round_eq]
  exact roundWithAccuracy_rounds hk floors (le_target_round e positive) bound

/-- An integer mantissa is rounded. -/
theorem normalize_rounds {n : Int} {e : Int} {s : Sign}
    (hk : -1021 ≤ k ∧ k ≤ 1023) (bound : |(n : ℝ) * 2 ^ e| < 2 ^ k) :
    Rounds k (UnpackedFloat.normalize spec n e s) (n * 2 ^ e) := by
  unfold UnpackedFloat.normalize
  rcases lt_trichotomy n 0 with neg | rfl | pos
  · obtain ⟨m, rfl⟩ : ∃ m : Nat, n = -m := ⟨n.natAbs, by omega⟩
    rw [compare_lt_iff_lt.mpr neg]
    dsimp only
    rw [Int.neg_neg, Int.toNat_natCast]
    rw [Int.cast_neg, Int.cast_natCast, neg_mul] at bound ⊢
    rw [abs_neg] at bound
    exact round_rounds (s := .negative) hk (by omega) (lt_of_abs_lt bound)
  · rw [Int.cast_zero, zero_mul]
    exact (Stands.zero s).rounds
  · obtain ⟨m, rfl⟩ : ∃ m : Nat, n = m := ⟨n.natAbs, by omega⟩
    rw [compare_gt_iff_gt.mpr pos]
    rw [Int.cast_natCast] at bound ⊢
    exact round_rounds (s := .positive) hk (by omega) (lt_of_abs_lt bound)

/-- A mantissa brought to a smaller exponent. -/
theorem apply_value (s : Sign) (m : Nat) {e t : Int} (h : t ≤ e) :
    ((s.apply (m <<< (e - t).toNat : Nat) : Int) : ℝ) * 2 ^ t
      = signed s (m * 2 ^ e) := by
  have value := mul_two_pow_value m (e - t).toNat e
  rw [show e - ((e - t).toNat : Nat) = t by omega] at value
  rw [Nat.shiftLeft_eq, ← value]
  cases s with
  | positive => simp [Sign.apply, signed]
  | negative => simp [Sign.apply, signed]

theorem add_rounds (hk : -1021 ≤ k ∧ k ≤ 1023) (hu : Stands u a)
    (hv : Stands v b) (bound : |a + b| < 2 ^ k) :
    Rounds k (UnpackedFloat.add spec u v) (a + b) := by
  cases hu with
  | zero s =>
      rw [zero_add]
      cases hv with
      | zero s' =>
          show Rounds k
            (if (s == s') = true then .zero s else .zero .positive) 0
          split
          · exact (Stands.zero s).rounds
          · exact (Stands.zero .positive).rounds
      | finite canonical range => exact (Stands.finite canonical range).rounds
  | @finite s m e _ canonical range =>
      cases hv with
      | zero s' =>
          rw [add_zero]
          exact (Stands.finite canonical range).rounds
      | @finite s' m' e' _ _ _ =>
          have value : ((s.apply (m <<< (e - min e e').toNat : Nat)
              + s'.apply (m' <<< (e' - min e e').toNat : Nat) : Int) : ℝ)
                * 2 ^ min e e'
              = signed s (m * 2 ^ e) + signed s' (m' * 2 ^ e') := by
            rw [Int.cast_add, add_mul, apply_value s m (min_le_left e e'),
              apply_value s' m' (min_le_right e e')]
          rw [← value] at bound ⊢
          exact normalize_rounds hk bound

/-- A difference is a sum. -/
theorem sub_eq_add (u v : UnpackedFloat) :
    UnpackedFloat.sub spec u v = UnpackedFloat.add spec u v.neg := by
  cases u with
  | notANumber => rfl
  | infinity s => cases v <;> rfl
  | zero s => cases v <;> rfl
  | finite s m e positive =>
      cases v with
      | notANumber => rfl
      | infinity s' => rfl
      | zero s' => rfl
      | finite s' m' e' positive' =>
          cases s' with
          | positive => rfl
          | negative =>
              exact congrArg
                (UnpackedFloat.normalize spec · (min e e') .positive)
                (Int.sub_neg _ _)

theorem mul_rounds (hk : -1021 ≤ k ∧ k ≤ 1023) (hu : Stands u a)
    (hv : Stands v b) (bound : |a * b| < 2 ^ k) :
    Rounds k (UnpackedFloat.mul spec u v) (a * b) := by
  cases hu with
  | zero s =>
      rw [zero_mul]
      cases hv with
      | zero s' => exact (Stands.zero (s * s')).rounds
      | @finite s' _ _ _ _ _ => exact (Stands.zero (s * s')).rounds
  | @finite s m e positive canonical _ =>
      cases hv with
      | zero s' =>
          rw [mul_zero]
          exact (Stands.zero (s * s')).rounds
      | @finite s' m' e' positive' canonical' _ =>
          have value : (m : ℝ) * 2 ^ e * (m' * 2 ^ e')
              = (m * m' : Nat) * 2 ^ (e + e') := by
            rw [zpow_add₀ two_ne_zero]
            push_cast
            ring
          rw [← signed_mul, value] at bound ⊢
          rw [abs_signed] at bound
          refine roundWithAccuracy_rounds hk (Floors.natCast _) ?_
            (lt_of_abs_lt bound)
          refine le_target ?_
          rcases canonical.2.2 with filled | smallest
          · have := Nat.le_mul_of_pos_right m positive'
            exact Or.inl (le_trans filled this)
          · rcases canonical'.2.2 with filled | smallest'
            · have := Nat.le_mul_of_pos_left m' positive
              exact Or.inl (le_trans filled this)
            · exact Or.inr (by omega)

/-- A quotient has 53 bits or more, unless its exponent is the smallest. -/
theorem divCore_eq (m m' : Nat) (e e' : Int) :
    ∃ (n : Nat) (t : Int), (divCore spec m e m' e').1 = m * 2 ^ n / m'
      ∧ (divCore spec m e m' e').2.1 = t ∧ t + n = e - e'
      ∧ (m'.log2 + 53 ≤ m.log2 + n ∨ t ≤ -1074) := by
  obtain ⟨t, ht⟩ : ∃ t, t = min (e - e') (max ((m.log2 : Int) + 1 + e
      - (m'.log2 + 1 + e') - 53) (-1074)) := ⟨_, rfl⟩
  refine ⟨(e - e' - t).toNat, t, ?_, ht.symm, by omega, by omega⟩
  rw [← Nat.shiftLeft_eq, ht]
  rfl

theorem two_pow_le_div {m m' n : Nat} (positive : 0 < m)
    (positive' : 0 < m') (h : m'.log2 + 53 ≤ m.log2 + n) :
    2 ^ 52 ≤ m * 2 ^ n / m' := by
  rw [Nat.le_div_iff_mul_le positive']
  calc 2 ^ 52 * m' ≤ 2 ^ 52 * 2 ^ (m'.log2 + 1) :=
        Nat.mul_le_mul_left _ Nat.lt_log2_self.le
    _ = 2 ^ (m'.log2 + 53) := by
        rw [← pow_add]
        congr 1
        omega
    _ ≤ 2 ^ (m.log2 + n) := Nat.pow_le_pow_right two_pos h
    _ = 2 ^ m.log2 * 2 ^ n := pow_add _ _ _
    _ ≤ m * 2 ^ n :=
        Nat.mul_le_mul_right _ (Nat.log2_self_le positive.ne')

theorem div_rounds (hk : -1021 ≤ k ∧ k ≤ 1023) (hu : Stands u a)
    (hv : Stands v b) (nonzero : b ≠ 0) (bound : |a / b| < 2 ^ k) :
    Rounds k (UnpackedFloat.div spec u v) (a / b) := by
  cases hv with
  | zero s' => exact absurd rfl nonzero
  | @finite s' m' e' positive' _ _ =>
      cases hu with
      | zero s =>
          rw [zero_div]
          exact (Stands.zero (s / s')).rounds
      | @finite s m e positive _ _ =>
          obtain ⟨n, t, quotient, place, exponent, long⟩ :=
            divCore_eq m m' e e'
          have value : (m : ℝ) * 2 ^ e / (m' * 2 ^ e')
              = (m * 2 ^ n : Nat) / m' * 2 ^ t := by
            rw [show e = e' + t + n by omega, zpow_add₀ two_ne_zero,
              zpow_add₀ two_ne_zero, zpow_natCast]
            push_cast
            field_simp
          rw [← signed_div, value] at bound ⊢
          rw [abs_signed] at bound
          show Rounds k (roundWithAccuracy spec (s / s')
            (divCore spec m e m' e').1 (divCore spec m e m' e').2.1
            (divCore spec m e m' e').2.2) _
          rw [quotient, place]
          refine roundWithAccuracy_rounds hk (Floors.div _ positive') ?_
            (lt_of_abs_lt bound)
          exact le_target (long.imp_left (two_pow_le_div positive positive'))

-- ====================================================== 64-bit numbers

/-- Whether a number is real and, for numbers below `2 ^ k`, off by one in
the 53rd place at most. -/
def Near (k : Int) (x : Float) (a : ℝ) : Prop :=
  IsReal x ∧ |value x - a| ≤ twoPow (k - 53)

theorem Rounds.near (h : Rounds k u a) {x : Float}
    (hx : x.toModel = pack u) : Near k x a := by
  obtain ⟨c, stands, near⟩ := h
  obtain ⟨real, rfl⟩ := stands.value_eq hx
  exact ⟨real, near⟩

section

variable {x y : Float} (hk : -1021 ≤ k ∧ k ≤ 1023) (hx : IsReal x)
  (hy : IsReal y)

include hk hx hy

theorem add_near (bound : |value x + value y| < 2 ^ k) :
    Near k (x + y) (value x + value y) :=
  (add_rounds hk (stands_unpack hx) (stands_unpack hy) bound).near rfl

theorem sub_near (bound : |value x - value y| < 2 ^ k) :
    Near k (x - y) (value x - value y) := by
  rw [sub_eq_add_neg] at bound ⊢
  refine Rounds.near
    (add_rounds hk (stands_unpack hx) (stands_unpack hy).neg bound) ?_
  rw [← sub_eq_add]
  rfl

theorem mul_near (bound : |value x * value y| < 2 ^ k) :
    Near k (x * y) (value x * value y) :=
  (mul_rounds hk (stands_unpack hx) (stands_unpack hy) bound).near rfl

theorem div_near (nonzero : value y ≠ 0)
    (bound : |value x / value y| < 2 ^ k) :
    Near k (x / y) (value x / value y) :=
  (div_rounds hk (stands_unpack hx) (stands_unpack hy) nonzero bound).near
    rfl

end

/-- The opposite number is exact. -/
theorem value_neg {x : Float} (h : IsReal x) :
    IsReal (-x) ∧ value (-x) = -value x :=
  (stands_unpack h).neg.value_eq rfl

/-- A natural number of at most 53 bits is exact. -/
theorem value_ofNat {n : Nat} (h : n < 2 ^ 53) :
    IsReal (Float.ofNat n) ∧ value (Float.ofNat n) = n := by
  refine isReal_of_eq ?_
  rcases Nat.eq_zero_or_pos n with rfl | positive
  · show ofUnpacked (.zero .positive) = _
    rw [Nat.cast_zero]
    rfl
  · obtain ⟨filled, unpacked⟩ := unpack_ofNat_small positive h
    have short := (Nat.log2_lt positive.ne').mpr h
    have shifted := mul_two_pow_value n (52 - n.log2) 0
    rw [show (0 : Int) - (52 - n.log2 : Nat) = n.log2 - 52 by omega,
      zpow_zero, mul_one] at shifted
    unfold ofFloat
    rw [unpacked]
    show real (((n * 2 ^ (52 - n.log2) : Nat) : ℝ) * 2 ^ _) = _
    rw [Nat.cast_mul, Nat.cast_pow, Nat.cast_ofNat, shifted]

theorem value_half : IsReal (Scalar.half : Float)
    ∧ value (Scalar.half : Float) = 1 / 2 := by
  refine isReal_of_eq ?_
  have unpacked : (Scalar.half : Float).toModel.unpack
      = .finite .positive (2 ^ 52) (-53) (Nat.two_pow_pos 52) := rfl
  unfold ofFloat
  rw [unpacked]
  show real (((2 ^ 52 : Nat) : ℝ) * 2 ^ (-53 : Int)) = _
  norm_num

end EarthBins.Binary64
