/-
Numbers in a row.

Numbers other than NaN are compared as a linear order compares its members,
and the two infinities are its ends. `OrderedScalar` adds to the signs what
a search for the largest or the smallest number relies on: a number that is
not above another is not above what that is not above
(`OrderedScalar.not_lt_trans`), and nothing but an infinity is as far out as
that infinity.

# The patterns of the infinities

Two 64-bit numbers that are equal need not be the same, for there are two
zeros. The infinities have one pattern each: a pattern that is read as one
has all exponent bits and no mantissa bit set, and is made up of these and
the sign (`packComponents_unpack`).

# Sorting

Lists are sorted by an order that has a place for NaN and tells the two
zeros apart. By this order a list is sorted in one way only (`SortedScalar`).
-/
import EarthBins.Proofs.Scalar.Signs

namespace EarthBins

open Scalar

/-- Number systems in which all numbers but NaN are in a row between the two
infinities. -/
class OrderedScalar (α : Type) [Scalar α] : Prop
    extends SignedScalar α where
  le_trans : ∀ {x y z : α}, x ≤ y → y ≤ z → x ≤ z
  eq_infinity_of_le : ∀ {x : α}, infinity ≤ x → x = infinity
  eq_neg_infinity_of_le : ∀ {x : α}, x ≤ -infinity → x = -infinity

namespace OrderedScalar

variable {α : Type} [Scalar α] [OrderedScalar α] {x y z : α}

/-- What is not above a number is not above what that is not above. -/
theorem not_lt_trans (hy : isNaN y = false) (h : ¬ x < y) (h' : ¬ y < z) :
    ¬ x < z := by
  intro lt
  obtain ⟨hx, hz⟩ := LawfulScalar.isNaN_of_lt lt
  have le : z ≤ x := le_trans (SignedScalar.le_of_not_lt hy hz h')
    (SignedScalar.le_of_not_lt hx hy h)
  exact SignedScalar.not_le_of_lt lt le

/-- A number that is not below infinity is infinity. -/
theorem eq_infinity_of_not_lt (hx : isNaN x = false)
    (h : ¬ x < infinity) : x = infinity :=
  eq_infinity_of_le
    (SignedScalar.le_of_not_lt hx LawfulScalar.isNaN_infinity h)

/-- A number that is not above minus infinity is minus infinity. -/
theorem eq_neg_infinity_of_not_lt (hx : isNaN x = false)
    (h : ¬ -infinity < x) : x = -infinity :=
  eq_neg_infinity_of_le
    (SignedScalar.le_of_not_lt LawfulScalar.isNaN_neg_infinity hx h)

end OrderedScalar

-- ======================================================= exact numbers

open Exact in
instance : OrderedScalar Exact where
  le_trans {x y z} h h' := by
    obtain ⟨hx, -, le⟩ := le_iff.mp h
    obtain ⟨-, hz, le'⟩ := le_iff.mp h'
    exact le_iff.mpr ⟨hx, hz, le.trans le'⟩
  eq_infinity_of_le {x} h := by
    obtain ⟨-, hx, le⟩ := le_iff.mp h
    exact extended_inj hx nofun (top_le_iff.mp le)
  eq_neg_infinity_of_le {x} h := by
    obtain ⟨hx, -, le⟩ := le_iff.mp h
    exact extended_inj hx nofun (le_bot_iff.mp le)

-- ====================================================== 64-bit numbers

namespace Binary64

open Float.Model Float.Model.UnpackedFloat

theorem toBitVec_ofBitVec (v : BitVec 1) :
    (Sign.ofBitVec v).toBitVec = v := by
  revert v
  decide

/-- A pattern is made up of its sign, its exponent and its mantissa. -/
theorem packComponents_unpack (b : BitVec spec.numBits) :
    packComponents spec (Sign.ofBitVec (unpackSign b)) (unpackExponent b)
      (unpackMantissa b) = b := by
  unfold packComponents
  rw [toBitVec_ofBitVec]
  unfold unpackSign unpackExponent unpackMantissa BitVec.extractLsb
  ext i hi
  grind

/-- An infinity has one pattern. -/
theorem eq_of_unpack_infinity {b : BitVec spec.numBits} {s : Sign}
    (h : UnpackedFloat.unpack spec b = .infinity s) :
    b = packedInfinity spec s := by
  have parts := packComponents_unpack b
  unfold UnpackedFloat.unpack at h
  dsimp only at h
  split at h
  · rename_i ones
    split at h
    · rename_i blank
      cases h
      rw [ones, blank] at parts
      exact parts.symm
    · cases h
  · split at h
    · split at h
      · cases h
      · cases h
    · cases h

theorem ext_of_infinity {x y : Float} {s : Sign}
    (hx : x.toModel.unpack = .infinity s)
    (hy : y.toModel.unpack = .infinity s) : x = y := by
  obtain ⟨⟨⟨b⟩, _⟩⟩ := x
  obtain ⟨⟨⟨b'⟩, _⟩⟩ := y
  obtain rfl : b = b' :=
    (eq_of_unpack_infinity hx).trans (eq_of_unpack_infinity hy).symm
  rfl

/-- No number but infinity is as large as infinity. -/
theorem eq_infinity_of_le {x : Float} (h : Double.infinity ≤ x) :
    x = Double.infinity := by
  have above : UnpackedFloat.le (.infinity .positive) x.toModel.unpack
      = true := le_iff.mp h
  refine ext_of_infinity (s := .positive) ?_ rfl
  cases hx : x.toModel.unpack with
  | infinity s =>
      rw [hx] at above
      cases s with
      | positive => rfl
      | negative => cases above
  | _ =>
      rw [hx] at above
      cases above

theorem eq_neg_infinity_of_le {x : Float} (h : x ≤ -Double.infinity) :
    x = -Double.infinity := by
  have below : UnpackedFloat.le x.toModel.unpack (.infinity .negative)
      = true := le_iff.mp h
  refine ext_of_infinity (s := .negative) ?_ rfl
  cases hx : x.toModel.unpack with
  | infinity s =>
      rw [hx] at below
      cases s with
      | positive => cases below
      | negative => rfl
  | _ =>
      rw [hx] at below
      cases below

end Binary64

open Exact in
instance : OrderedScalar Float where
  le_trans h h' := ofFloat_le.mp
    (OrderedScalar.le_trans (ofFloat_le.mpr h) (ofFloat_le.mpr h'))
  eq_infinity_of_le := Binary64.eq_infinity_of_le
  eq_neg_infinity_of_le := Binary64.eq_neg_infinity_of_le

-- ============================================================= sorting

/-- Number systems whose numbers, NaN among them, are sorted in one way. -/
class SortedScalar (α : Type) [Scalar α] : Prop where
  totalLE_trans : ∀ x y z : α, totalLE x y = true → totalLE y z = true →
    totalLE x z = true
  totalLE_total : ∀ x y : α, (totalLE x y || totalLE y x) = true
  totalLE_antisymm : ∀ {x y : α}, totalLE x y = true → totalLE y x = true →
    x = y

instance : SortedScalar Exact where
  totalLE_trans := Exact.totalLE_trans
  totalLE_total := Exact.totalLE_total
  totalLE_antisymm := Exact.totalLE_antisymm

/-- A 64-bit number is known by its place among all of them. -/
theorem Double.eq_of_rank_eq {x y : Float} (h : rank x = rank y) : x = y := by
  have bits : x.toBits.toNat = y.toBits.toNat := by
    have hx := x.toBits.toNat_lt
    have hy := y.toBits.toNat_lt
    simp only [rank, isNegative, magnitude, decide_eq_true_eq,
      show Nat.pow 2 63 = 9223372036854775808 from rfl] at h
    omega
  obtain ⟨⟨b, _⟩⟩ := x
  obtain ⟨⟨b', _⟩⟩ := y
  obtain rfl : b = b' := UInt64.toNat.inj bits
  rfl

instance : SortedScalar Float where
  totalLE_trans x y z h h' :=
    decide_eq_true ((of_decide_eq_true h).trans (of_decide_eq_true h'))
  totalLE_total x y := by
    rw [Bool.or_eq_true]
    exact (Int.le_total (Double.rank x) (Double.rank y)).imp decide_eq_true
      decide_eq_true
  totalLE_antisymm h h' := Double.eq_of_rank_eq
    (le_antisymm (of_decide_eq_true h) (of_decide_eq_true h'))

end EarthBins
