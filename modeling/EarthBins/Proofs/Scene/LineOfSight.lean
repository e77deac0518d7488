/-
The line of sight of a geostationary imager.

Without rounding, a view of an ellipsoid with two radii that are not zero
gives a position to exactly those pairs of scan angles whose line of sight
meets the ellipsoid, and each of these positions is on the globe.

# The quadratic

A point of the line of sight is known by its distance from the satellite,
and it lies on the ellipsoid where the distance is a root of a quadratic.
The leading coefficient of the quadratic is positive, for the direction of
the line is not the zero vector. Where there is a root, the smaller one is
the distance that is taken, and the point there is on the ellipsoid. So it
is not the center of the Earth: on the axis, where the latitude is the
angle of a number divided by zero, that number is not zero as well.

For other views nothing like it holds. A latitude is always the angle of
some number, and so it is between the poles or NaN.
-/
import EarthBins.Proofs.Scalar.Order
import EarthBins.Scene.Geolocation
import Mathlib.Algebra.QuadraticDiscriminant

namespace EarthBins

open Exact

-- =========================================================== positions

namespace Exact

/-- The angle of a number is at most a right one. -/
theorem exists_atan {q : Exact} (number : q ≠ nan) :
    ∃ t : ℝ, Scalar.atan q = real t ∧ -(Real.pi / 2) ≤ t
      ∧ t ≤ Real.pi / 2 := by
  cases q with
  | nan => exact absurd rfl number
  | infinite negative =>
      have sides : -(Real.pi / 2) ≤ Real.pi / 2 := by
        have := Real.pi_pos
        linarith
      cases negative with
      | true => exact ⟨-(Real.pi / 2), rfl, le_refl _, sides⟩
      | false => exact ⟨Real.pi / 2, rfl, sides, le_refl _⟩
  | real x =>
      exact ⟨_, rfl, (Real.neg_pi_div_two_lt_arctan x).le,
        (Real.arctan_lt_pi_div_two x).le⟩

/-- A quotient is a number unless both of its parts are zero. -/
theorem real_div_real_ne_nan {x y : ℝ} (h : x ≠ 0 ∨ y ≠ 0) :
    real x / real y ≠ nan := by
  by_cases hy : y = 0
  · have hx : x ≠ 0 := h.resolve_right (not_not_intro hy)
    show div (real x) (real y) ≠ nan
    rw [div, if_neg (not_not_intro hy), if_neg hx]
    exact infinite_ne_nan _
  · rw [real_div x y hy]
    exact real_ne_nan _

@[simp]
theorem toDegrees_real (x : ℝ) :
    Scalar.toDegrees (real x) = real (x * (180 / Real.pi)) := by
  show real x * (real _ / real Real.pi) = _
  rw [real_div _ _ Real.pi_ne_zero, real_mul]
  norm_num

/-- The angle of a number is a latitude. -/
theorem exists_toDegrees_atan {q : Exact} (number : q ≠ nan) :
    ∃ lat : ℝ, Scalar.toDegrees (Scalar.atan q) = real lat
      ∧ -90 ≤ lat ∧ lat ≤ 90 := by
  obtain ⟨t, ht, low, high⟩ := exists_atan number
  have degrees : 0 < 180 / Real.pi := by
    have := Real.pi_pos
    positivity
  have right : Real.pi / 2 * (180 / Real.pi) = 90 := by
    field_simp
    norm_num
  refine ⟨t * (180 / Real.pi), by rw [ht, toDegrees_real], ?_, ?_⟩
  · have := mul_le_mul_of_nonneg_right low degrees.le
    linarith
  · have := mul_le_mul_of_nonneg_right high degrees.le
    linarith

end Exact

/-- Two exact numbers are a position on the globe if they are real and the
first is between the poles. -/
theorem Position.isValid_iff {p : Position Exact} :
    p.isValid = true
      ↔ ∃ lat lon : ℝ, p = ⟨real lat, real lon⟩ ∧ -90 ≤ lat ∧ lat ≤ 90 := by
  obtain ⟨pLat, pLon⟩ := p
  simp only [isValid, Bool.and_eq_true, decide_eq_true_eq,
    isFinite_eq_true_iff, Position.mk.injEq]
  constructor
  · rintro ⟨⟨⟨⟨lat, rfl⟩, lon, rfl⟩, low⟩, high⟩
    refine ⟨lat, lon, ⟨rfl, rfl⟩, ?_, ?_⟩
    · exact_mod_cast (real_le _ _).mp low
    · exact_mod_cast (real_le _ _).mp high
  · rintro ⟨lat, lon, ⟨rfl, rfl⟩, low, high⟩
    refine ⟨⟨⟨⟨lat, rfl⟩, lon, rfl⟩, ?_⟩, ?_⟩
    · exact (real_le _ _).mpr (by exact_mod_cast low)
    · exact (real_le _ _).mpr (by exact_mod_cast high)

namespace GeostationaryView

-- ======================================================== any parameters

variable {v : GeostationaryView Exact} {x y : Exact} {p : Position Exact}

/-- Whatever the parameters of a view, its latitudes are between the poles
unless they are NaN. -/
theorem lat_of_positionAt (found : v.positionAt x y = some p) :
    p.lat = nan ∨ ∃ lat : ℝ, p.lat = real lat ∧ -90 ≤ lat ∧ lat ≤ 90 := by
  unfold positionAt at found
  extract_lets ratio a b c discriminant r sx sy sz lat lon at found
  split at found
  · cases found
  · cases found
    by_cases tangent : ratio * sz / Scalar.hypot (v.distance - sx) sy = nan
    · left
      show Scalar.toDegrees (Scalar.atan _) = nan
      rw [tangent]
      rfl
    · exact Or.inr (exists_toDegrees_atan tangent)

/-- So its positions are on the globe if both of their angles are finite. -/
theorem isValid_of_positionAt (found : v.positionAt x y = some p) :
    p.isValid = (Scalar.isFinite p.lat && Scalar.isFinite p.lon) := by
  rw [Bool.eq_iff_iff, Position.isValid_iff, Bool.and_eq_true,
    isFinite_eq_true_iff, isFinite_eq_true_iff]
  constructor
  · rintro ⟨lat, lon, rfl, -, -⟩
    exact ⟨⟨lat, rfl⟩, lon, rfl⟩
  · rintro ⟨⟨lat, hlat⟩, lon, hlon⟩
    obtain undefined | ⟨t, ht, low, high⟩ := lat_of_positionAt found
    · rw [hlat] at undefined
      cases undefined
    · exact ⟨t, lon, by rw [← ht, ← hlon], low, high⟩

/-- On an Earth without a polar radius the rows at a scan angle of zero have
positions, and these are not numbers. -/
theorem positionAt_of_flat {e : ℝ} (he : v.equatorialRadius = real e)
    (nonzero : e ≠ 0) (flat : v.polarRadius = real 0) :
    v.positionAt x (real 0) = some ⟨nan, nan⟩ := by
  unfold positionAt
  extract_lets ratio a b c discriminant r sx sy sz lat lon
  have quotient : v.equatorialRadius / v.polarRadius
      = infinite (decide (e < 0)) := by
    rw [he, flat]
    show (if (0 : ℝ) ≠ 0 then _ else if e = 0 then _ else _) = _
    rw [if_neg (not_not_intro rfl), if_neg nonzero]
  have undefined : ratio * Scalar.square (Scalar.sin (real 0)) = nan := by
    have level : Scalar.square (Scalar.sin (real 0)) = real 0 := by
      rw [sin_real, Scalar.square, real_mul, Real.sin_zero, mul_zero]
    show Scalar.square (v.equatorialRadius / v.polarRadius) * _ = nan
    rw [quotient, level]
    exact if_pos rfl
  have ha : a = nan := by
    simp only [a, undefined, add_nan, mul_nan]
  have hd : discriminant = nan := by
    simp only [discriminant, ha, mul_nan, nan_mul, sub_nan]
  have hr : r = nan := by
    simp only [r, ha, mul_nan, div_nan]
  have hlat : lat = nan := by
    simp only [lat, sz, hr, nan_mul, mul_nan, nan_div]
    rfl
  have hlon : lon = nan := by
    simp only [lon, sx, sy, hr, neg_nan, nan_mul, sub_nan]
    exact sub_nan _
  have passes : ¬ discriminant < 0 := by
    rw [hd]
    exact fun h => h.1
  rw [if_neg passes, hlat, hlon]
  rfl

-- ===================================================== the line of sight

/-- A view in real numbers, as one in exact numbers. -/
def exactly (v : GeostationaryView ℝ) : GeostationaryView Exact where
  distance := real v.distance
  equatorialRadius := real v.equatorialRadius
  polarRadius := real v.polarRadius
  longitude := real v.longitude
  xOrigin := real v.xOrigin
  yOrigin := real v.yOrigin
  xStep := real v.xStep
  yStep := real v.yStep

/-- Whether both radii of the Earth are lengths. -/
structure HasRadii (v : GeostationaryView ℝ) : Prop where
  equatorial : v.equatorialRadius ≠ 0
  polar : v.polarRadius ≠ 0

noncomputable section

variable (v : GeostationaryView ℝ) (x y r : ℝ)

/-- The squared ratio of the two radii. -/
def ratio : ℝ := (v.equatorialRadius / v.polarRadius) ^ 2

/-- How far the point at a distance `r` from the satellite is from the
center of the Earth, towards the satellite. -/
def towards : ℝ := v.distance - r * Real.cos x * Real.cos y

/-- How far it is to the west. -/
def westward : ℝ := -r * Real.sin x

/-- How far it is to the north. -/
def northward : ℝ := r * Real.cos x * Real.sin y

/-- Whether the point is on the ellipsoid of the Earth. -/
def OnEllipsoid : Prop :=
  v.towards x y r ^ 2 + westward x r ^ 2 + v.ratio * northward x y r ^ 2
    = v.equatorialRadius ^ 2

/-- Whether the line of sight of two scan angles meets the Earth. -/
def Sees : Prop := ∃ r, v.OnEllipsoid x y r

/-- The coefficients of the quadratic in the distance `r`. -/
def leading : ℝ :=
  Real.sin x ^ 2
    + Real.cos x ^ 2 * (Real.cos y ^ 2 + v.ratio * Real.sin y ^ 2)

def linear : ℝ := -(2 : ℕ) * v.distance * Real.cos x * Real.cos y

def constant : ℝ := v.distance ^ 2 - v.equatorialRadius ^ 2

def discriminant : ℝ :=
  discrim (v.leading x y) (v.linear x y) v.constant

/-- The smaller root of the quadratic. -/
def nearest : ℝ :=
  (-v.linear x y - √(v.discriminant x y)) / ((2 : ℕ) * v.leading x y)

variable {v x y r}

theorem onEllipsoid_iff : v.OnEllipsoid x y r
    ↔ v.leading x y * (r * r) + v.linear x y * r + v.constant = 0 := by
  have onLine : v.towards x y r ^ 2 + westward x r ^ 2
      + v.ratio * northward x y r ^ 2 - v.equatorialRadius ^ 2
      = v.leading x y * (r * r) + v.linear x y * r + v.constant := by
    unfold towards westward northward leading linear constant
    ring
  rw [← onLine, sub_eq_zero, OnEllipsoid]

theorem HasRadii.ratio_pos (radii : v.HasRadii) : 0 < v.ratio := by
  have := div_ne_zero radii.equatorial radii.polar
  unfold ratio
  positivity

/-- A weighted sum of the squares of sine and cosine is positive. -/
theorem sin_sq_add_cos_sq_pos (t : ℝ) {a b : ℝ} (ha : 0 < a) (hb : 0 < b) :
    0 < a * Real.sin t ^ 2 + b * Real.cos t ^ 2 := by
  have unit := Real.sin_sq_add_cos_sq t
  by_cases h : Real.sin t = 0
  · rw [h] at unit ⊢
    nlinarith
  · positivity

theorem HasRadii.leading_pos (radii : v.HasRadii) : 0 < v.leading x y := by
  have inner := sin_sq_add_cos_sq_pos y radii.ratio_pos one_pos
  have outer := sin_sq_add_cos_sq_pos x one_pos inner
  unfold leading
  linarith

/-- The line of sight meets the Earth where the quadratic has a root. -/
theorem HasRadii.sees_iff (radii : v.HasRadii) :
    v.Sees x y ↔ 0 ≤ v.discriminant x y := by
  simp only [Sees, onEllipsoid_iff]
  constructor
  · rintro ⟨r, root⟩
    rw [discriminant, discrim_eq_sq_of_quadratic_eq_zero root]
    positivity
  · intro nonneg
    exact exists_quadratic_eq_zero radii.leading_pos.ne'
      ⟨_, (Real.mul_self_sqrt nonneg).symm⟩

/-- The distance that is taken is one to the ellipsoid. -/
theorem HasRadii.onEllipsoid_nearest (radii : v.HasRadii)
    (nonneg : 0 ≤ v.discriminant x y) :
    v.OnEllipsoid x y (v.nearest x y) := by
  rw [onEllipsoid_iff, quadratic_eq_zero_iff radii.leading_pos.ne'
    (Real.mul_self_sqrt nonneg).symm]
  exact Or.inr rfl

/-- No point of the ellipsoid is both on the axis and on the equator. -/
theorem HasRadii.northward_or_radius (radii : v.HasRadii)
    (met : v.OnEllipsoid x y r) :
    v.ratio * northward x y r ≠ 0
      ∨ √(v.towards x y r ^ 2 + westward x r ^ 2) ≠ 0 := by
  by_contra! center
  obtain ⟨equator, axis⟩ := center
  have north := (mul_eq_zero.mp equator).resolve_left radii.ratio_pos.ne'
  have sides := (Real.sqrt_eq_zero (by positivity)).mp axis
  rw [OnEllipsoid, sides, north] at met
  refine absurd met (ne_of_lt ?_)
  have := radii.equatorial
  norm_num
  positivity

-- ========================================================= its position

variable (v x y r)

/-- The position of the point at a distance `r`. -/
def positionOf : Position Exact where
  lat := Scalar.toDegrees (Scalar.atan
    (real (v.ratio * northward x y r)
      / real √(v.towards x y r ^ 2 + westward x r ^ 2)))
  lon := Scalar.toDegrees
    (real (v.longitude - Complex.arg ⟨v.towards x y r, westward x r⟩))

/-- Two scan angles have the position of the nearest point, if there is
one. -/
theorem positionAt_exactly (radii : v.HasRadii) :
    v.exactly.positionAt (real x) (real y)
      = if v.discriminant x y < 0 then none
        else some (v.positionOf x y (v.nearest x y)) := by
  unfold positionAt
  extract_lets q a b c d r sx sy sz lat lon
  have hq : q = real v.ratio := by
    show real _ / real _ * (real _ / real _) = _
    rw [real_div _ _ radii.polar, real_mul, ratio, sq]
  have ha : a = real (v.leading x y) := by
    simp only [a, hq, Scalar.square, sin_real, cos_real, real_mul,
      real_add, leading, sq]
  have hb : b = real (v.linear x y) := by
    simp only [b, exactly, cos_real, numeral_eq, real_neg, real_mul, linear,
      Nat.cast_ofNat]
  have hc : c = real v.constant := by
    simp only [c, exactly, Scalar.square, real_mul, real_sub, constant, sq]
  have hd : d = real (v.discriminant x y) := by
    simp only [d, ha, hb, hc, numeral_eq, real_mul, real_sub, discriminant,
      discrim, sq, Nat.cast_ofNat]
  have limb : d < 0 ↔ v.discriminant x y < 0 := by
    rw [hd, numeral_eq, real_lt, Nat.cast_zero]
  refine ite_congr (propext limb) (fun _ => rfl) fun seen => ?_
  have hr : r = real (v.nearest x y) := by
    have twice : 2 * v.leading x y ≠ 0 := by
      have := radii.leading_pos (x := x) (y := y)
      positivity
    simp only [r, ha, hb, hd, sqrt_real (not_lt.mp seen), real_neg,
      real_sub, numeral_eq, real_mul, Nat.cast_ofNat, real_div _ _ twice,
      nearest]
  have hx : v.exactly.distance - sx
      = real (v.towards x y (v.nearest x y)) := by
    simp only [sx, hr, exactly, cos_real, real_mul, real_sub, towards]
  have hy : sy = real (westward x (v.nearest x y)) := by
    simp only [sy, hr, sin_real, real_neg, real_mul, westward]
  have hz : sz = real (northward x y (v.nearest x y)) := by
    simp only [sz, hr, sin_real, cos_real, real_mul, northward]
  simp only [lat, lon, hx, hy, hz, hq, real_mul, hypot_real, atan2_real]
  rfl

variable {v x y r}

/-- The position of a point on the ellipsoid is on the globe. -/
theorem HasRadii.isValid_positionOf (radii : v.HasRadii)
    (met : v.OnEllipsoid x y r) : (v.positionOf x y r).isValid = true := by
  obtain ⟨lat, hlat, low, high⟩ := exists_toDegrees_atan
    (real_div_real_ne_nan (radii.northward_or_radius met))
  rw [Position.isValid_iff]
  exact ⟨lat, _, by rw [positionOf, hlat, toDegrees_real], low, high⟩

/-- Scan angles have a position where their line of sight meets the Earth,
and this position is on the globe. -/
theorem HasRadii.positionAt_isSome_iff (radii : v.HasRadii) :
    (v.exactly.positionAt (real x) (real y)).isSome = true
      ↔ v.Sees x y := by
  rw [positionAt_exactly v x y radii, radii.sees_iff]
  by_cases limb : v.discriminant x y < 0
  · simp [limb]
  · simp [limb, not_lt.mp limb]

theorem HasRadii.isValid_positionAt (radii : v.HasRadii)
    {p : Position Exact}
    (found : v.exactly.positionAt (real x) (real y) = some p) :
    p.isValid = true := by
  rw [positionAt_exactly v x y radii] at found
  split at found
  · cases found
  · rename_i seen
    cases found
    exact radii.isValid_positionOf
      (radii.onEllipsoid_nearest (not_lt.mp seen))

-- =================================================== pixel coordinates

/-- The scan angles of a pixel coordinate. -/
def scanX (v : GeostationaryView ℝ) (pixelX : ℝ) : ℝ :=
  v.xOrigin + (pixelX - 1 / (2 : ℕ)) * v.xStep

def scanY (v : GeostationaryView ℝ) (pixelY : ℝ) : ℝ :=
  v.yOrigin + (pixelY - 1 / (2 : ℕ)) * v.yStep

theorem locate_exactly (v : GeostationaryView ℝ) (pixelX pixelY : ℝ) :
    v.exactly.locate (real pixelX) (real pixelY)
      = v.exactly.positionAt (real (v.scanX pixelX))
          (real (v.scanY pixelY)) := by
  simp only [locate, exactly, half_eq, real_sub, real_mul, real_add, scanX,
    scanY, Nat.cast_ofNat]

end

end GeostationaryView

end EarthBins
