/-
The positions of what is observed.

An observation has the position that the geolocation of its scene gives to
a sample point, so what holds of all positions of a geolocation holds of
all observations. A linear geolocation tests each of its positions, and in
every number system only positions on the globe are observed. A
geostationary one tests nothing: a coordinate has no position where the
discriminant of a quadratic is below zero, and a discriminant that is not a
number is not. Without rounding this makes no difference to a view whose
numbers are real and whose radii are not zero, because every position of
such a view is on the globe. Of other views positions are observed that
are not, and then an angle is infinite or NaN.
-/
import EarthBins.Proofs.Grid.Bands
import EarthBins.Proofs.Scene.LineOfSight
import EarthBins.Proofs.Scene.Stripes

namespace EarthBins

open Exact Outcome

variable {α : Type} [Scalar α]

/-- Where an observation was made. -/
def Observation.position (o : Observation α) : Position α := ⟨o.lat, o.lon⟩

-- ======================================================== geolocations

/-- NaN is dropped to zero, and so in the first column. -/
theorem Longitude.column_nan (columns : Nat) :
    Longitude.column (nan : Exact) columns = 0 := by
  have wrapped : Longitude.wrap (nan : Exact) = nan := by
    unfold Longitude.wrap
    extract_lets wrapped
    have undefined : wrapped = nan := rfl
    rw [undefined, nan_sub, ite_self]
  rw [Longitude.column, wrapped]
  exact Nat.zero_min _

/-- A linear geolocation gives a position where it is on the globe, and no
other. -/
theorem AffineMap.isSome_locate (map : AffineMap α) (x y : α) :
    (map.locate x y).isSome = (map.positionAt x y).isValid := by
  unfold locate
  cases valid : (map.positionAt x y).isValid with
  | false => simp [valid]
  | true => simp [valid]

theorem AffineMap.isValid_of_locate {map : AffineMap α} {x y : α}
    {p : Position α} (located : map.locate x y = some p) :
    p.isValid = true := by
  unfold locate at located
  extract_lets q at located
  split at located
  · rename_i valid
    rwa [← Option.some.inj located]
  · cases located

-- ========================================================= observations

namespace Scene

/-- What is observed at a point has the position of the point. -/
theorem locate_of_observationAt? {s : Scene α} {p : SamplePoint α}
    {o : Observation α} (observed : s.observationAt? p = .ok (some o)) :
    s.geolocation.locate p.pixelX p.pixelY = some o.position := by
  obtain ⟨allowed, -, observed⟩ := bind_eq_ok.mp observed
  cases allowed with
  | false => cases observed
  | true =>
      cases located : s.geolocation.locate p.pixelX p.pixelY with
      | none =>
          simp [located, pure_eq_ok] at observed
      | some position =>
          simp only [located] at observed
          obtain ⟨samples, -, observed⟩ := bind_eq_ok.mp observed
          cases observed
          rfl

end Scene

/-- Sample points have real coordinates. -/
theorem Sampling.point_real (s : Sampling) (n : Nat) :
    ∃ x y : ℝ, (s.point n : SamplePoint Exact).pixelX = real x
      ∧ (s.point n : SamplePoint Exact).pixelY = real y := by
  have nonzero : (s.factor : ℝ) ≠ 0 := by
    have := s.one_le_factor
    exact_mod_cast (by omega : s.factor ≠ 0)
  have place (pixel i : Nat) :
      ∃ x : ℝ, Scalar.ofNat pixel + s.offset i = real x := by
    unfold offset step
    rw [half_eq, ofNat_eq, ofNat_eq, ofNat_eq, numeral_eq,
      real_div _ _ nonzero, real_add, real_mul, real_add]
    exact ⟨_, rfl⟩
  obtain ⟨x, hx⟩ := place (s.window.x + n / s.perPixel % s.window.width)
    (n % s.perPixel % s.factor)
  obtain ⟨y, hy⟩ := place (s.window.y + n / s.perPixel / s.window.width)
    (n % s.perPixel / s.factor)
  exact ⟨x, y, hx, hy⟩

namespace ObservationStream

/-- What a stream yields was observed at a point of the walk. -/
theorem exists_point_of_collects {scene : Scene α} {sampling : Sampling}
    {l : List (Observation α)} (collected : Collects scene sampling l)
    {o : Observation α} (ho : o ∈ l) :
    ∃ n, scene.geolocation.locate (sampling.point n).pixelX
      (sampling.point n).pixelY = some o.position := by
  have observed := collects_iff_observations.mp collected
  rw [Scene.observations_eq_observationsAt, Sampling.points_eq] at observed
  obtain ⟨found, hfound, rfl⟩ := map_eq_ok.mp observed
  obtain ⟨p, hp, observed⟩ :=
    exists_of_mem_mapM hfound (List.reduceOption_mem_iff.mp ho)
  obtain ⟨n, -, rfl⟩ := List.mem_map.mp hp
  exact ⟨n, Scene.locate_of_observationAt? observed⟩

/-- A linear geolocation has a position for those coordinates where it is
on the globe, and what a stream yields from it is on the globe, in every
number system. Without rounding a geostationary view in real numbers of an
Earth whose radii are not zero has a position for those coordinates whose
line of sight meets the Earth, and what is yielded is on the globe again.
From any geostationary view no latitude beyond the poles is yielded: the
position of an observation is on the globe if both of its angles are
finite. -/
theorem collects_onGlobe {sampling : Sampling} :
    (∀ (scene : Scene α) (map : AffineMap α),
      scene.geolocation = .affine map →
      (∀ x y, (scene.geolocation.locate x y).isSome
        = (map.positionAt x y).isValid)
      ∧ ∀ l, Collects scene sampling l → ∀ o ∈ l, o.position.isValid = true)
    ∧ (∀ (scene : Scene Exact) (view : GeostationaryView ℝ),
      view.HasRadii → scene.geolocation = .geostationary view.exactly →
      (∀ x y : ℝ, (scene.geolocation.locate (real x) (real y)).isSome = true
        ↔ view.Sees (view.scanX x) (view.scanY y))
      ∧ ∀ l, Collects scene sampling l → ∀ o ∈ l, o.position.isValid = true)
    ∧ ∀ (scene : Scene Exact) (view : GeostationaryView Exact),
      scene.geolocation = .geostationary view →
      ∀ l, Collects scene sampling l → ∀ o ∈ l,
        o.position.isValid
          = (Scalar.isFinite o.lat && Scalar.isFinite o.lon) := by
  refine ⟨fun scene map linear => ⟨fun x y => ?_, fun l collected o ho => ?_⟩,
    fun scene view radii geostationary =>
      ⟨fun x y => ?_, fun l collected o ho => ?_⟩,
    fun scene view geostationary l collected o ho => ?_⟩
  · rw [linear]
    exact map.isSome_locate x y
  · obtain ⟨n, located⟩ := exists_point_of_collects collected ho
    rw [linear] at located
    exact AffineMap.isValid_of_locate located
  · rw [geostationary, Geolocation.locate, GeostationaryView.locate_exactly]
    exact radii.positionAt_isSome_iff
  · obtain ⟨n, located⟩ := exists_point_of_collects collected ho
    obtain ⟨x, y, hx, hy⟩ := sampling.point_real n
    rw [geostationary, hx, hy, Geolocation.locate,
      GeostationaryView.locate_exactly] at located
    exact radii.isValid_positionAt located
  · obtain ⟨n, located⟩ := exists_point_of_collects collected ho
    rw [geostationary] at located
    exact GeostationaryView.isValid_of_positionAt located

-- ========================================================== single pixels

/-- A raster of one pixel. -/
def singlePixel (geolocation : Geolocation Exact) : Scene Exact where
  planes := [Plane.filled 1 1 (real 1)]
  mask := none
  geolocation := geolocation
  timing := none

/-- The center of the pixel. -/
def pixelCenter : Sampling :=
  ⟨Window.full 1 1, 1, pairSampling.one_le_factor, pairSampling.factor_le,
    by decide⟩

theorem points_pixelCenter :
    (pixelCenter.points : List (SamplePoint Exact))
      = [⟨0, 0, real (1 / 2), real (1 / 2)⟩] := by
  have place : (Scalar.ofNat 0 : Exact) + pixelCenter.offset 0
      = real (1 / 2) := by
    show real ((0 : Nat) : ℝ) + (real ((0 : Nat) : ℝ) + Scalar.half)
      * (1 / real ((1 : Nat) : ℝ)) = _
    rw [half_eq, numeral_eq, real_div _ _ (by norm_num), real_add, real_mul,
      real_add]
    norm_num
  show [pixelCenter.pointAt 0 0 0 0] = _
  rw [Sampling.pointAt, place]

/-- The pixel is observed if it has a position. -/
theorem collects_singlePixel (g : Geolocation Exact) :
    Collects (singlePixel g) pixelCenter
      ((g.locate (real (1 / 2)) (real (1 / 2))).toList.map fun p =>
        ⟨p.lat, p.lon, 0, [real 1]⟩) := by
  rw [collects_iff_observations, Scene.observations_eq_observationsAt,
    points_pixelCenter, Scene.observationsAt, List.mapM_cons, List.mapM_nil]
  cases located : g.locate (real (1 / 2)) (real (1 / 2)) with
  | none =>
      have passedOver : (singlePixel g).observationAt?
          ⟨0, 0, real (1 / 2), real (1 / 2)⟩ = .ok none := by
        simp only [Scene.observationAt?, Scene.maskAllows, singlePixel,
          located, ok_bind]
        rfl
      rw [passedOver]
      rfl
  | some p =>
      have observed : (singlePixel g).observationAt?
          ⟨0, 0, real (1 / 2), real (1 / 2)⟩
          = .ok (some ⟨p.lat, p.lon, 0, [real 1]⟩) := by
        simp only [Scene.observationAt?, Scene.maskAllows, singlePixel,
          located, ok_bind]
        rfl
      rw [observed]
      rfl

/-- A geostationary view straight down on the equator. -/
noncomputable def straightDown : GeostationaryView ℝ where
  distance := 42164160
  equatorialRadius := 6378137
  polarRadius := 6356752
  longitude := 0
  xOrigin := 0
  yOrigin := 0
  xStep := 56 / 1000000
  yStep := -56 / 1000000

/-- A pixel at the northern pole and one on the equator below a satellite
are observed. -/
theorem collects_onGlobe_singlePixel : ∃ polar equatorial,
    Collects (singlePixel (.affine ⟨90, 0, -1, 1⟩)) pixelCenter [polar]
    ∧ polar.position.isValid = true
    ∧ straightDown.HasRadii
    ∧ Collects (singlePixel (.geostationary straightDown.exactly))
      pixelCenter [equatorial]
    ∧ equatorial.position.isValid = true := by
  obtain ⟨linear, view, -⟩ := @collects_onGlobe Exact _ pixelCenter
  obtain ⟨located, polarValid⟩ :=
    linear (singlePixel (.affine ⟨90, 0, -1, 1⟩)) _ rfl
  have radii : straightDown.HasRadii :=
    ⟨by norm_num [straightDown], by norm_num [straightDown]⟩
  obtain ⟨sees, equatorialValid⟩ :=
    view (singlePixel (.geostationary straightDown.exactly)) _ radii rfl
  have polarLocated : ((AffineMap.mk 90 0 (-1) 1).locate
      (real (1 / 2)) (real (1 / 2)) : Option (Position Exact)).isSome
      = true := by
    refine (located _ _).trans (Position.isValid_iff.mpr
      ⟨90 + 1 / 2 * -1, 0 + 1 / 2 * 1, ?_, by norm_num, by norm_num⟩)
    simp [AffineMap.positionAt]
  have equatorialLocated : (straightDown.exactly.locate
      (real (1 / 2)) (real (1 / 2))).isSome = true := by
    refine (sees _ _).mpr ⟨42164160 - 6378137, ?_⟩
    simp [GeostationaryView.OnEllipsoid, GeostationaryView.towards,
      GeostationaryView.westward, GeostationaryView.northward,
      GeostationaryView.scanX, GeostationaryView.scanY, straightDown]
  obtain ⟨polar, hp⟩ := Option.isSome_iff_exists.mp polarLocated
  obtain ⟨equatorial, he⟩ := Option.isSome_iff_exists.mp equatorialLocated
  have polarCollected :=
    collects_singlePixel (.affine ⟨90, 0, -1, 1⟩)
  have equatorialCollected :=
    collects_singlePixel (.geostationary straightDown.exactly)
  rw [Geolocation.locate, hp] at polarCollected
  rw [Geolocation.locate, he] at equatorialCollected
  exact ⟨_, _, polarCollected,
    polarValid _ polarCollected _ (List.mem_singleton.mpr rfl), radii,
    equatorialCollected,
    equatorialValid _ equatorialCollected _ (List.mem_singleton.mpr rfl)⟩

/-- A geostationary view of an Earth without a polar radius. -/
noncomputable def flattened : GeostationaryView Exact :=
  .ofHeight 35786023 6378137 0 (-75) 0 0 (56 / 1000000) (-(56 / 1000000))

/-- The pixel that looks straight down on such an Earth is observed at a
position that is not on the globe, and it would be counted for the first
bin of a regular grid. -/
theorem collects_flattened : ∃ o,
    Collects (singlePixel (.geostationary flattened)) pixelCenter [o]
    ∧ o.position.isValid = false
    ∧ (⟨180, rfl, by decide⟩ : RegularGrid).binOf o.lat o.lon = 0 := by
  have located : flattened.locate (real (1 / 2)) (real (1 / 2))
      = some ⟨nan, nan⟩ := by
    have level : flattened.yOrigin
        + (real (1 / 2) - Scalar.half) * flattened.yStep = real 0 := by
      simp [flattened, GeostationaryView.ofHeight]
    rw [GeostationaryView.locate, level]
    exact GeostationaryView.positionAt_of_flat (e := 6378137) rfl
      (by norm_num) (congrArg real Nat.cast_zero)
  have collected := collects_singlePixel (.geostationary flattened)
  rw [Geolocation.locate, located] at collected
  refine ⟨_, collected, ?_, ?_⟩
  · rw [← Bool.not_eq_true, Position.isValid_iff]
    rintro ⟨lat, lon, undefined, -⟩
    cases undefined
  · rw [RegularGrid.binOf, RegularGrid.rowOf_nan,
      Longitude.column_nan]
    rfl

end ObservationStream

end EarthBins
