/-
Sample positions as a set, and what is observed at one.

The spots of a window say in whole numbers which positions are sampled:
all pixels of the window and all places of their subdivision. A set has no
order and nothing twice, so its size is what a count of observations is
held against. The walk of a sampling comes to every spot once.

Where and when a spot is observed, if it is, depends on the mask, the
geolocation and the timing of the scene (`Scene.fixAt?`). This is said of
the parts of the scene alone, so a description of what is observed does not
lean on how a scene looks anything up; `maskAllows_eq`, `mapM_sample_eq` and
`timeAt_eq` are the bridges. The observations of a scene are those of the
walk, and no more than these.
-/
import EarthBins.Proofs.Scene.Raster
import EarthBins.Scalar.Double
import Mathlib.Data.Finset.Prod
import Mathlib.Order.Interval.Finset.Nat

namespace EarthBins

open Outcome Scalar

-- =============================================================== loops

/-- A product of lists is two loops, the outer one over the first. -/
theorem filterMap_product {β γ δ : Type} (outer : List β) (inner : List γ)
    (f : β × γ → Option δ) :
    (outer ×ˢ inner).filterMap f
      = outer.flatMap fun b => inner.filterMap fun c => f (b, c) := by
  show (outer.flatMap fun b => inner.map (Prod.mk b)).filterMap f = _
  simp only [List.filterMap_flatMap, List.filterMap_map]
  rfl

theorem map_product {β γ δ : Type} (outer : List β) (inner : List γ)
    (f : β × γ → δ) :
    (outer ×ˢ inner).map f
      = outer.flatMap fun b => inner.map fun c => f (b, c) := by
  simp only [← List.filterMap_eq_map, filterMap_product]
  rfl

-- =============================================================== spots

/-- A sample position in whole numbers: row and column of a pixel, then row
and column in the subdivision of that pixel. -/
abbrev Spot := Nat × Nat × Nat × Nat

/-- Row of the pixel of a spot. -/
def Spot.row (p : Spot) : Nat := p.1

/-- Column of the pixel of a spot. -/
def Spot.column (p : Spot) : Nat := p.2.1

/-- The spots of a window whose pixels are subdivided `factor` times each
way. -/
def Window.spots (w : Window) (factor : Nat) : Finset Spot :=
  Finset.Ico w.y (w.y + w.height) ×ˢ Finset.Ico w.x (w.x + w.width)
    ×ˢ Finset.range factor ×ˢ Finset.range factor

/-- The same row by row. -/
def Window.spotList (w : Window) (factor : Nat) : List Spot :=
  List.range' w.y w.height ×ˢ List.range' w.x w.width
    ×ˢ List.range factor ×ˢ List.range factor

/-- The center of a place in the subdivision of a pixel, along one axis. -/
def placeCenter {α : Type} [Scalar α] (factor pixel place : Nat) : α :=
  ofNat pixel + (ofNat place + half) * (1 / ofNat factor)

/-- The sample point of a spot. -/
def Spot.point {α : Type} [Scalar α] (factor : Nat) :
    Spot → SamplePoint α
  | (row, column, j, i) =>
    ⟨column, row, placeCenter factor column i, placeCenter factor row j⟩

theorem Window.spots_val (w : Window) (factor : Nat) :
    (w.spots factor).val = w.spotList factor := by
  unfold spots spotList
  rw [Finset.product_val, Finset.product_val, Finset.product_val,
    Nat.Ico_eq_range', Nat.Ico_eq_range', Nat.add_sub_cancel_left,
    Nat.add_sub_cancel_left, ← Multiset.coe_product, ← Multiset.coe_product,
    ← Multiset.coe_product]
  rfl

/-- Spots are counted along the walk. -/
theorem Window.card_filter_spots (w : Window) (factor : Nat)
    (P : Spot → Prop) [DecidablePred P] :
    ((w.spots factor).filter P).card = (w.spotList factor).countP P := by
  rw [Finset.card_def, Finset.filter_val, spots_val, Multiset.filter_coe,
    Multiset.coe_card, List.countP_eq_length_filter]

/-- A sampling walks through the spots of its window. -/
theorem Sampling.points_eq_map {α : Type} [Scalar α] (s : Sampling) :
    (s.points : List (SamplePoint α))
      = (s.window.spotList s.factor).map (Spot.point s.factor) := by
  unfold Window.spotList
  simp only [map_product, List.range'_eq_map_range, List.flatMap_map]
  rfl

-- ================================================== what is observed

/-- A mask sample is valid unless it is zero, of either sign, or NaN. -/
theorem validMaskSample_eq (v : Float) :
    validMaskSample v = (!v.isNaN && v != 0) := by
  show (decide (decide (v.toModel.unpack.lt (Float.ofNat 0).toModel.unpack
        = true) = true)
      || decide (decide ((Float.ofNat 0).toModel.unpack.lt v.toModel.unpack
        = true) = true))
    = (!v.toModel.unpack.isNaN
      && !v.toModel.unpack.beq (Float.ofNat 0).toModel.unpack)
  -- zero is compared by its parts, and both signs of it are equal
  have zero : (Float.ofNat 0).toModel.unpack = .zero .positive := by
    rfl
  rw [zero]
  cases v.toModel.unpack with
  | notANumber => rfl
  | infinity sign => cases sign <;> rfl
  | zero sign => cases sign <;> rfl
  | finite sign m e positive => cases sign <;> rfl

namespace Scene

/-- Whether the mask of a scene, if it has one, lets a pixel pass: its
sample there is neither zero nor NaN. -/
def unmasked (s : Scene Float) (x y : Nat) : Bool :=
  s.mask.all fun plane =>
    (plane.get? x y).any fun v => !v.isNaN && v != 0

/-- Where and when a sample point is observed, if it is: the mask lets its
pixel pass and the geolocation gives it a position. The time is that of its
line, or zero in a scene without timing. -/
def fixAt? (s : Scene Float) (p : SamplePoint Float) :
    Option (Position Float × Float) := do
  guard (s.unmasked p.x p.y)
  let position ← s.geolocation.locate p.pixelX p.pixelY
  return (position, s.timing.elim 0 (·.mjdAt p.pixelY))

end Scene

/-- Where and when an observation was made. -/
def Observation.fix {α : Type} (o : Observation α) : Position α × α :=
  (⟨o.lat, o.lon⟩, o.mjd)

/-- Inside a raster the two ways to read a sample agree. -/
theorem Plane.sample_eq_get? {α : Type} {p : Plane α} {x y : Nat}
    (hx : x < p.width) (hy : y < p.height) :
    ∃ v, p.get? x y = some v ∧ p.sample x y = .ok v := by
  obtain ⟨v, hv⟩ := p.sample_eq_ok hx hy
  refine ⟨v, ?_, hv⟩
  unfold sample at hv
  rw [get?, if_pos ⟨hx, hy⟩]
  cases hd : p.data[y * p.width + x]? with
  | none =>
      rw [hd] at hv
      cases hv
  | some found =>
      rw [hd] at hv
      cases hv
      rfl

namespace Scene

/-- Whether all planes of a scene and its mask contain a window. -/
def Covers {α : Type} (s : Scene α) (w : Window) : Prop :=
  ∀ p ∈ s.planes ++ s.mask.toList, w.fitsWithin p.width p.height = true

theorem covers_of_checkRasters {α : Type} {s : Scene α} {w : Window}
    (checked : checkRasters s.planes s.mask w = .ok ()) : s.Covers w := by
  obtain ⟨width, height, -, same, fits⟩ := checkRasters_eq_ok.mp checked
  intro p hp
  obtain ⟨hw, hh⟩ := same p hp
  rw [hw, hh]
  exact fits

/-- The samples of all planes at a pixel. -/
def samplesAt {α : Type} [Scalar α] (s : Scene α) (x y : Nat) : List α :=
  s.planes.map fun plane => (plane.get? x y).getD nan

/-- What is seen at a sample point, whether or not the mask lets its pixel
pass. -/
def viewAt? {α : Type} [Scalar α] (s : Scene α) (p : SamplePoint α) :
    Option (Observation α) :=
  (s.geolocation.locate p.pixelX p.pixelY).map fun position =>
    ⟨position.lat, position.lon, s.timing.elim 0 (·.mjdAt p.pixelY),
      s.samplesAt p.x p.y⟩

/-- What a sample point yields: what is seen there, if the mask lets its
pixel pass. -/
def yieldAt? (s : Scene Float) (p : SamplePoint Float) :
    Option (Observation Float) :=
  if s.unmasked p.x p.y then s.viewAt? p else none

variable {s : Scene Float} {sampling : Sampling}

/-- A pixel of a covered window passes the mask or does not. -/
theorem maskAllows_eq {w : Window} (covers : s.Covers w) {x y : Nat}
    (inside : w.Contains x y) : s.maskAllows x y = .ok (s.unmasked x y) := by
  unfold maskAllows unmasked
  cases hm : s.mask with
  | none => rfl
  | some plane =>
      obtain ⟨hx, hy⟩ := inside.lt (covers plane (by simp [hm]))
      obtain ⟨v, hget, hsample⟩ := Plane.sample_eq_get? hx hy
      show validMaskSample <$> plane.sample x y = _
      rw [hsample, map_ok, Option.all_some, hget, Option.any_some,
        validMaskSample_eq]

/-- All planes can be read at a pixel of a covered window. -/
theorem mapM_sample_eq {α : Type} [Scalar α] {s : Scene α} {w : Window}
    (covers : s.Covers w) {x y : Nat} (inside : w.Contains x y) :
    (s.planes.mapM fun plane => plane.sample x y)
      = .ok (s.samplesAt x y) := by
  rw [mapM_eq_ok, samplesAt, List.forall₂_map_right_iff, List.forall₂_same]
  intro plane hplane
  obtain ⟨hx, hy⟩ := inside.lt (covers plane (List.mem_append_left _ hplane))
  obtain ⟨v, hget, hsample⟩ := Plane.sample_eq_get? hx hy
  rw [hsample, hget, Option.getD_some]

/-- A line has the time that the timing gives it, or zero without one. -/
theorem timeAt_eq {α : Type} [Scalar α] (s : Scene α) (line : α) :
    s.timeAt line = s.timing.elim 0 (·.mjdAt line) := by
  unfold timeAt
  cases s.timing with
  | none => rfl
  | some timing => rfl

theorem observationAt?_eq {w : Window} (covers : s.Covers w)
    {p : SamplePoint Float} (inside : w.Contains p.x p.y) :
    s.observationAt? p = .ok (s.yieldAt? p) := by
  unfold observationAt? yieldAt? viewAt?
  rw [maskAllows_eq covers inside, ok_bind, timeAt_eq]
  cases s.unmasked p.x p.y with
  | false => rfl
  | true =>
      cases s.geolocation.locate p.pixelX p.pixelY with
      | none => rfl
      | some position =>
          simp only [mapM_sample_eq covers inside, ok_bind]
          rfl

/-- The observations at the points from number `n` on. -/
theorem observationsFrom_eq (covers : s.Covers sampling.window)
    {left n : Nat} (hn : n + left ≤ sampling.size) :
    s.observationsFrom sampling left n
      = .ok (((List.range' n left).map sampling.point).filterMap
          s.yieldAt?) := by
  induction left generalizing n with
  | zero => rfl
  | succ left ih =>
      have here := observationAt?_eq covers
        (sampling.contains_point (α := Float) (n := n) (by omega))
      rw [observationsFrom, here, ok_bind, ih (by omega), List.range'_succ,
        List.map_cons, List.filterMap_cons]
      cases s.yieldAt? (sampling.point n) with
      | none => rfl
      | some o => rfl

/-- The observations of a covered window are what its spots yield, one
after the other. -/
theorem observations_eq (covers : s.Covers sampling.window) :
    s.observations sampling
      = .ok ((sampling.window.spotList sampling.factor).filterMap
          fun p => s.yieldAt? (p.point sampling.factor)) := by
  have walk : (List.range sampling.size).map (sampling.point (α := Float))
      = (sampling.window.spotList sampling.factor).map
          (Spot.point sampling.factor) := by
    rw [← Sampling.points_eq, Sampling.points_eq_map]
  rw [observations, observationsFrom_eq covers (by omega),
    ← List.range_eq_range', walk, List.filterMap_map]
  rfl

theorem map_fix_yieldAt? (s : Scene Float) (p : SamplePoint Float) :
    (s.yieldAt? p).map Observation.fix = s.fixAt? p := by
  unfold fixAt? yieldAt? viewAt?
  cases s.unmasked p.x p.y with
  | false => rfl
  | true =>
      cases s.geolocation.locate p.pixelX p.pixelY with
      | none => rfl
      | some position => rfl

/-- The observations of a checked scene are made at the fixes of the spots
of the window. -/
theorem fix_observations
    (checked : checkRasters s.planes s.mask sampling.window = .ok ())
    {observations : List (Observation Float)}
    (h : s.observations sampling = .ok observations) :
    observations.map Observation.fix
      = (sampling.window.spotList sampling.factor).filterMap
          fun p => s.fixAt? (p.point sampling.factor) := by
  rw [observations_eq (covers_of_checkRasters checked)] at h
  cases h
  rw [List.map_filterMap]
  refine congrArg (List.filterMap · _) (funext fun p => ?_)
  exact map_fix_yieldAt? s (p.point sampling.factor)

end Scene

end EarthBins
