/-
Rasters of one size, and what may be read from them without a check.

A scene that passed its check reads nothing but samples that are there:
all its planes and its mask have the size of the first, and every point of
a sampling lies in the window, which lies in them. So taking its
observations cannot fail (`observations_isOk`).
-/
import EarthBins.Proofs.Outcome
import EarthBins.Scene.Observation
import Mathlib

namespace EarthBins

open Outcome

variable {α : Type}

-- ========================================================= the check

/-- The check of a scene, as what it says about the sizes. -/
theorem Scene.checkRasters_eq_ok {planes : List (Plane α)}
    {mask : Option (Plane α)} {window : Window} :
    checkRasters planes mask window = .ok () ↔
      ∃ width height, rasterSize? planes mask = some (width, height)
        ∧ (∀ p ∈ planes ++ mask.toList,
          p.width = width ∧ p.height = height)
        ∧ window.fitsWithin width height := by
  unfold checkRasters
  cases hs : rasterSize? planes mask with
  | none =>
      constructor
      · intro h
        cases h
      · rintro ⟨width, height, h, -⟩
        cases h
  | some size =>
      obtain ⟨width, height⟩ := size
      dsimp only
      cases ho : (planes ++ mask.toList).find? fun p =>
          p.width != width || p.height != height with
      | some p =>
          constructor
          · intro h
            cases h
          · rintro ⟨w, h, hs', same, -⟩
            cases hs'
            have odd := List.find?_some ho
            obtain ⟨hw, hh⟩ := same p (List.mem_of_find?_eq_some ho)
            rw [hw, hh, bne_self_eq_false, bne_self_eq_false] at odd
            cases odd
      | none =>
          rw [List.find?_eq_none] at ho
          have same : ∀ p ∈ planes ++ mask.toList,
              p.width = width ∧ p.height = height := by
            intro p hp
            have even := ho p hp
            rw [Bool.not_eq_true, Bool.or_eq_false_iff, bne_eq_false_iff_eq,
              bne_eq_false_iff_eq] at even
            exact even
          dsimp only
          by_cases hw : window.fitsWithin width height = true
          · rw [if_pos hw]
            exact ⟨fun _ => ⟨width, height, rfl, same, hw⟩, fun _ => rfl⟩
          · rw [if_neg hw]
            constructor
            · intro h
              cases h
            · rintro ⟨w, h, hs', -, fits⟩
              cases hs'
              exact absurd fits hw

-- ======================================================== the points

/-- Whether a pixel lies in a window. -/
def Window.Contains (w : Window) (x y : Nat) : Prop :=
  (w.x ≤ x ∧ x < w.x + w.width) ∧ w.y ≤ y ∧ y < w.y + w.height

/-- A window inside a raster holds only pixels of it. -/
theorem Window.Contains.lt {w : Window} {x y width height : Nat}
    (h : w.Contains x y) (fits : w.fitsWithin width height = true) :
    x < width ∧ y < height := by
  obtain ⟨⟨-, hx⟩, -, hy⟩ := h
  simp only [fitsWithin, Bool.and_eq_true, decide_eq_true_eq] at fits
  omega

/-- The points of a sampling belong to pixels of its window. -/
theorem Sampling.contains_point [Scalar α] (s : Sampling) {n : Nat}
    (hn : n < s.size) :
    s.window.Contains (s.point n : SamplePoint α).x
      (s.point n : SamplePoint α).y := by
  have positive : 0 < s.perPixel :=
    Nat.mul_pos s.one_le_factor s.one_le_factor
  have pixel : n / s.perPixel < s.window.width * s.window.height :=
    Nat.div_lt_of_lt_mul (Nat.mul_comm _ _ ▸ hn)
  have nonempty : 0 < s.window.width :=
    Nat.pos_of_ne_zero fun h => by
      rw [h, Nat.zero_mul] at pixel
      exact Nat.not_lt_zero _ pixel
  refine ⟨⟨Nat.le_add_right _ _, ?_⟩, Nat.le_add_right _ _, ?_⟩
  · exact Nat.add_lt_add_left (Nat.mod_lt _ nonempty) _
  · exact Nat.add_lt_add_left (Nat.div_lt_of_lt_mul pixel) _

-- ================================================== the observations

namespace Scene

variable [Scalar α]

/-- In a checked scene a point of the window can be looked at. -/
theorem observationAt?_isOk {s : Scene α} {window : Window}
    (checked : checkRasters s.planes s.mask window = .ok ())
    {p : SamplePoint α} (hp : window.Contains p.x p.y) :
    ∃ found, s.observationAt? p = .ok found := by
  obtain ⟨width, height, -, same, fits⟩ := checkRasters_eq_ok.mp checked
  obtain ⟨hx, hy⟩ := hp.lt fits
  have samples : ∀ plane ∈ s.planes ++ s.mask.toList,
      ∃ a, plane.sample p.x p.y = .ok a := by
    intro plane hplane
    obtain ⟨hw, hh⟩ := same plane hplane
    exact plane.sample_eq_ok (hw ▸ hx) (hh ▸ hy)
  have allows : ∃ allowed, s.maskAllows p.x p.y = .ok allowed := by
    unfold maskAllows
    cases hm : s.mask with
    | none => exact ⟨true, rfl⟩
    | some plane =>
        obtain ⟨a, ha⟩ := samples plane (by simp [hm])
        refine ⟨validMaskSample a, ?_⟩
        show validMaskSample <$> plane.sample p.x p.y = _
        rw [ha, map_ok]
  obtain ⟨allowed, ha⟩ := allows
  rw [observationAt?, ha, ok_bind]
  cases allowed with
  | false => exact ⟨none, rfl⟩
  | true =>
      cases s.geolocation.locate p.pixelX p.pixelY with
      | none => exact ⟨none, rfl⟩
      | some position =>
          have readable : ∃ values,
              (s.planes.mapM fun plane => plane.sample p.x p.y)
                = .ok values :=
            mapM_isOk fun plane hplane =>
              samples plane (List.mem_append_left _ hplane)
          obtain ⟨values, hv⟩ := readable
          refine ⟨some ⟨position.lat, position.lon, s.timeAt p.pixelY,
            values⟩, ?_⟩
          simp only [hv, ok_bind]
          rfl

/-- Points that can be looked at one by one can be walked through. -/
theorem observationsFrom_isOk {s : Scene α} {sampling : Sampling}
    {left n : Nat}
    (h : ∀ k, n ≤ k → k < n + left →
      ∃ found, s.observationAt? (sampling.point k) = .ok found) :
    ∃ observations,
      s.observationsFrom sampling left n = .ok observations := by
  induction left generalizing n with
  | zero => exact ⟨[], rfl⟩
  | succ left ih =>
      obtain ⟨found, hf⟩ := h n (Nat.le_refl n) (by omega)
      obtain ⟨behind, hb⟩ := ih (n := n + 1) fun k hk hlt =>
        h k (by omega) (by omega)
      rw [observationsFrom, hf, ok_bind]
      cases found with
      | none => exact ⟨behind, hb⟩
      | some o =>
          refine ⟨o :: behind, ?_⟩
          simp only [hb, ok_bind]
          rfl

/-- The observations of a checked scene can be taken. -/
theorem observations_isOk {s : Scene α} {sampling : Sampling}
    (checked : checkRasters s.planes s.mask sampling.window = .ok ()) :
    ∃ observations, s.observations sampling = .ok observations :=
  observationsFrom_isOk fun _ _ hk =>
    observationAt?_isOk checked (sampling.contains_point (by omega))

end Scene

end EarthBins
