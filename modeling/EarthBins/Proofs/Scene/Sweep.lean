/-
What a reader collects from a scene, said with four loops.

The walk of a sampling numbers its points and finds a point by dividing its
number; a stream steps over the points that yield nothing. Neither shows in
what is collected (`collects_iff`): rows, columns, and the rows and columns
of the subdivision of a pixel, the innermost running fastest, and at each
place what is seen there if the mask lets the pixel pass.

The mask only holds back. With every observation kept beside the spot it
was made at, the observations of a masked scene are those of the bare scene
at the spots whose pixel passes, in the same order.
-/
import EarthBins.Proofs.Scene.Spots
import EarthBins.Proofs.Scene.Stream

namespace EarthBins

open Outcome

namespace Scene

-- ========================================================== four loops

/-- The observations of a window, row by row and column by column, and
inside a pixel again row by row. A place yields an observation if the mask
lets its pixel pass and its center has a position. The samples are those of
the pixel, the time is that of the line through the center, or zero in a
scene without timing. -/
def sweep (s : Scene Float) (w : Window) (factor : Nat) :
    List (Observation Float) :=
  (List.range' w.y w.height).flatMap fun y =>
    (List.range' w.x w.width).flatMap fun x =>
      (List.range factor).flatMap fun j =>
        (List.range factor).filterMap fun i => do
          guard (s.unmasked x y)
          let position ← s.geolocation.locate
            (placeCenter factor x i) (placeCenter factor y j)
          return ⟨position.lat, position.lon,
            s.timing.elim 0 (·.mjdAt (placeCenter factor y j)),
            s.samplesAt x y⟩

/-- What a spot yields. -/
theorem yieldAt?_point (s : Scene Float) (factor y x j i : Nat) :
    s.yieldAt? (Spot.point factor (y, x, j, i)) = (do
      guard (s.unmasked x y)
      let position ← s.geolocation.locate
        (placeCenter factor x i) (placeCenter factor y j)
      return ⟨position.lat, position.lon,
        s.timing.elim 0 (·.mjdAt (placeCenter factor y j)),
        s.samplesAt x y⟩) := by
  unfold yieldAt? viewAt? Spot.point
  cases s.unmasked x y with
  | false => rfl
  | true =>
      cases s.geolocation.locate (placeCenter factor x i)
        (placeCenter factor y j) with
      | none => rfl
      | some position => rfl

/-- Four loops visit the spots of a window in their order. -/
theorem sweep_eq (s : Scene Float) (w : Window) (factor : Nat) :
    s.sweep w factor
      = (w.spotList factor).filterMap
          fun p => s.yieldAt? (p.point factor) := by
  unfold Window.spotList
  simp only [filterMap_product, yieldAt?_point]
  rfl

-- ============================================================ the mask

/-- The scene without its mask. -/
def bare (s : Scene Float) : Scene Float := { s with mask := none }

/-- What is seen in a window, each observation with the spot it was made
at. The mask has no part in it. -/
def located (s : Scene Float) (w : Window) (factor : Nat) :
    List (Spot × Observation Float) :=
  (w.spotList factor).filterMap fun p =>
    (s.viewAt? (p.point factor)).map fun o => (p, o)

theorem covers_bare {s : Scene Float} {w : Window} (covers : s.Covers w) :
    s.bare.Covers w := by
  intro p hp
  refine covers p (List.mem_append_left _ ?_)
  rwa [bare, Option.toList_none, List.append_nil] at hp

/-- Without its mask a scene yields all that is seen. -/
theorem sweep_bare (s : Scene Float) (w : Window) (factor : Nat) :
    s.bare.sweep w factor = (s.located w factor).map Prod.snd := by
  rw [sweep_eq, located, List.map_filterMap]
  refine congrArg (List.filterMap · _) (funext fun p => ?_)
  show s.viewAt? (p.point factor) = _
  cases s.viewAt? (p.point factor) with
  | none => rfl
  | some o => rfl

/-- With its mask a scene yields what is seen at the spots that pass. -/
theorem sweep_eq_filter (s : Scene Float) (w : Window) (factor : Nat) :
    s.sweep w factor
      = ((s.located w factor).filter
          fun seen => s.unmasked seen.1.column seen.1.row).map Prod.snd := by
  rw [sweep_eq, located, List.filter_filterMap, List.map_filterMap]
  refine congrArg (List.filterMap · _) (funext fun p => ?_)
  unfold yieldAt?
  cases s.viewAt? (p.point factor) with
  | none => exact ite_self none
  | some o =>
      show (if s.unmasked p.column p.row then some o else none)
        = (if s.unmasked p.column p.row then some (p, o)
          else none).map Prod.snd
      cases s.unmasked p.column p.row with
      | false => rfl
      | true => rfl

/-- What is located in a window belongs to one of its pixels. -/
theorem contains_of_mem_located {s : Scene Float} {w : Window}
    {factor : Nat} {seen : Spot × Observation Float}
    (h : seen ∈ s.located w factor) :
    w.Contains seen.1.column seen.1.row := by
  obtain ⟨⟨y, x, j, i⟩, hp, hseen⟩ := List.mem_filterMap.mp h
  obtain ⟨o, -, rfl⟩ := Option.map_eq_some_iff.mp hseen
  obtain ⟨hy, hx⟩ : y ∈ List.range' w.y w.height
      ∧ x ∈ List.range' w.x w.width := by
    have hy := List.mem_product.mp hp
    exact ⟨hy.1, (List.mem_product.mp hy.2).1⟩
  rw [List.mem_range'_1] at hy hx
  exact ⟨hx, hy⟩

/-- A mask that lets every pixel of the window pass holds nothing back. -/
theorem sweep_eq_sweep_bare {s : Scene Float} {w : Window} (factor : Nat)
    (clear : ∀ x y, w.Contains x y → s.unmasked x y = true) :
    s.sweep w factor = s.bare.sweep w factor := by
  rw [sweep_eq_filter, sweep_bare, List.filter_eq_self.mpr]
  intro seen hseen
  exact clear _ _ (contains_of_mem_located hseen)

end Scene

namespace ObservationStream

-- ======================================================== collecting

/-- From a scene that covers the window the sweep is collected, and nothing
else. -/
theorem collects_iff {s : Scene Float} {sampling : Sampling}
    (covers : s.Covers sampling.window) (l : List (Observation Float)) :
    Collects s sampling l
      ↔ l = s.sweep sampling.window sampling.factor := by
  have owes : (start s sampling).owed
      = .ok (s.sweep sampling.window sampling.factor) := by
    rw [Scene.sweep_eq, ← Scene.observations_eq covers]
    rfl
  constructor
  · rintro ⟨behind, collected⟩
    have howed := owed_of_rest collected
    rw [owes] at howed
    cases howed
    rfl
  · rintro rfl
    exact rest_of_owed owes

/-- What is collected from a scene is its sweep: the rows and columns of
the window, and the rows and columns of the subdivision inside a pixel, in
this nesting; a place is kept if the mask sample of its pixel, where there
is a mask, is neither zero nor NaN and its center has a position. What is
kept has this position, the samples of all planes at the pixel, and the time
of the line through the center, or zero without timing. The mask takes away
from the bare scene the observations at the pixels it holds back, and no
other; one that holds back no pixel of the window takes nothing away. -/
theorem collects_sweep (s : Scene Float) (sampling : Sampling)
    (covers : s.Covers sampling.window) :
    (∀ l, Collects s sampling l
      ↔ l = s.sweep sampling.window sampling.factor)
    ∧ (∀ l, Collects s.bare sampling l
      ↔ l = (s.located sampling.window sampling.factor).map Prod.snd)
    ∧ (∀ l, Collects s sampling l
      ↔ l = ((s.located sampling.window sampling.factor).filter
          fun seen => s.unmasked seen.1.column seen.1.row).map Prod.snd)
    ∧ ((∀ x y, sampling.window.Contains x y → s.unmasked x y = true) →
      ∀ l, Collects s sampling l ↔ Collects s.bare sampling l) := by
  refine ⟨collects_iff covers, ?_, ?_, ?_⟩
  · intro l
    rw [collects_iff (Scene.covers_bare covers), ← Scene.sweep_bare]
  · intro l
    rw [collects_iff covers, Scene.sweep_eq_filter]
  · intro clear l
    rw [collects_iff covers, collects_iff (Scene.covers_bare covers),
      Scene.sweep_eq_sweep_bare _ clear]

/-- Four points for each of two pixels. -/
def pairQuarters : Sampling :=
  ⟨Window.full 2 1, 2, by decide, by decide, by decide⟩

/-- Of two pixels the mask lets the first pass: four observations are
collected of the eight of the bare scene. -/
theorem collects_sweep_maskedPair : maskedPair.Covers pairQuarters.window
    ∧ ∃ l bare, Collects maskedPair pairQuarters l
      ∧ Collects maskedPair.bare pairQuarters bare
      ∧ l.length = 4 ∧ bare.length = 8 := by
  have covers : maskedPair.Covers pairQuarters.window := by
    intro p hp
    obtain rfl | rfl : p = Plane.filled 2 1 4
        ∨ p = ⟨2, 1, #[1, 0], rfl⟩ := by
      simpa [maskedPair] using hp
    · rfl
    · rfl
  obtain ⟨masked, bare, -, -⟩ :=
    collects_sweep maskedPair pairQuarters covers
  refine ⟨covers, _, _, (masked _).mpr rfl, (bare _).mpr rfl, ?_, ?_⟩
  · decide +kernel
  · decide +kernel

end ObservationStream

end EarthBins
