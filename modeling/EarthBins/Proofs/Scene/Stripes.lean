/-
A window that is read in stripes is read as a whole.

The walk of a sampling numbers its points from the top of its window, so
every stripe starts to count anew, and the last stripe may be lower than
the others. None of this shows in what is extracted.

# Shape of the argument

What matters about stripes is said once, as the shape of a list of windows
(`Window.Stacked`): they share their columns with the whole, and each begins
in the row where the one before ends. The rows of such a stack are the rows
of the window. Everything a window is read for is a loop over its rows, so
it falls apart in the same way: first the spots, then the sample points,
then what is observed at them, and at last what is folded into bins.
-/
import EarthBins.Binning.Pass
import EarthBins.Proofs.Scene.Sweep

namespace EarthBins

open Outcome

-- ============================================================== stacks

namespace Window

/-- Windows with the columns of a window `w`, the first from row `y` on,
each from the row where the one before ends, down to the end of `w`. Each
has a row, and none has more than `rows`. -/
inductive Stacked (w : Window) (rows : Nat) : Nat → List Window → Prop
  | done : Stacked w rows (w.y + w.height) []
  | cons {s : Window} {y : Nat} {below : List Window} (x : s.x = w.x)
      (top : s.y = y) (width : s.width = w.width) (nonempty : 0 < s.height)
      (bounded : s.height ≤ rows)
      (rest : Stacked w rows (y + s.height) below) :
      Stacked w rows y (s :: below)

variable {w : Window} {rows y : Nat} {stack : List Window}

theorem Stacked.le (h : w.Stacked rows y stack) : y ≤ w.y + w.height := by
  induction h with
  | done => exact Nat.le_refl _
  | cons x top width nonempty bounded rest ih => omega

/-- A window of a stack has no more rows than there are from its top. -/
theorem Stacked.height_le (h : w.Stacked rows y stack) {s : Window}
    (hs : s ∈ stack) : y + s.height ≤ w.y + w.height := by
  induction h with
  | done => cases hs
  | cons x top width nonempty bounded rest ih =>
      rcases List.mem_cons.mp hs with rfl | hs
      · exact rest.le
      · have := ih hs
        omega

theorem Stacked.width_eq (h : w.Stacked rows y stack) {s : Window}
    (hs : s ∈ stack) : s.width = w.width := by
  induction h with
  | done => cases hs
  | cons x top width nonempty bounded rest ih =>
      rcases List.mem_cons.mp hs with rfl | hs
      · exact width
      · exact ih hs

/-- The rows of a stack, one window after the other, are those of the
window from the top of the stack on. -/
theorem Stacked.spotList_eq (h : w.Stacked rows y stack) (factor : Nat) :
    ({ w with y := y, height := w.y + w.height - y } : Window).spotList
        factor
      = stack.flatMap fun s => s.spotList factor := by
  induction h with
  | done => simp [spotList]
  | @cons s y below x top width nonempty bounded rest ih =>
      have whole : w.y + w.height - y
          = s.height + (w.y + w.height - (y + s.height)) := by
        have := rest.le
        omega
      rw [List.flatMap_cons, ← ih, whole]
      unfold spotList
      rw [x, top, width, ← List.range'_append_1]
      exact List.flatMap_append

/-- The stripes of a window from number `k` on are stacked below those
before. -/
theorem stacked_stripes_from (w : Window) {rows : Nat} (positive : 0 < rows)
    {left k : Nat} (count : k + left = (w.height + rows - 1) / rows) :
    w.Stacked rows (w.y + min (k * rows) w.height)
      ((List.range' k left).map (w.stripe rows)) := by
  induction left generalizing k with
  | zero =>
      have enough := Nat.lt_mul_div_succ (w.height + rows - 1) positive
      rw [← count, Nat.add_zero, Nat.mul_succ, Nat.mul_comm] at enough
      rw [min_eq_right (by omega)]
      exact .done
  | succ left ih =>
      -- a stripe that is counted has a row
      have begun : k * rows < w.height := by
        have := (Nat.le_div_iff_mul_le positive).mp
          (show k + 1 ≤ (w.height + rows - 1) / rows by omega)
        rw [Nat.succ_mul] at this
        omega
      have below := ih (k := k + 1) (by omega)
      rw [List.range'_succ, List.map_cons, min_eq_left begun.le]
      refine .cons rfl rfl rfl ?_ ?_ ?_
      · show 0 < min rows (w.height - k * rows)
        omega
      · exact min_le_left rows _
      · have next : w.y + k * rows + min rows (w.height - k * rows)
            = w.y + min ((k + 1) * rows) w.height := by
          rw [Nat.succ_mul]
          omega
        show w.Stacked rows
          (w.y + k * rows + min rows (w.height - k * rows)) _
        rwa [next]

/-- The stripes of a window are stacked from its top. -/
theorem stacked_stripes (w : Window) (rows : Nat) :
    w.Stacked (max rows 1) w.y (w.stripes rows) := by
  have positive : 0 < max rows 1 := by omega
  have stacked := w.stacked_stripes_from positive (Nat.zero_add _)
  rw [Nat.zero_mul, Nat.zero_min, Nat.add_zero, ← List.range_eq_range']
    at stacked
  exact stacked

theorem spotList_eq_stripes (w : Window) (rows factor : Nat) :
    w.spotList factor
      = (w.stripes rows).flatMap fun s => s.spotList factor := by
  have rowsOf := (w.stacked_stripes rows).spotList_eq factor
  rwa [Nat.add_sub_cancel_left] at rowsOf

end Window

-- ============================================================= samplings

namespace Sampling

/-- The sampling of a window knows the window and the factor it is made
of. -/
theorem of?_eq_ok {w : Window} {factor : Nat} {s : Sampling} :
    of? w factor = .ok s ↔ s.window = w ∧ s.factor = factor := by
  unfold of?
  constructor
  · intro h
    split at h
    · split at h
      · cases h
        exact ⟨rfl, rfl⟩
      · cases h
    · cases h
  · rintro ⟨rfl, rfl⟩
    rw [dif_pos ⟨s.one_le_factor, s.factor_le⟩, dif_pos s.fits]

/-- Where the whole can be sampled, its stripes can. -/
theorem mapM_of?_stripes {w : Window} {factor : Nat} {whole : Sampling}
    (accepted : of? w factor = .ok whole) (rows : Nat) :
    ∃ parts, (w.stripes rows).mapM (of? · factor) = .ok parts := by
  obtain ⟨rfl, rfl⟩ := of?_eq_ok.mp accepted
  refine mapM_isOk fun s hs => ?_
  have stacked := whole.window.stacked_stripes rows
  have lower : s.height ≤ whole.window.height := by
    have := stacked.height_le hs
    omega
  have fits : s.pixelCount * (whole.factor * whole.factor)
      < UInt64.size := by
    refine lt_of_le_of_lt (Nat.mul_le_mul_right _ ?_) whole.fits
    unfold Window.pixelCount
    rw [stacked.width_eq hs]
    exact Nat.mul_le_mul_left _ lower
  exact ⟨⟨s, whole.factor, whole.one_le_factor, whole.factor_le, fits⟩,
    of?_eq_ok.mpr ⟨rfl, rfl⟩⟩

variable {α : Type} [Scalar α]

/-- The points of the stripes, one stripe after the other, are those of the
whole. -/
theorem points_stripes {w : Window} {rows factor : Nat} {whole : Sampling}
    (accepted : of? w factor = .ok whole) {parts : List Sampling}
    (striped : (w.stripes rows).mapM (of? · factor) = .ok parts) :
    (whole.points : List (SamplePoint α))
      = parts.flatMap fun s => s.points := by
  obtain ⟨rfl, rfl⟩ := of?_eq_ok.mp accepted
  have each : parts.map (fun s => (s.points : List (SamplePoint α)))
      = (whole.window.stripes rows).map fun w =>
        (w.spotList whole.factor).map (Spot.point whole.factor) := by
    refine map_of_mapM striped fun w _ s hs => ?_
    obtain ⟨rfl, same⟩ := of?_eq_ok.mp hs
    rw [points_eq_map, same]
  rw [points_eq_map, whole.window.spotList_eq_stripes rows,
    List.map_flatMap, List.flatMap_def, ← each, ← List.flatMap_def]

end Sampling

-- ============================================================ the cursor

namespace SampleCursor

variable {α : Type} [Scalar α]

/-- A cursor visits points in the order of their numbers. -/
theorem take_eq (c : SampleCursor α) {n : Nat}
    (ahead : c.next + n ≤ c.sampling.size) :
    (c.take n).1 = (List.range' c.next n).map c.sampling.point := by
  induction n generalizing c with
  | zero => rfl
  | succ n ih =>
      have more : c.canMove = true := decide_eq_true (by omega)
      have behind := ih { c with
        next := c.next + 1
        current := some (c.sampling.point c.next) }
        (show c.next + 1 + n ≤ c.sampling.size by omega)
      rw [List.range'_succ, List.map_cons, ← behind]
      simp only [take, next?, more, if_true]

/-- A cursor that starts visits the points of its sampling. -/
theorem rest_start (s : Sampling) :
    (start s : SampleCursor α).rest.1 = s.points := by
  rw [Sampling.points_eq, List.range_eq_range']
  exact take_eq (start s) (Nat.le_of_eq (Nat.zero_add _))

end SampleCursor

-- ============================================================ the stream

variable {α : Type} [Scalar α]

namespace Scene

/-- What is observed at some points, one after the other. -/
def observationsAt (s : Scene α) (points : List (SamplePoint α)) :
    Except Error (List (Observation α)) :=
  List.reduceOption <$> points.mapM s.observationAt?

theorem observationsAt_append (s : Scene α)
    (points more : List (SamplePoint α)) :
    s.observationsAt (points ++ more)
      = (do return (← s.observationsAt points)
          ++ (← s.observationsAt more)) := by
  unfold observationsAt
  simp [List.mapM_append, List.reduceOption_append]

theorem observationsFrom_eq_observationsAt (s : Scene α)
    (sampling : Sampling) (left n : Nat) :
    s.observationsFrom sampling left n
      = s.observationsAt ((List.range' n left).map sampling.point) := by
  unfold observationsAt
  induction left generalizing n with
  | zero => rfl
  | succ left ih =>
      rw [observationsFrom, ih, List.range'_succ, List.map_cons,
        List.mapM_cons]
      cases s.observationAt? (sampling.point n) with
      | error e => rfl
      | ok found =>
          cases found with
          | none => simp
          | some o => simp

/-- The observations of a scene are those at the points of its walk. -/
theorem observations_eq_observationsAt (s : Scene α)
    (sampling : Sampling) :
    s.observations sampling = s.observationsAt sampling.points := by
  rw [Sampling.points_eq, List.range_eq_range']
  exact s.observationsFrom_eq_observationsAt sampling _ 0

/-- What is observed along several walks is observed along each. -/
theorem observationsAt_flatMap_eq_ok (s : Scene α) {parts : List Sampling}
    {l : List (Observation α)} :
    s.observationsAt (parts.flatMap fun part => part.points) = .ok l
      ↔ ∃ lists, List.Forall₂
          (fun part found => s.observations part = .ok found) parts lists
        ∧ lists.flatten = l := by
  induction parts generalizing l with
  | nil =>
      simp only [List.forall₂_nil_left_iff, exists_eq_left]
      show Except.ok [] = Except.ok l ↔ [] = l
      simp
  | cons part parts ih =>
      rw [List.flatMap_cons, observationsAt_append,
        ← observations_eq_observationsAt]
      simp only [bind_eq_ok, pure_eq_ok, ih, List.forall₂_cons_left_iff]
      constructor
      · rintro ⟨found, hfound, -, ⟨lists, each, rfl⟩, rfl⟩
        exact ⟨found :: lists, ⟨found, lists, hfound, each, rfl⟩, rfl⟩
      · rintro ⟨-, ⟨found, lists, hfound, each, rfl⟩, rfl⟩
        exact ⟨found, hfound, lists.flatten, ⟨lists, each, rfl⟩, rfl⟩

end Scene

/-- Fold what a stream over a sampling delivers. -/
def PassBinner.drain (rule : BinningRule α) (scene : Scene α)
    (b : PassBinner α) (sampling : Sampling) :
    Except Error (PassBinner α) := do
  let (observations, _) ← (ObservationStream.start scene sampling).rest
  b.addAll rule observations

/-- Streams that are drained one after the other are folded like one. -/
theorem PassBinner.foldlM_drain (rule : BinningRule α) {scene : Scene α}
    {parts : List Sampling} {lists : List (List (Observation α))}
    (collected : List.Forall₂ (ObservationStream.Collects scene) parts lists)
    (b : PassBinner α) :
    parts.foldlM (drain rule scene) b = b.addAll rule lists.flatten := by
  induction collected generalizing b with
  | nil => rfl
  | @cons part l parts lists hl _ ih =>
      obtain ⟨behind, hl⟩ := hl
      have here : b.drain rule scene part = b.addAll rule l := by
        rw [drain, hl, ok_bind]
      unfold addAll at here ih ⊢
      rw [List.foldlM_cons, here, List.flatten_cons, List.foldlM_append]
      exact congrArg _ (funext ih)

namespace ObservationStream

/-- A fresh stream yields the observations of its scene. -/
theorem collects_iff_observations {scene : Scene α} {sampling : Sampling}
    {l : List (Observation α)} :
    Collects scene sampling l ↔ scene.observations sampling = .ok l := by
  constructor
  · rintro ⟨behind, collected⟩
    exact owed_of_rest collected
  · intro observed
    exact rest_of_owed (s := start scene sampling) observed

/-- A window that can be sampled can be cut into stripes of whole rows: none
is empty, none is higher than asked for, and together they are the rows of
the window in their order. Each stripe can be sampled, and the positions
visited in the stripes, one after the other, are those visited in the whole.
So are the observations, for every scene, and bins that are fed the stripes
one after the other end as those that are fed the whole. A scene that
passes its check can be read in both ways. -/
theorem collects_stripes {w : Window} {factor : Nat} {whole : Sampling}
    (accepted : Sampling.of? w factor = .ok whole) (rows : Nat) :
    w.Stacked (max rows 1) w.y (w.stripes rows)
    ∧ ∃ parts, (w.stripes rows).mapM (Sampling.of? · factor) = .ok parts
      ∧ (SampleCursor.start whole : SampleCursor α).rest.1
        = parts.flatMap (fun s => (SampleCursor.start s).rest.1)
      ∧ ∀ scene : Scene α,
        (Scene.checkRasters scene.planes scene.mask w = .ok () →
          ∃ l, Collects scene whole l)
        ∧ (∀ l, Collects scene whole l
          ↔ ∃ lists, List.Forall₂ (Collects scene) parts lists
            ∧ lists.flatten = l)
        ∧ ∀ l, Collects scene whole l →
          ∀ (rule : BinningRule α) (b : PassBinner α),
            parts.foldlM (PassBinner.drain rule scene) b
              = b.addAll rule l
            ∧ b.drain rule scene whole = b.addAll rule l := by
  obtain ⟨parts, striped⟩ := Sampling.mapM_of?_stripes accepted rows
  have points := Sampling.points_stripes (α := α) accepted striped
  refine ⟨w.stacked_stripes rows, parts, striped, ?_, fun scene => ?_⟩
  · simp only [SampleCursor.rest_start, points]
  have split (l : List (Observation α)) : Collects scene whole l
      ↔ ∃ lists, List.Forall₂ (Collects scene) parts lists
        ∧ lists.flatten = l := by
    rw [collects_iff_observations, Scene.observations_eq_observationsAt,
      points, Scene.observationsAt_flatMap_eq_ok]
    simp only [← collects_iff_observations]
  refine ⟨fun checked => ?_, split, fun l collected rule b => ⟨?_, ?_⟩⟩
  · rw [← (Sampling.of?_eq_ok.mp accepted).1] at checked
    exact rest_isOk checked
  · obtain ⟨lists, each, rfl⟩ := (split l).mp collected
    exact PassBinner.foldlM_drain rule each b
  · obtain ⟨behind, collected⟩ := collected
    rw [PassBinner.drain, collected, ok_bind]

/-- A raster of two columns and five rows of which one pixel is masked. -/
def maskedColumn : Scene Float where
  planes := [Plane.filled 2 5 4]
  mask := some ⟨2, 5, #[1, 1, 1, 0, 1, 1, 1, 1, 1, 1], rfl⟩
  geolocation := .affine ⟨5, 1, -1, 1⟩
  timing := none

/-- The lower four rows, with four points for each pixel. -/
def lowerRows : Sampling :=
  ⟨⟨0, 1, 2, 4⟩, 2, pairQuarters.one_le_factor, pairQuarters.factor_le,
    by decide⟩

/-- Four rows are read in a stripe of three and one of a single row, with
the observations of the whole. -/
theorem collects_stripes_maskedColumn :
    Sampling.of? ⟨0, 1, 2, 4⟩ 2 = .ok lowerRows
    ∧ Window.stripes ⟨0, 1, 2, 4⟩ 3 = [⟨0, 1, 2, 3⟩, ⟨0, 4, 2, 1⟩]
    ∧ Scene.checkRasters maskedColumn.planes maskedColumn.mask ⟨0, 1, 2, 4⟩
      = .ok ()
    ∧ ∃ upper lower first second,
      [⟨0, 1, 2, 3⟩, ⟨0, 4, 2, 1⟩].mapM (Sampling.of? · 2)
        = .ok [upper, lower]
      ∧ Collects maskedColumn upper first
      ∧ Collects maskedColumn lower second
      ∧ Collects maskedColumn lowerRows (first ++ second)
      ∧ ∀ (rule : BinningRule Float) (b : PassBinner Float),
        [upper, lower].foldlM (PassBinner.drain rule maskedColumn) b
          = b.drain rule maskedColumn lowerRows := by
  have accepted : Sampling.of? ⟨0, 1, 2, 4⟩ 2 = .ok lowerRows :=
    Sampling.of?_eq_ok.mpr ⟨rfl, rfl⟩
  have cut : Window.stripes ⟨0, 1, 2, 4⟩ 3
      = [⟨0, 1, 2, 3⟩, ⟨0, 4, 2, 1⟩] := by decide
  have checked : Scene.checkRasters maskedColumn.planes maskedColumn.mask
      ⟨0, 1, 2, 4⟩ = .ok () := rfl
  obtain ⟨-, parts, striped, -, streams⟩ :=
    collects_stripes (α := Float) accepted 3
  obtain ⟨readable, split, fed⟩ := streams maskedColumn
  rw [cut] at striped
  obtain ⟨l, collected⟩ := readable checked
  obtain ⟨lists, each, rfl⟩ := (split l).mp collected
  have two := (mapM_eq_ok.mp striped).length_eq
  obtain ⟨upper, lower, rfl⟩ := List.length_eq_two.mp two.symm
  obtain ⟨first, second, rfl⟩ := List.length_eq_two.mp each.length_eq.symm
  obtain ⟨hupper, each⟩ := List.forall₂_cons.mp each
  obtain ⟨hlower, -⟩ := List.forall₂_cons.mp each
  rw [List.flatten_cons, List.flatten_cons, List.flatten_nil,
    List.append_nil] at collected
  refine ⟨accepted, cut, checked, upper, lower, first, second, striped,
    hupper, hlower, collected, fun rule b => ?_⟩
  obtain ⟨inTurn, atOnce⟩ := fed _ collected rule b
  rw [inTurn, atOnce]

end ObservationStream

end EarthBins
