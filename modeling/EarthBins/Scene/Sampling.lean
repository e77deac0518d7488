/-
Sample positions inside a window.

With a super-sampling factor `S` every pixel of a window is visited at
`S · S` points, the centers of an `S` by `S` subdivision. The window is
walked row by row, a pixel again row by row. `points` says this with four
loops; `point n` computes the `n`-th point of that walk alone, so that a
walk needs no storage. `points_eq` is the law that binds the two.

`SampleCursor` is the walk with a memory: how far it came and where it was
last. A move past the end fails and changes neither.
-/
import EarthBins.Error
import EarthBins.Scalar

namespace EarthBins

open Scalar

/-- A sample position: the pixel whose samples are read, and the point in
it that is located on the globe. -/
structure SamplePoint (α : Type) where
  x : Nat
  y : Nat
  pixelX : α
  pixelY : α

/-- A window to be sampled with `factor` points per pixel edge. The number
of points fits 64 bits. -/
structure Sampling where
  window : Window
  factor : Nat
  one_le_factor : 1 ≤ factor
  factor_le : factor ≤ 16
  fits : window.pixelCount * (factor * factor) < UInt64.size

namespace Sampling

/-- Largest number of points per pixel edge. -/
def maxFactor : Nat := 16

/-- The sampling of a window, for a factor within its limits and a number
of points within 64 bits. -/
def of? (window : Window) (factor : Nat) : Except Error Sampling :=
  if h : 1 ≤ factor ∧ factor ≤ 16 then
    if fits : window.pixelCount * (factor * factor) < UInt64.size then
      .ok ⟨window, factor, h.1, h.2, fits⟩
    else .error (.input .tooManyPositions)
  else .error (.settings (.samplingFactor maxFactor factor))

/-- Points per pixel. -/
def perPixel (s : Sampling) : Nat := s.factor * s.factor

/-- Number of points. -/
def size (s : Sampling) : Nat := s.window.pixelCount * s.perPixel

variable {α : Type} [Scalar α]

/-- Distance between neighbouring points, in pixels. -/
def step (s : Sampling) : α := 1 / ofNat s.factor

/-- Offset of the `i`-th subdivision from the edge of its pixel. -/
def offset (s : Sampling) (i : Nat) : α := (ofNat i + half) * s.step

/-- The point in column `i` and row `j` of the subdivision of a pixel. -/
def pointAt (s : Sampling) (x y i j : Nat) : SamplePoint α :=
  ⟨x, y, ofNat x + s.offset i, ofNat y + s.offset j⟩

/-- The `n`-th point of the walk. -/
def point (s : Sampling) (n : Nat) : SamplePoint α :=
  let pixel := n / s.perPixel
  let within := n % s.perPixel
  s.pointAt (s.window.x + pixel % s.window.width)
    (s.window.y + pixel / s.window.width)
    (within % s.factor) (within / s.factor)

/-- The whole walk: rows, columns, then the rows and columns of the
subdivision. -/
def points (s : Sampling) : List (SamplePoint α) :=
  (List.range s.window.height).flatMap fun row =>
    (List.range s.window.width).flatMap fun column =>
      (List.range s.factor).flatMap fun j =>
        (List.range s.factor).map fun i =>
          s.pointAt (s.window.x + column) (s.window.y + row) i j

/-- Two nested loops visit what one loop over the product visits. -/
theorem flatMap_range {β : Type} (outer inner : Nat) (f : Nat → Nat → β) :
    ((List.range outer).flatMap fun i => (List.range inner).map (f i))
      = (List.range (outer * inner)).map
          fun n => f (n / inner) (n % inner) := by
  induction outer with
  | zero => simp
  | succ outer ih =>
    rw [List.range_succ, List.flatMap_append, ih, Nat.succ_mul,
      List.range_add, List.map_append, List.map_map]
    simp only [List.flatMap_cons, List.flatMap_nil, List.append_nil]
    congr 1
    apply List.map_congr_left
    intro i hi
    have hi := List.mem_range.mp hi
    have positive : 0 < inner := by omega
    simp [Nat.mul_comm outer, Nat.mul_add_div positive,
      Nat.div_eq_of_lt hi, Nat.mod_eq_of_lt hi]

/-- The walk visits the points in the order of their numbers. -/
theorem points_eq (s : Sampling) :
    (s.points : List (SamplePoint α)) = (List.range s.size).map s.point := by
  have total : s.window.height * (s.window.width * s.perPixel) = s.size := by
    simp [size, Window.pixelCount, Nat.mul_left_comm, Nat.mul_assoc]
  simp only [points, flatMap_range]
  rw [show s.factor * s.factor = s.perPixel from rfl, total]
  apply List.map_congr_left
  intro n _
  simp only [point, Nat.mul_comm s.window.width, Nat.mod_mul_right_mod,
    Nat.mod_mul_right_div_self, Nat.div_div_eq_div_mul]

end Sampling

/-- A walk over the points of a sampling. `next` is the number of the point
to visit next, `current` the point visited last. -/
structure SampleCursor (α : Type) where
  sampling : Sampling
  next : Nat
  current : Option (SamplePoint α)

namespace SampleCursor

variable {α : Type}

/-- The walk before its first point. -/
def start (s : Sampling) : SampleCursor α := ⟨s, 0, none⟩

/-- Number of points still ahead. -/
def remaining (c : SampleCursor α) : Nat := c.sampling.size - c.next

/-- Whether a point is still ahead. -/
def canMove (c : SampleCursor α) : Bool := decide (c.next < c.sampling.size)

variable [Scalar α]

/-- The next point and the walk behind it. -/
def next? (c : SampleCursor α) : Option (SamplePoint α × SampleCursor α) :=
  if c.canMove then
    let point := c.sampling.point c.next
    some (point, { c with next := c.next + 1, current := some point })
  else none

/-- The next point and the walk behind it; an error at the end. -/
def moveNext (c : SampleCursor α) :
    Except Error (SamplePoint α × SampleCursor α) :=
  match c.next? with
  | some moved => .ok moved
  | none => .error .exhausted

/-- The point behind `n` skipped ones. Points are skipped as long as there
are any. -/
def nth : Nat → SampleCursor α → Option (SamplePoint α) × SampleCursor α
  | 0, c =>
    match c.next? with
    | some (point, c) => (some point, c)
    | none => (none, c)
  | n + 1, c =>
    match c.next? with
    | some (_, c) => nth n c
    | none => (none, c)

/-- The next `n` points, fewer if the walk ends before. -/
def take : Nat → SampleCursor α → List (SamplePoint α) × SampleCursor α
  | 0, c => ([], c)
  | n + 1, c =>
    match c.next? with
    | some (point, c) =>
      let (points, c) := take n c
      (point :: points, c)
    | none => ([], c)

/-- All points ahead. -/
def rest (c : SampleCursor α) : List (SamplePoint α) × SampleCursor α :=
  c.take c.remaining

end SampleCursor

end EarthBins
