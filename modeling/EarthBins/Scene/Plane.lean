/-
Single-band rasters.

A plane holds `width · height` samples row by row; the count is part of
the type. There are two ways to read one. `get?` answers nothing outside
the raster. `sample` trusts its caller about the column and looks only at
the data: a column behind the end of a row reads on in the next row, and
only a position behind the last sample is an error.
-/
import EarthBins.Error
import EarthBins.Scalar

namespace EarthBins

/-- A raster of samples, row by row from the top. -/
structure Plane (α : Type) where
  width : Nat
  height : Nat
  data : Array α
  size_data : data.size = width * height

namespace Plane

variable {α : Type}

/-- The raster with the given samples, if there are as many as it needs. -/
def ofData? (width height : Nat) (data : Array α) :
    Except Error (Plane α) :=
  if h : data.size = width * height then .ok ⟨width, height, data, h⟩
  else .error (.input (.sampleCount width height (width * height) data.size))

/-- A raster with the same sample everywhere. -/
def filled (width height : Nat) (value : α) : Plane α where
  width := width
  height := height
  data := Array.replicate (width * height) value
  size_data := Array.size_replicate

/-- The raster with the samples `f x y`. -/
def ofFn (width height : Nat) (f : Nat → Nat → α) : Plane α where
  width := width
  height := height
  data := Array.ofFn fun (i : Fin (width * height)) =>
    f (i.val % width) (i.val / width)
  size_data := Array.size_ofFn

/-- The sample of a pixel, nothing outside the raster. -/
def get? (p : Plane α) (x y : Nat) : Option α :=
  if x < p.width ∧ y < p.height then p.data[y * p.width + x]? else none

/-- The sample of a pixel that the caller knows to be inside. -/
def sample (p : Plane α) (x y : Nat) : Except Error α :=
  orOutOfBounds p.data[y * p.width + x]?

/-- Inside the raster every pixel has a sample. -/
theorem sample_eq_ok (p : Plane α) {x y : Nat} (hx : x < p.width)
    (hy : y < p.height) : ∃ a, p.sample x y = .ok a := by
  have bound : y * p.width + x < p.data.size := by
    rw [p.size_data, Nat.mul_comm p.width]
    calc y * p.width + x < y * p.width + p.width := by omega
      _ = (y + 1) * p.width := by rw [Nat.add_mul, Nat.one_mul]
      _ ≤ p.height * p.width := Nat.mul_le_mul_right _ hy
  exact ⟨p.data[y * p.width + x], by simp [sample, bound, orOutOfBounds]⟩

end Plane

/-- The 32-bit number nearest to a value. Rasters store their samples in
this precision. -/
def storedSample (x : Float) : Float := x.toFloat32.toFloat

end EarthBins
