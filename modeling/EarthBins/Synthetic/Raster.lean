/-
Made-up rasters with a known pattern.

The fields imitate ocean products and are computed in 32 bits, the
precision in which rasters store their samples. A mask has one for valid
pixels and zero for the others.
-/
import EarthBins.Scene.Plane

namespace EarthBins.Synthetic

/-- A raster of 32-bit samples `f x y`. -/
def raster (width height : Nat) (f : Nat → Nat → Float32) : Plane Float :=
  Plane.ofFn width height fun x y => (f x y).toFloat

/-- Samples from which column and row can be read off. -/
def numbered (width height : Nat) : Plane Float :=
  raster width height fun x y => Float32.ofNat (x * 1000 + y)

/-- Samples that are linear in column and row, rounded to 32 bits. -/
def linear (width height : Nat) (a b c : Float) : Plane Float :=
  Plane.ofFn width height fun x y =>
    storedSample (a * Float.ofNat x + b * Float.ofNat y + c)

/-- The same sample everywhere, rounded to 32 bits. -/
def constant (width height : Nat) (value : Float) : Plane Float :=
  Plane.filled width height (storedSample value)

/-- The larger of two 32-bit numbers. -/
def larger (x y : Float32) : Float32 := if x < y then y else x

/-- Chlorophyll in milligrams per cubic metre: positive, over two orders of
magnitude, low in the middle of the swath and high at its edges. -/
def chlorophyll (width height : Nat) : Plane Float :=
  let middle := Float32.ofNat width / 2
  raster width height fun x y =>
    let across := Float32.ofNat x + 0.5 - middle
    let edge := (across / larger middle 1).abs
    let along := Float32.ofNat y / Float32.ofNat (max height 1)
    Float32.pow 10 (-1.3 + 1.5 * edge + 0.5 * along)

/-- Surface temperature in degrees Celsius: 28 in the top row, 2 in the
bottom row, with a ripple across. -/
def temperature (width height : Nat) : Plane Float :=
  raster width height fun x y =>
    let down := Float32.ofNat y / Float32.ofNat (max height 2 - 1)
    let ripple := 0.25 * (Float32.ofNat x * 0.7).sin
    28 - 26 * down + ripple

/-- A mask that leaves out every `period`-th pixel in raster order, none
where the period is zero. -/
def periodicMask (width height period : Nat) : Plane Float :=
  Plane.ofFn width height fun x y =>
    if 0 < period ∧ (y * width + x) % period = 0 then 0 else 1

/-- A checkerboard mask with square cells of `cell` pixels. -/
def checkerMask (width height cell : Nat) : Plane Float :=
  let cell := max cell 1
  Plane.ofFn width height fun x y =>
    if (y / cell + x / cell) % 2 = 0 then 1 else 0

end EarthBins.Synthetic
