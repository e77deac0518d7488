/-
Rectangular slices of a raster, in whole pixels.

A window covers the pixels `x ≤ column < x + width` and
`y ≤ row < y + height`. Cutting it into stripes of whole rows keeps every
row once and their order.
-/

namespace EarthBins

/-- A slice of a raster. -/
structure Window where
  x : Nat
  y : Nat
  width : Nat
  height : Nat
  deriving DecidableEq, Repr

namespace Window

/-- The whole of a raster. -/
def full (width height : Nat) : Window := ⟨0, 0, width, height⟩

/-- Whether the window covers no pixel. -/
def isEmpty (w : Window) : Bool := w.width == 0 || w.height == 0

/-- Number of pixels covered. -/
def pixelCount (w : Window) : Nat := w.width * w.height

/-- Whether the window lies inside a raster of the given size. -/
def fitsWithin (w : Window) (width height : Nat) : Bool :=
  decide (w.x + w.width ≤ width) && decide (w.y + w.height ≤ height)

/-- The `k`-th stripe of `rows` rows; the last one holds what is left. -/
def stripe (w : Window) (rows k : Nat) : Window :=
  { w with y := w.y + k * rows, height := min rows (w.height - k * rows) }

/-- The window cut into stripes of at most `rows` rows from the top, one
row at a time where `rows` is zero. -/
def stripes (w : Window) (rows : Nat) : List Window :=
  let rows := max rows 1
  (List.range ((w.height + rows - 1) / rows)).map (w.stripe rows)

/-- The window as messages show it. -/
def text (w : Window) : String :=
  s!"PixelRect \x7b x: {w.x}, y: {w.y}, width: {w.width}, height: "
    ++ s!"{w.height} \x7d"

end Window

end EarthBins
