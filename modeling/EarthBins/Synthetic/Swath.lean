/-
Footprints of made-up swaths on a plate carrée raster with north up.
-/
import EarthBins.Scalar.Double

namespace EarthBins

open Scalar

/-- A raster size and the bounding box it covers, in degrees. -/
structure Swath (α : Type) where
  width : Nat
  height : Nat
  minLon : α
  minLat : α
  maxLon : α
  maxLat : α

namespace Swath

variable {α : Type} [Scalar α]

/-- In the equatorial Pacific, a few degrees across. -/
def equatorial : Swath α := ⟨64, 48, -150, -3, -142, 3⟩

/-- In the middle latitudes of the North Atlantic. -/
def northAtlantic : Swath α := ⟨80, 60, -40, 40, -20, 55⟩

/-- Across the antimeridian. -/
def dateline : Swath α := ⟨40, 20, 170, -10, 190, 0⟩

/-- Up to the north pole. -/
def arctic : Swath α := ⟨36, 10, -180, 85, 180, 90⟩

/-- Four by four pixels. -/
def small : Swath α := ⟨4, 4, 0, 0, 2, 2⟩

/-- The swath of a name. -/
def named? : String → Option (Swath α)
  | "EQUATORIAL" => some equatorial
  | "NORTH_ATLANTIC" => some northAtlantic
  | "DATELINE" => some dateline
  | "ARCTIC" => some arctic
  | "SMALL" => some small
  | _ => none

/-- Number of pixels. -/
def size (s : Swath α) : Nat := s.width * s.height

/-- Width of a pixel in degrees. -/
def lonStep (s : Swath α) : α := (s.maxLon - s.minLon) / ofNat s.width

/-- Height of a pixel in degrees. -/
def latStep (s : Swath α) : α := (s.maxLat - s.minLat) / ofNat s.height

/-- Latitude and longitude of the center of a pixel. -/
def centerOf (s : Swath α) (x y : Nat) : α × α :=
  (s.maxLat - (ofNat y + half) * s.latStep,
    s.minLon + (ofNat x + half) * s.lonStep)

end Swath

end EarthBins
