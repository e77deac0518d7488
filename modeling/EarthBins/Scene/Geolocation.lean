/-
Where on the globe a pixel coordinate lies.

Pixel `(x, y)` covers the coordinates from `(x, y)` up to
`(x + 1, y + 1)`. Two kinds of imagery are known, and a product can bring
a way of its own.

On a *plate carrée* raster latitude and longitude are linear in the
coordinates; a coordinate whose position is not on the globe has none.

A *geostationary* image is taken from a satellite above a fixed point of
the equator. A coordinate is a pair of scan angles, and its position is
where the line of sight first meets the ellipsoid of the Earth. With `r`
the distance along the line of sight this is the smaller root of a
quadratic `a r² + b r + c`; without a real root the line passes the limb
and the coordinate has no position. The height of the satellite is counted
from the center of the Earth.
-/
import EarthBins.Scalar

namespace EarthBins

open Scalar

/-- A geographic position in degrees. -/
structure Position (α : Type) where
  lat : α
  lon : α

/-- Latitude and longitude as linear functions of the pixel coordinates. -/
structure AffineMap (α : Type) where
  /-- Latitude of the upper edge of the first row. -/
  latOrigin : α
  /-- Longitude of the left edge of the first column. -/
  lonOrigin : α
  /-- Degrees of latitude per pixel, negative where north is up. -/
  latStep : α
  /-- Degrees of longitude per pixel. -/
  lonStep : α

/-- The view of a geostationary imager. Lengths are in metres, scan angles
in radians. -/
structure GeostationaryView (α : Type) where
  /-- Distance of the satellite from the center of the Earth. -/
  distance : α
  equatorialRadius : α
  polarRadius : α
  /-- Longitude below the satellite, in radians. -/
  longitude : α
  /-- Scan angle of the center of the first column. -/
  xOrigin : α
  /-- Scan angle of the center of the first row. -/
  yOrigin : α
  xStep : α
  yStep : α

/-- How the pixels of a raster are located. -/
inductive Geolocation (α : Type) where
  | affine (map : AffineMap α)
  | geostationary (view : GeostationaryView α)
  /-- The position of a coordinate in any other way. -/
  | custom (position? : α → α → Option (Position α))

variable {α : Type} [Scalar α]

/-- Whether a position is on the globe: both angles finite, the latitude
between the poles. -/
def Position.isValid (p : Position α) : Bool :=
  isFinite p.lat && isFinite p.lon
    && decide (-90 ≤ p.lat) && decide (p.lat ≤ 90)

namespace AffineMap

/-- The map with north up that spreads a bounding box over a raster. -/
def ofBounds (minLon minLat maxLon maxLat : α) (width height : Nat) :
    AffineMap α where
  latOrigin := maxLat
  lonOrigin := minLon
  latStep := -(maxLat - minLat) / ofNat height
  lonStep := (maxLon - minLon) / ofNat width

/-- The position of a coordinate, on the globe or not. -/
def positionAt (m : AffineMap α) (pixelX pixelY : α) : Position α :=
  ⟨m.latOrigin + pixelY * m.latStep, m.lonOrigin + pixelX * m.lonStep⟩

/-- The position of a coordinate, if it is on the globe. -/
def locate (m : AffineMap α) (pixelX pixelY : α) : Option (Position α) :=
  let p := m.positionAt pixelX pixelY
  if p.isValid then some p else none

end AffineMap

namespace GeostationaryView

/-- The view from a height above the equator, with the longitude below the
satellite in degrees. -/
def ofHeight (height equatorialRadius polarRadius longitude
    xOrigin yOrigin xStep yStep : α) : GeostationaryView α where
  distance := height + equatorialRadius
  equatorialRadius := equatorialRadius
  polarRadius := polarRadius
  longitude := toRadians longitude
  xOrigin := xOrigin
  yOrigin := yOrigin
  xStep := xStep
  yStep := yStep

/-- The sector over the contiguous United States of the eastern GOES
satellite, at two kilometres: 2500 columns and 1500 rows. -/
def goesEastConus : GeostationaryView α :=
  ofHeight 35786023 6378137 (635675231414 / 100000) (-(752 / 10))
    (-(101346 / 1000000)) (128226 / 1000000)
    (56 / 1000000) (-(56 / 1000000))

/-- Position in the direction of a pair of scan angles. -/
def positionAt (v : GeostationaryView α) (x y : α) :
    Option (Position α) :=
  let ratio := square (v.equatorialRadius / v.polarRadius)
  let a := square (sin x)
    + square (cos x) * (square (cos y) + ratio * square (sin y))
  let b := -2 * v.distance * cos x * cos y
  let c := square v.distance - square v.equatorialRadius
  let discriminant := b * b - 4 * a * c
  if discriminant < 0 then none
  else
    let r := (-b - sqrt discriminant) / (2 * a)
    let sx := r * cos x * cos y
    let sy := -r * sin x
    let sz := r * cos x * sin y
    let lat := atan (ratio * sz / hypot (v.distance - sx) sy)
    let lon := v.longitude - atan2 sy (v.distance - sx)
    some ⟨toDegrees lat, toDegrees lon⟩

/-- The position of a coordinate, if the line of sight meets the Earth. -/
def locate (v : GeostationaryView α) (pixelX pixelY : α) :
    Option (Position α) :=
  v.positionAt (v.xOrigin + (pixelX - half) * v.xStep)
    (v.yOrigin + (pixelY - half) * v.yStep)

end GeostationaryView

/-- The position of a pixel coordinate, if it has one. -/
def Geolocation.locate (g : Geolocation α) (pixelX pixelY : α) :
    Option (Position α) :=
  match g with
  | .affine map => map.locate pixelX pixelY
  | .geostationary view => view.locate pixelX pixelY
  | .custom position? => position? pixelX pixelY

end EarthBins
