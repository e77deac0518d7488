/-
Observations taken from a scene.

A scene is a set of planes, one per variable, with an optional mask, a
geolocation and an optional timing. A sample point becomes an observation
when its mask sample is valid and it has a position; otherwise it is
passed over. The samples are those of the pixel, position and time those
of the point in it, and a scene without timing has time zero throughout.

`observations` is the whole sequence. `ObservationStream` delivers the
same sequence one at a time and may look one observation ahead: asking
whether there is a next one fetches it, and it is delivered from there.
There are two ways to ask for the next one, which differ only in what they
answer at the end: an error, or nothing.
-/
import EarthBins.Scene.Geolocation
import EarthBins.Scene.Plane
import EarthBins.Scene.Sampling
import EarthBins.Scene.Timing

namespace EarthBins

open Scalar

/-- One located, timed vector of samples. -/
structure Observation (α : Type) where
  lat : α
  lon : α
  /-- Acquisition time in modified Julian days. -/
  mjd : α
  samples : List α

/-- What the observations of a pass are taken from. -/
structure Scene (α : Type) where
  planes : List (Plane α)
  mask : Option (Plane α)
  geolocation : Geolocation α
  timing : Option (Timing α)

/-- Whether a mask sample lets its pixel pass: it is neither zero nor
NaN. -/
def validMaskSample {α : Type} [Scalar α] (x : α) : Bool :=
  decide (x < 0) || decide (0 < x)

namespace Scene

variable {α : Type}

/-- Width and height of the raster, taken from its first plane or, without
one, from the mask. -/
def rasterSize? (planes : List (Plane α)) (mask : Option (Plane α)) :
    Option (Nat × Nat) :=
  (planes.head?.or mask).map fun p => (p.width, p.height)

/-- Planes and mask have to be of one size that contains the window. -/
def checkRasters (planes : List (Plane α)) (mask : Option (Plane α))
    (window : Window) : Except Error Unit :=
  match rasterSize? planes mask with
  | none => .error (.input .noPlane)
  | some (width, height) =>
    let odd := (planes ++ mask.toList).find? fun p =>
      p.width != width || p.height != height
    match odd with
    | some p =>
      .error (.input (.planeSize p.width p.height width height))
    | none =>
      if window.fitsWithin width height then .ok ()
      else .error (.input (.windowTooLarge window width height))

variable [Scalar α]

/-- Whether the mask lets a pixel pass. -/
def maskAllows (s : Scene α) (x y : Nat) : Except Error Bool :=
  match s.mask with
  | none => .ok true
  | some plane => validMaskSample <$> plane.sample x y

/-- Acquisition time of a line coordinate. -/
def timeAt (s : Scene α) (line : α) : α :=
  match s.timing with
  | none => 0
  | some timing => timing.mjdAt line

/-- The observation at a sample point, if there is one. -/
def observationAt? (s : Scene α) (p : SamplePoint α) :
    Except Error (Option (Observation α)) := do
  if !(← s.maskAllows p.x p.y) then return none
  match s.geolocation.locate p.pixelX p.pixelY with
  | none => return none
  | some position =>
    let samples ← s.planes.mapM fun plane => plane.sample p.x p.y
    return some ⟨position.lat, position.lon, s.timeAt p.pixelY, samples⟩

/-- The observations at the `left` points from number `n` on. -/
def observationsFrom (s : Scene α) (sampling : Sampling) :
    (left n : Nat) → Except Error (List (Observation α))
  | 0, _ => .ok []
  | left + 1, n => do
    match ← s.observationAt? (sampling.point n) with
    | some o => return o :: (← s.observationsFrom sampling left (n + 1))
    | none => s.observationsFrom sampling left (n + 1)

/-- All observations, in the order of the sample points. -/
def observations (s : Scene α) (sampling : Sampling) :
    Except Error (List (Observation α)) :=
  s.observationsFrom sampling sampling.size 0

/-- The first observation among the `left` points from number `n` on, with
the number of the point behind it. -/
def firstFrom (s : Scene α) (sampling : Sampling) :
    (left n : Nat) → Except Error (Option (Observation α × Nat))
  | 0, _ => .ok none
  | left + 1, n => do
    match ← s.observationAt? (sampling.point n) with
    | some o => return some (o, n + 1)
    | none => s.firstFrom sampling left (n + 1)

end Scene

/-- What a stream knows about its next observation. -/
inductive Lookahead (α : Type) where
  /-- Nothing was fetched ahead. -/
  | ready
  /-- The next observation was fetched ahead. -/
  | peeked (observation : Observation α)
  /-- There is none. -/
  | exhausted

/-- The observations of a scene, one at a time. `next` is the number of the
first sample point that was not yet looked at. -/
structure ObservationStream (α : Type) where
  scene : Scene α
  sampling : Sampling
  next : Nat
  ahead : Lookahead α

namespace ObservationStream

variable {α : Type} [Scalar α]

/-- The stream before its first observation. -/
def start (scene : Scene α) (sampling : Sampling) : ObservationStream α :=
  ⟨scene, sampling, 0, .ready⟩

/-- Look for the next observation. The stream has passed all points if
there is none. -/
def fetch (s : ObservationStream α) :
    Except Error (Option (Observation α) × ObservationStream α) := do
  let left := s.sampling.size - s.next
  match ← s.scene.firstFrom s.sampling left s.next with
  | some (o, next) => return (some o, { s with next := next })
  | none => return (none, { s with next := s.sampling.size })

/-- Whether an observation is left. -/
def hasNext (s : ObservationStream α) :
    Except Error (Bool × ObservationStream α) := do
  match s.ahead with
  | .peeked _ => return (true, s)
  | .exhausted => return (false, s)
  | .ready =>
    match ← s.fetch with
    | (some o, s) => return (true, { s with ahead := .peeked o })
    | (none, s) => return (false, { s with ahead := .exhausted })

/-- The next observation; an error where none is left. The stream behind
it is there in both cases. -/
def nextObservation (s : ObservationStream α) :
    Except Error (Except Error (Observation α) × ObservationStream α) := do
  match s.ahead with
  | .peeked o => return (.ok o, { s with ahead := .ready })
  | .exhausted => return (.error .exhausted, s)
  | .ready =>
    match ← s.fetch with
    | (some o, s) => return (.ok o, s)
    | (none, s) => return (.error .exhausted, { s with ahead := .exhausted })

/-- The next observation, if one is left. -/
def next? (s : ObservationStream α) :
    Except Error (Option (Observation α) × ObservationStream α) := do
  let (taken, s) ← s.nextObservation
  return (taken.toOption, s)

/-- At most `n` further observations. -/
def take : Nat → ObservationStream α →
    Except Error (List (Observation α) × ObservationStream α)
  | 0, s => .ok ([], s)
  | n + 1, s => do
    match ← s.next? with
    | (some o, s) =>
      let (observations, s) ← take n s
      return (o :: observations, s)
    | (none, s) => return ([], s)

/-- All observations that are left: no more than the points ahead and the
one that may have been fetched. -/
def rest (s : ObservationStream α) :
    Except Error (List (Observation α) × ObservationStream α) :=
  s.take (s.sampling.size - s.next + 2)

end ObservationStream

end EarthBins
