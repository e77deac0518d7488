/-
The first moments of a pass: sum, sum of squares and count.

The three stand in the first slots of a spatial vector. Two statistics
gather them, one of the samples and one of their logarithms.
-/
import EarthBins.Statistic.Phases

namespace EarthBins.Moments

open Scalar

variable {α : Type} [Scalar α]

/-- No sample yet. -/
def clear : FeatureVector α → Except Error (FeatureVector α)
  | _ :: _ :: _ :: rest => .ok (0 :: 0 :: 0 :: rest)
  | _ => .error .outOfBounds

/-- One more value. -/
def add (x : α) : FeatureVector α → Except Error (FeatureVector α)
  | sum :: squares :: count :: rest =>
    .ok ((sum + x) :: (squares + x * x) :: (count + 1) :: rest)
  | _ => .error .outOfBounds

end EarthBins.Moments
