/-
Reports as JSON.

The members stand in a fixed order, and the bins in the order of their
numbers, each under its number. Features without data are `null`, as JSON
has no NaN.
-/
import EarthBins.Json.Writing
import EarthBins.Reducer
import EarthBins.Settings.Json

namespace EarthBins

/-- An output bin as JSON. -/
def OutputBin.toJson (b : OutputBin Float) : Json :=
  .object [("index", .integer b.index), ("num_obs", .integer b.numObs),
    ("num_passes", .integer b.numPasses),
    ("features", FeatureVector.toJson b.features)]

namespace Report

/-- The grid of a report as JSON. -/
def gridJson (r : Report Float) : Json :=
  .object [("kind", r.gridKind.toJson), ("num_rows", .integer r.numRows),
    ("num_bins", .integer r.numBins)]

/-- A report as JSON. -/
def toJson (r : Report Float) : Json :=
  .object [("grid", r.gridJson),
    ("feature_names", .list (r.featureNames.map .text)),
    ("fill_value", .real r.fillValue),
    ("num_passes", .integer r.numPasses),
    ("bins", .object (r.bins.toList.map fun (index, bin) =>
      (toString index, bin.toJson)))]

/-- The JSON text of a report. -/
def jsonText (r : Report Float) : String := r.toJson.write

end Report

end EarthBins
