/-
Overrides from the environment.

Four variables take precedence over a document. A grid family may be named
in any letter case or by its short form; counts are unsigned integers of
32 bits. A value that cannot be read leaves its setting alone, except for
the last: whatever is neither `true`, in any letter case, nor `1` means
false.
-/
import EarthBins.Decimal.Reading
import EarthBins.Settings

namespace EarthBins.Settings

/-- The settings with the overrides of an environment, which is given as a
look-up of its variables. -/
def override (s : Settings) (environment : String → Option String) :
    Settings :=
  let word (name : String) (default : UInt32) :=
    (((environment name).map String.toList).bind Decimal.word?).getD default
  let kind := (environment "BINNING_GRID_KIND").bind GridKind.read?
  { s with
    grid :=
      { kind := kind.getD s.grid.kind
        rows := word "BINNING_GRID_ROWS" s.grid.rows }
    superSampling := word "BINNING_SUPER_SAMPLING" s.superSampling
    parallel :=
      match environment "BINNING_PARALLEL" with
      | some value => Text.lowerCase value == "true" || value == "1"
      | none => s.parallel }

end EarthBins.Settings
