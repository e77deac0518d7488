/-
Everything that can go wrong, by cause.

`SettingsError` gathers what is wrong with a configuration: the choice of
the grid, the table behind it, the sampling, the statistics and their
variables. `InputError` gathers what is wrong with the data of a pass.
`Error` adds the outcomes that are neither, among them `outOfBounds`: an
access beyond the end of a raster, a sample list or a feature vector,
which only unchecked input can cause.

The wording lives here and nowhere else. A message names the values that
caused it; numbers are written with the fewest digits that read back and
never with an exponent, names in lists in double quotes.
-/
import EarthBins.Calendar.Timestamp
import EarthBins.Decimal.Layout
import EarthBins.Scene.Window
import EarthBins.Text.Quoted

namespace EarthBins

/-- Numbers in messages: plain notation whatever the exponent. A number
halfway between two shortest decimals is shown as the greater in
magnitude. -/
def messageLayout : Decimal.Layout :=
  { positional := fun _ => true
    pointZero := false
    plus := false
    tie := .up }

/-- A number as messages show it. -/
def messageNumber (x : Float) : String :=
  if x.isNaN then "NaN"
  else if Double.isFinite x then messageLayout.finite x
  else if Double.isNegative x then "-inf"
  else "inf"

/-- What is wrong with one line of a row table. -/
inductive RowError where
  | tooFewFields (found : Nat)
  | badColumnCount (field : String)
  | badLatitude (field : String)
  | noColumns
  | latitudeOutOfRange (latitude : Float)
  | notDescending
  deriving DecidableEq

/-- What is wrong with a configuration. -/
inductive SettingsError where
  | regularRows (rows : Nat)
  | equalAreaRows (rows : Nat)
  | evenRows (rows : Nat)
  | gaussianRows (rows : Nat) (allowed : List Nat)
  | unsupportedGaussian (rows : Nat) (allowed : List Nat)
  | unreadableTable (path reason : String)
  | tableRow (line : Nat) (cause : RowError)
  | tableLength (rows expected found : Nat)
  | samplingFactor (limit factor : Nat)
  | superSampling (limit factor : Nat)
  | noStatistics
  | duplicateVariable (name : String)
  | unknownVariable (name : String) (known : List String)
  | weightNotFinite
  | percentageTooLarge (percentage : Nat)
  | duplicateFeature (name : String)
  | periodStart
  | periodDuration (days : Float)
  | unreadableDocument
  deriving DecidableEq

/-- What is wrong with the data of a pass. -/
inductive InputError where
  | sampleCount (width height needed found : Nat)
  | tooManyPositions
  | noPlane
  | planeSize (width height rasterWidth rasterHeight : Nat)
  | windowTooLarge (window : Window) (rasterWidth rasterHeight : Nat)
  | stopBeforeStart (stop start : Timestamp)
  | noLines
  | planeCount (pass : String) (found expected : Nat) (names : List String)
  | passWithoutPlanes (pass : String)
  deriving DecidableEq

/-- Every way in which an operation of the library fails. -/
inductive Error where
  | settings (cause : SettingsError)
  | input (cause : InputError)
  /-- An observation sequence was advanced past its end. -/
  | exhausted
  /-- A pass without acquisition times met a time filter. -/
  | missingTime (pass : String)
  | cancelled
  | unreadableFile (reason : String)
  /-- An access beyond the end of a raster, list or vector. -/
  | outOfBounds
  deriving DecidableEq

/-- The kinds that errors are reported under. -/
inductive Error.Kind where
  | config
  | exhausted
  | missingTime
  | invalidInput
  | cancelled
  | io
  | bounds
  deriving DecidableEq, Repr

/-- The wording of a faulty table line. -/
def RowError.message : RowError → String
  | .tooFewFields found => s!"expected 3 tab-separated fields, got {found}"
  | .badColumnCount field => s!"invalid column count '{field}'"
  | .badLatitude field => s!"invalid latitude '{field}'"
  | .noColumns => "column count must be > 0"
  | .latitudeOutOfRange latitude =>
    s!"latitude {messageNumber latitude} out of range"
  | .notDescending => "latitudes must decrease from north to south"

/-- A list of row counts as messages show it. -/
def allowedText (allowed : List Nat) : String :=
  Text.bracketed (allowed.map toString)

/-- The wording of a configuration error, without the words for its
kind. -/
def SettingsError.message : SettingsError → String
  | .regularRows rows =>
    s!"regular grid row count must be even and >= 2, got {rows}"
  | .equalAreaRows rows =>
    s!"equal-area grid row count must be even and >= 2, got {rows}"
  | .evenRows rows => s!"grid rows must be even and >= 2, got {rows}"
  | .gaussianRows rows allowed =>
    "reduced Gaussian rows must be one of "
      ++ s!"{allowedText allowed}, got {rows}"
  | .unsupportedGaussian rows allowed =>
    s!"unsupported reduced Gaussian row count {rows}, "
      ++ s!"expected one of {allowedText allowed}"
  | .unreadableTable path reason =>
    s!"cannot read grid table {path}: {reason}"
  | .tableRow line cause => s!"grid table line {line}: {cause.message}"
  | .tableLength rows expected found =>
    s!"grid table for N{rows} must have {expected} rows, found {found}"
  | .samplingFactor limit factor =>
    s!"super-sampling factor must be in 1..={limit}, got {factor}"
  | .superSampling limit factor =>
    s!"super_sampling must be in 1..={limit}, got {factor}"
  | .noStatistics => "at least one aggregator is required"
  | .duplicateVariable name => s!"duplicate variable '{name}'"
  | .unknownVariable name known =>
    s!"unknown variable '{name}', "
      ++ s!"expected one of {Text.quotedList known}"
  | .weightNotFinite => "average weight_coeff must be finite"
  | .percentageTooLarge percentage =>
    s!"percentile must be within 0..=100, got {percentage}"
  | .duplicateFeature name =>
    s!"output feature '{name}' is produced by more than one aggregator"
  | .periodStart => "data period start must be finite"
  | .periodDuration days =>
    s!"data period duration must be > 0, got {messageNumber days}"
  | .unreadableDocument => "malformed configuration document"

/-- The wording of an input error, without the words for its kind. -/
def InputError.message : InputError → String
  | .sampleCount width height needed found =>
    s!"raster of {width}x{height} needs {needed} samples, got {found}"
  | .tooManyPositions => "too many sample positions in slice"
  | .noPlane => "a pass needs at least one plane"
  | .planeSize width height rasterWidth rasterHeight =>
    s!"plane of {width}x{height} does not match raster size "
      ++ s!"{rasterWidth}x{rasterHeight}"
  | .windowTooLarge window rasterWidth rasterHeight =>
    s!"slice {window.text} exceeds raster size "
      ++ s!"{rasterWidth}x{rasterHeight}"
  | .stopBeforeStart stop start =>
    s!"product stop time {stop.text} precedes start time {start.text}"
  | .noLines => "time coding needs at least one line"
  | .planeCount pass found expected names =>
    s!"pass '{pass}' has {found} planes, expected {expected} "
      ++ s!"({Text.quotedList names})"
  | .passWithoutPlanes pass => s!"pass '{pass}' has no planes"

namespace Error

/-- The kind of an error. -/
def kind : Error → Kind
  | settings _ => .config
  | input _ => .invalidInput
  | exhausted => .exhausted
  | missingTime _ => .missingTime
  | cancelled => .cancelled
  | unreadableFile _ => .io
  | outOfBounds => .bounds

/-- The full wording of an error. -/
def message : Error → String
  | settings cause => s!"configuration error: {cause.message}"
  | input cause => s!"invalid input: {cause.message}"
  | exhausted => "observation sequence is exhausted"
  | missingTime pass => s!"pass '{pass}' has no scan-line time information"
  | cancelled => "binning run cancelled"
  | unreadableFile reason => s!"I/O error: {reason}"
  | outOfBounds => "index out of bounds"

end Error

/-- A value that may be missing because an index lies beyond the end. -/
def orOutOfBounds {β : Type} : Option β → Except Error β
  | some b => .ok b
  | none => .error .outOfBounds

end EarthBins
