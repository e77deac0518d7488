/-
EarthBins: spatio-temporal binning of satellite swath pixels onto global
grids.
-/
import EarthBins.Binning.Pass
import EarthBins.Binning.Run
import EarthBins.Calendar.JulianDay
import EarthBins.Calendar.Timestamp
import EarthBins.Decimal.Digits
import EarthBins.Decimal.Fixed
import EarthBins.Decimal.Layout
import EarthBins.Decimal.Reading
import EarthBins.Decimal.Rounded
import EarthBins.Decimal.Shortest
import EarthBins.Error
import EarthBins.Feature.Scratch
import EarthBins.Feature.Vector
import EarthBins.Grid
import EarthBins.Grid.EqualArea
import EarthBins.Grid.Gaussian
import EarthBins.Grid.Gaussian.N128
import EarthBins.Grid.Gaussian.N160
import EarthBins.Grid.Gaussian.N200
import EarthBins.Grid.Gaussian.N256
import EarthBins.Grid.Gaussian.N32
import EarthBins.Grid.Gaussian.N320
import EarthBins.Grid.Gaussian.N400
import EarthBins.Grid.Gaussian.N48
import EarthBins.Grid.Gaussian.N512
import EarthBins.Grid.Gaussian.N640
import EarthBins.Grid.Gaussian.N80
import EarthBins.Grid.Kind
import EarthBins.Grid.Longitude
import EarthBins.Grid.Regular
import EarthBins.Grid.RowLayout
import EarthBins.Grid.Table
import EarthBins.Json
import EarthBins.Json.Reading
import EarthBins.Json.Writing
import EarthBins.Panel
import EarthBins.Proofs.Binning.Features
import EarthBins.Proofs.Binning.Grouping
import EarthBins.Proofs.Binning.PassBins
import EarthBins.Proofs.Binning.Reordering
import EarthBins.Proofs.Binning.RunBins
import EarthBins.Proofs.Binning.Shards
import EarthBins.Proofs.Binning.Tables
import EarthBins.Proofs.Binning.Tallies
import EarthBins.Proofs.Binning.Widths
import EarthBins.Proofs.Feature.TypedMap
import EarthBins.Proofs.Grid.Bands
import EarthBins.Proofs.Grid.Centers
import EarthBins.Proofs.Grid.Columns
import EarthBins.Proofs.Grid.Grammar
import EarthBins.Proofs.Grid.Latitudes
import EarthBins.Proofs.Grid.Location
import EarthBins.Proofs.Grid.Nearest
import EarthBins.Proofs.Grid.Numbering
import EarthBins.Proofs.Grid.Search
import EarthBins.Proofs.Grid.Southward
import EarthBins.Proofs.Grid.Table
import EarthBins.Proofs.Grid.Tabulated
import EarthBins.Proofs.Grid.Taper
import EarthBins.Proofs.Json.Stored
import EarthBins.Proofs.Outcome
import EarthBins.Proofs.Panel.Alone
import EarthBins.Proofs.Panel.Isolation
import EarthBins.Proofs.Panel.Names
import EarthBins.Proofs.Panel.Parts
import EarthBins.Proofs.Panel.Phases
import EarthBins.Proofs.Panel.Workspace
import EarthBins.Proofs.Reducer.Acceptance
import EarthBins.Proofs.Reducer.Conservation
import EarthBins.Proofs.Reducer.Construction
import EarthBins.Proofs.Reducer.Lookup
import EarthBins.Proofs.Scalar.Binary64
import EarthBins.Proofs.Scalar.Counting
import EarthBins.Proofs.Scalar.Exact
import EarthBins.Proofs.Scalar.Finite
import EarthBins.Proofs.Scalar.Index
import EarthBins.Proofs.Scalar.Order
import EarthBins.Proofs.Scalar.Ordered
import EarthBins.Proofs.Scalar.Rounding
import EarthBins.Proofs.Scalar.Signs
import EarthBins.Proofs.Scalar.Value
import EarthBins.Proofs.Scene.Cursor
import EarthBins.Proofs.Scene.LineOfSight
import EarthBins.Proofs.Scene.Positions
import EarthBins.Proofs.Scene.Raster
import EarthBins.Proofs.Scene.Spots
import EarthBins.Proofs.Scene.Stream
import EarthBins.Proofs.Scene.Stripes
import EarthBins.Proofs.Scene.Sweep
import EarthBins.Proofs.Settings.RoundTrip
import EarthBins.Proofs.Statistic.Agreement
import EarthBins.Proofs.Statistic.Confined
import EarthBins.Proofs.Statistic.Cycle
import EarthBins.Proofs.Statistic.Domains
import EarthBins.Proofs.Statistic.Fill
import EarthBins.Proofs.Statistic.FirstMaximum
import EarthBins.Proofs.Statistic.Foremost
import EarthBins.Proofs.Statistic.Insertion
import EarthBins.Proofs.Statistic.Interpolation
import EarthBins.Proofs.Statistic.Kinds
import EarthBins.Proofs.Statistic.Lockstep
import EarthBins.Proofs.Statistic.LogMoments
import EarthBins.Proofs.Statistic.PassMeans
import EarthBins.Proofs.Statistic.Polyline
import EarthBins.Proofs.Statistic.Range
import EarthBins.Proofs.Statistic.Recorded
import EarthBins.Proofs.Statistic.Reductions
import EarthBins.Proofs.Statistic.Reordering
import EarthBins.Proofs.Statistic.Selection
import EarthBins.Proofs.Statistic.Weighting
import EarthBins.Proofs.Text.Fields
import EarthBins.Reducer
import EarthBins.Report
import EarthBins.Scalar
import EarthBins.Scalar.Bits
import EarthBins.Scalar.Double
import EarthBins.Scene.Geolocation
import EarthBins.Scene.Observation
import EarthBins.Scene.Period
import EarthBins.Scene.Plane
import EarthBins.Scene.Sampling
import EarthBins.Scene.Timing
import EarthBins.Scene.Window
import EarthBins.Settings
import EarthBins.Settings.Environment
import EarthBins.Settings.Json
import EarthBins.Settings.Yaml
import EarthBins.Statistic.Average
import EarthBins.Statistic.Extrema
import EarthBins.Statistic.LogNormal
import EarthBins.Statistic.Moments
import EarthBins.Statistic.OnMax
import EarthBins.Statistic.Percentile
import EarthBins.Statistic.Phases
import EarthBins.Statistic.Spec
import EarthBins.Synthetic.Raster
import EarthBins.Synthetic.RowTable
import EarthBins.Synthetic.Swath
import EarthBins.Text.Blank
import EarthBins.Text.Hidden
import EarthBins.Text.Quoted
import EarthBins.Text.Repeats
import EarthBins.Yaml.Cursor
import EarthBins.Yaml.Node
import EarthBins.Yaml.Resolve
import EarthBins.Yaml.Scalar
import EarthBins.Yaml.Token
