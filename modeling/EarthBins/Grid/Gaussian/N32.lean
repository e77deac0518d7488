/-
The reduced Gaussian grid N32: 32 rows in each hemisphere.

Each row of the northern hemisphere, from the pole to the equator, with
its column count and its latitude in millionths of a degree.
-/

namespace EarthBins.Gaussian

/-- Columns and latitudes of the northern rows of N32. -/
def n32 : List (Nat × Nat) := [
    (20, 87863799), (20, 85096527), (20, 82312913), (24, 79525607),
    (30, 76736900), (36, 73947515), (45, 71157752), (48, 68367756),
    (54, 65577607), (60, 62787352), (72, 59997020), (72, 57206632),
    (75, 54416200), (80, 51625734), (90, 48835241), (90, 46044727),
    (96, 43254195), (100, 40463648), (108, 37673090), (108, 34882521),
    (120, 32091944), (120, 29301360), (120, 26510769), (120, 23720174),
    (120, 20929574), (125, 18138971), (125, 15348365), (125, 12557756),
    (128, 9767146), (128, 6976534), (128, 4185921), (128, 1395307)
  ]

end EarthBins.Gaussian
