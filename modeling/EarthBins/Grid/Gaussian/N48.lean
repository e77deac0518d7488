/-
The reduced Gaussian grid N48: 48 rows in each hemisphere.

Each row of the northern hemisphere, from the pole to the equator, with
its column count and its latitude in millionths of a degree.
-/

namespace EarthBins.Gaussian

/-- Columns and latitudes of the northern rows of N48. -/
def n48 : List (Nat × Nat) := [
    (20, 88572169), (20, 86722531), (20, 84861970), (24, 82998942),
    (30, 81134977), (36, 79270559), (45, 77405888), (48, 75541061),
    (54, 73676132), (60, 71811132), (72, 69946081), (72, 68080991),
    (80, 66215872), (90, 64350730), (90, 62485571), (96, 60620396),
    (100, 58755209), (108, 56890013), (120, 55024808), (120, 53159595),
    (125, 51294377), (125, 49429154), (135, 47563926), (135, 45698694),
    (144, 43833459), (144, 41968220), (150, 40102979), (160, 38237736),
    (160, 36372491), (160, 34507243), (162, 32641994), (180, 30776744),
    (180, 28911492), (180, 27046239), (180, 25180986), (180, 23315731),
    (180, 21450475), (192, 19585219), (192, 17719962), (192, 15854704),
    (192, 13989446), (192, 12124187), (192, 10258928), (192, 8393669),
    (192, 6528409), (192, 4663150), (192, 2797890), (192, 932630)
  ]

end EarthBins.Gaussian
