/-
The reduced Gaussian grid N80: 80 rows in each hemisphere.

Each row of the northern hemisphere, from the pole to the equator, with
its column count and its latitude in millionths of a degree.
-/

namespace EarthBins.Gaussian

/-- Columns and latitudes of the northern rows of N80. -/
def n80 : List (Nat × Nat) := [
    (20, 89141519), (20, 88029429), (20, 86910771), (24, 85790629),
    (30, 84669924), (36, 83548947), (45, 82427818), (50, 81306595),
    (60, 80185310), (64, 79063982), (72, 77942624), (75, 76821243),
    (80, 75699844), (90, 74578432), (96, 73457008), (100, 72335576),
    (108, 71214136), (120, 70092690), (120, 68971240), (125, 67849784),
    (128, 66728326), (135, 65606864), (144, 64485399), (144, 63363932),
    (150, 62242462), (160, 61120991), (162, 59999518), (180, 58878044),
    (180, 57756569), (180, 56635092), (192, 55513614), (192, 54392135),
    (192, 53270655), (200, 52149175), (216, 51027694), (216, 49906212),
    (216, 48784729), (216, 47663246), (225, 46541763), (225, 45420279),
    (240, 44298794), (240, 43177309), (240, 42055824), (243, 40934338),
    (250, 39812852), (250, 38691366), (256, 37569880), (270, 36448393),
    (270, 35326906), (270, 34205418), (270, 33083931), (288, 31962443),
    (288, 30840955), (288, 29719467), (288, 28597979), (288, 27476491),
    (288, 26355002), (300, 25233514), (300, 24112025), (300, 22990536),
    (300, 21869047), (300, 20747558), (320, 19626069), (320, 18504580),
    (320, 17383091), (320, 16261601), (320, 15140112), (320, 14018622),
    (320, 12897133), (320, 11775643), (320, 10654153), (320, 9532664),
    (320, 8411174), (320, 7289684), (320, 6168194), (320, 5046704),
    (320, 3925215), (320, 2803725), (320, 1682235), (320, 560745)
  ]

end EarthBins.Gaussian
