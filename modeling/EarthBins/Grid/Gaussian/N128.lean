/-
The reduced Gaussian grid N128: 128 rows in each hemisphere.

Each row of the northern hemisphere, from the pole to the equator, with
its column count and its latitude in millionths of a degree.
-/

namespace EarthBins.Gaussian

/-- Columns and latitudes of the northern rows of N128. -/
def n128 : List (Nat × Nat) := [
    (20, 89462822), (20, 88766951), (20, 88066972), (24, 87366063),
    (30, 86664803), (40, 85963372), (45, 85261846), (50, 84560261),
    (60, 83858638), (64, 83156988), (72, 82455319), (75, 81753635),
    (80, 81051940), (90, 80350237), (96, 79648527), (100, 78946811),
    (108, 78245091), (120, 77543367), (120, 76841640), (125, 76139910),
    (135, 75438177), (135, 74736443), (144, 74034707), (150, 73332970),
    (160, 72631231), (160, 71929491), (180, 71227750), (180, 70526008),
    (180, 69824265), (192, 69122522), (192, 68420777), (200, 67719033),
    (200, 67017287), (216, 66315541), (216, 65613795), (225, 64912048),
    (225, 64210301), (240, 63508554), (240, 62806806), (240, 62105058),
    (250, 61403309), (256, 60701560), (270, 59999811), (270, 59298062),
    (270, 58596313), (288, 57894563), (288, 57192814), (288, 56491064),
    (288, 55789314), (300, 55087563), (300, 54385813), (320, 53684062),
    (320, 52982312), (320, 52280561), (320, 51578810), (324, 50877059),
    (360, 50175308), (360, 49473557), (360, 48771806), (360, 48070054),
    (360, 47368303), (360, 46666551), (360, 45964800), (375, 45263048),
    (375, 44561296), (375, 43859545), (375, 43157793), (384, 42456041),
    (384, 41754289), (400, 41052537), (400, 40350785), (400, 39649033),
    (400, 38947280), (405, 38245528), (432, 37543776), (432, 36842024),
    (432, 36140271), (432, 35438519), (432, 34736767), (432, 34035014),
    (432, 33333262), (432, 32631509), (450, 31929757), (450, 31228004),
    (450, 30526252), (450, 29824499), (450, 29122746), (480, 28420994),
    (480, 27719241), (480, 27017488), (480, 26315736), (480, 25613983),
    (480, 24912230), (480, 24210477), (480, 23508725), (480, 22806972),
    (480, 22105219), (480, 21403466), (480, 20701713), (486, 19999960),
    (486, 19298207), (486, 18596455), (500, 17894702), (500, 17192949),
    (500, 16491196), (500, 15789443), (500, 15087690), (500, 14385937),
    (500, 13684184), (500, 12982431), (512, 12280678), (512, 11578925),
    (512, 10877172), (512, 10175419), (512, 9473666), (512, 8771913),
    (512, 8070160), (512, 7368407), (512, 6666654), (512, 5964901),
    (512, 5263148), (512, 4561395), (512, 3859642), (512, 3157889),
    (512, 2456136), (512, 1754383), (512, 1052630), (512, 350877)
  ]

end EarthBins.Gaussian
