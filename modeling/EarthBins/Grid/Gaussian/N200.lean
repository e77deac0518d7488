/-
The reduced Gaussian grid N200: 200 rows in each hemisphere.

Each row of the northern hemisphere, from the pole to the equator, with
its column count and its latitude in millionths of a degree.
-/

namespace EarthBins.Gaussian

/-- Columns and latitudes of the northern rows of N200. -/
def n200 : List (Nat × Nat) := [
    (20, 89655964), (20, 89210294), (20, 88761993), (24, 88313096),
    (30, 87863974), (40, 87414743), (45, 86965451), (50, 86516121),
    (60, 86066767), (64, 85617395), (72, 85168011), (75, 84718618),
    (80, 84269218), (90, 83819812), (96, 83370402), (100, 82920989),
    (108, 82471572), (120, 82022153), (120, 81572732), (125, 81123310),
    (135, 80673885), (144, 80224460), (144, 79775033), (150, 79325606),
    (160, 78876177), (162, 78426748), (180, 77977318), (180, 77527888),
    (180, 77078457), (192, 76629026), (192, 76179594), (200, 75730162),
    (216, 75280729), (216, 74831296), (216, 74381863), (225, 73932429),
    (240, 73482995), (240, 73033562), (240, 72584127), (250, 72134693),
    (256, 71685258), (270, 71235824), (270, 70786389), (270, 70336954),
    (288, 69887519), (288, 69438083), (288, 68988648), (300, 68539212),
    (300, 68089777), (320, 67640341), (320, 67190905), (320, 66741469),
    (324, 66292033), (360, 65842597), (360, 65393161), (360, 64943725),
    (360, 64494288), (360, 64044852), (360, 63595416), (375, 63145979),
    (375, 62696543), (375, 62247106), (384, 61797670), (384, 61348233),
    (400, 60898796), (400, 60449359), (405, 59999923), (432, 59550486),
    (432, 59101049), (432, 58651612), (432, 58202175), (432, 57752738),
    (450, 57303301), (450, 56853864), (450, 56404427), (450, 55954990),
    (480, 55505553), (480, 55056116), (480, 54606679), (480, 54157242),
    (480, 53707804), (480, 53258367), (486, 52808930), (500, 52359493),
    (500, 51910055), (500, 51460618), (512, 51011181), (512, 50561743),
    (540, 50112306), (540, 49662869), (540, 49213431), (540, 48763994),
    (540, 48314557), (540, 47865119), (576, 47415682), (576, 46966244),
    (576, 46516807), (576, 46067369), (576, 45617932), (576, 45168494),
    (576, 44719057), (576, 44269619), (600, 43820182), (600, 43370744),
    (600, 42921307), (600, 42471869), (600, 42022432), (600, 41572994),
    (625, 41123557), (625, 40674119), (625, 40224681), (625, 39775244),
    (625, 39325806), (625, 38876368), (640, 38426931), (640, 37977493),
    (640, 37528056), (640, 37078618), (648, 36629180), (648, 36179743),
    (675, 35730305), (675, 35280867), (675, 34831430), (675, 34381992),
    (675, 33932554), (675, 33483117), (675, 33033679), (675, 32584241),
    (720, 32134803), (720, 31685366), (720, 31235928), (720, 30786490),
    (720, 30337053), (720, 29887615), (720, 29438177), (720, 28988739),
    (720, 28539302), (720, 28089864), (720, 27640426), (720, 27190988),
    (720, 26741551), (720, 26292113), (720, 25842675), (729, 25393237),
    (729, 24943799), (729, 24494362), (750, 24044924), (750, 23595486),
    (750, 23146048), (750, 22696611), (750, 22247173), (750, 21797735),
    (750, 21348297), (750, 20898859), (750, 20449422), (768, 19999984),
    (768, 19550546), (768, 19101108), (768, 18651670), (768, 18202233),
    (768, 17752795), (768, 17303357), (768, 16853919), (768, 16404481),
    (800, 15955043), (800, 15505606), (800, 15056168), (800, 14606730),
    (800, 14157292), (800, 13707854), (800, 13258416), (800, 12808979),
    (800, 12359541), (800, 11910103), (800, 11460665), (800, 11011227),
    (800, 10561789), (800, 10112352), (800, 9662914), (800, 9213476),
    (800, 8764038), (800, 8314600), (800, 7865162), (800, 7415725),
    (800, 6966287), (800, 6516849), (800, 6067411), (800, 5617973),
    (800, 5168535), (800, 4719097), (800, 4269660), (800, 3820222),
    (800, 3370784), (800, 2921346), (800, 2471908), (800, 2022470),
    (800, 1573032), (800, 1123595), (800, 674157), (800, 224719)
  ]

end EarthBins.Gaussian
