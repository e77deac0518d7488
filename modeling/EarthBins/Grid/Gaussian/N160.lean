/-
The reduced Gaussian grid N160: 160 rows in each hemisphere.

Each row of the northern hemisphere, from the pole to the equator, with
its column count and its latitude in millionths of a degree.
-/

namespace EarthBins.Gaussian

/-- Columns and latitudes of the northern rows of N160. -/
def n160 : List (Nat × Nat) := [
    (20, 89570090), (20, 89013176), (20, 88452974), (24, 87892028),
    (30, 87330801), (40, 86769438), (45, 86207998), (50, 85646511),
    (60, 85084993), (64, 84523454), (72, 83961900), (75, 83400334),
    (80, 82838759), (90, 82277177), (96, 81715590), (100, 81153998),
    (108, 80592403), (120, 80030805), (120, 79469204), (125, 78907601),
    (135, 78345996), (144, 77784389), (144, 77222782), (150, 76661172),
    (160, 76099562), (160, 75537951), (180, 74976339), (180, 74414727),
    (180, 73853113), (192, 73291499), (192, 72729885), (200, 72168270),
    (216, 71606655), (216, 71045039), (216, 70483423), (225, 69921806),
    (240, 69360189), (240, 68798572), (240, 68236955), (250, 67675337),
    (250, 67113719), (256, 66552101), (270, 65990483), (270, 65428865),
    (288, 64867246), (288, 64305627), (288, 63744008), (300, 63182389),
    (300, 62620770), (300, 62059151), (320, 61497532), (320, 60935912),
    (320, 60374292), (324, 59812673), (360, 59251053), (360, 58689433),
    (360, 58127813), (360, 57566193), (360, 57004573), (360, 56442953),
    (360, 55881332), (375, 55319712), (375, 54758092), (375, 54196471),
    (384, 53634851), (400, 53073230), (400, 52511610), (400, 51949989),
    (400, 51388368), (405, 50826748), (432, 50265127), (432, 49703506),
    (432, 49141885), (432, 48580264), (432, 48018643), (450, 47457022),
    (450, 46895401), (450, 46333780), (450, 45772159), (480, 45210538),
    (480, 44648917), (480, 44087296), (480, 43525675), (480, 42964054),
    (480, 42402432), (480, 41840811), (486, 41279190), (486, 40717569),
    (500, 40155947), (500, 39594326), (500, 39032705), (512, 38471083),
    (512, 37909462), (512, 37347841), (540, 36786219), (540, 36224598),
    (540, 35662976), (540, 35101355), (540, 34539734), (540, 33978112),
    (540, 33416491), (540, 32854869), (576, 32293248), (576, 31731626),
    (576, 31170005), (576, 30608383), (576, 30046762), (576, 29485140),
    (576, 28923518), (576, 28361897), (576, 27800275), (576, 27238654),
    (576, 26677032), (576, 26115410), (600, 25553789), (600, 24992167),
    (600, 24430546), (600, 23868924), (600, 23307302), (600, 22745681),
    (600, 22184059), (600, 21622437), (600, 21060816), (600, 20499194),
    (625, 19937572), (625, 19375951), (625, 18814329), (625, 18252707),
    (625, 17691085), (625, 17129464), (625, 16567842), (625, 16006220),
    (625, 15444599), (625, 14882977), (625, 14321355), (625, 13759733),
    (625, 13198112), (625, 12636490), (640, 12074868), (640, 11513246),
    (640, 10951625), (640, 10390003), (640, 9828381), (640, 9266759),
    (640, 8705138), (640, 8143516), (640, 7581894), (640, 7020272),
    (640, 6458650), (640, 5897029), (640, 5335407), (640, 4773785),
    (640, 4212163), (640, 3650542), (640, 3088920), (640, 2527298),
    (640, 1965676), (640, 1404054), (640, 842433), (640, 280811)
  ]

end EarthBins.Gaussian
