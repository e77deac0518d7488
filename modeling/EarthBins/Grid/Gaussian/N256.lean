/-
The reduced Gaussian grid N256: 256 rows in each hemisphere.

Each row of the northern hemisphere, from the pole to the equator, with
its column count and its latitude in millionths of a degree.
-/

namespace EarthBins.Gaussian

/-- Columns and latitudes of the northern rows of N256. -/
def n256 : List (Nat × Nat) := [
    (20, 89731149), (20, 89382874), (20, 89032542), (24, 88681746),
    (30, 88330774), (40, 87979716), (45, 87628611), (50, 87277476),
    (60, 86926322), (64, 86575154), (72, 86223977), (75, 85872793),
    (80, 85521603), (90, 85170409), (96, 84819212), (100, 84468011),
    (108, 84116809), (120, 83765604), (120, 83414398), (125, 83063191),
    (135, 82711982), (144, 82360772), (144, 82009562), (150, 81658351),
    (160, 81307139), (162, 80955926), (180, 80604713), (180, 80253500),
    (180, 79902286), (192, 79551072), (192, 79199857), (200, 78848642),
    (216, 78497427), (216, 78146212), (225, 77794996), (225, 77443780),
    (240, 77092564), (240, 76741348), (243, 76390131), (250, 76038915),
    (256, 75687698), (270, 75336481), (270, 74985264), (288, 74634047),
    (288, 74282830), (288, 73931613), (300, 73580395), (300, 73229178),
    (320, 72877960), (320, 72526743), (320, 72175525), (320, 71824307),
    (360, 71473089), (360, 71121871), (360, 70770654), (360, 70419436),
    (360, 70068217), (360, 69716999), (375, 69365781), (375, 69014563),
    (375, 68663345), (384, 68312127), (400, 67960908), (400, 67609690),
    (400, 67258472), (405, 66907253), (432, 66556035), (432, 66204816),
    (432, 65853598), (432, 65502379), (432, 65151161), (450, 64799942),
    (450, 64448723), (450, 64097505), (480, 63746286), (480, 63395068),
    (480, 63043849), (480, 62692630), (480, 62341411), (486, 61990193),
    (500, 61638974), (500, 61287755), (500, 60936536), (512, 60585317),
    (512, 60234099), (540, 59882880), (540, 59531661), (540, 59180442),
    (540, 58829223), (540, 58478004), (576, 58126785), (576, 57775566),
    (576, 57424348), (576, 57073129), (576, 56721910), (576, 56370691),
    (576, 56019472), (600, 55668253), (600, 55317034), (600, 54965815),
    (600, 54614596), (600, 54263377), (625, 53912158), (625, 53560939),
    (625, 53209720), (625, 52858501), (625, 52507282), (640, 52156062),
    (640, 51804843), (640, 51453624), (648, 51102405), (648, 50751186),
    (675, 50399967), (675, 50048748), (675, 49697529), (675, 49346310),
    (675, 48995091), (720, 48643871), (720, 48292652), (720, 47941433),
    (720, 47590214), (720, 47238995), (720, 46887776), (720, 46536557),
    (720, 46185337), (720, 45834118), (720, 45482899), (729, 45131680),
    (729, 44780461), (750, 44429242), (750, 44078022), (750, 43726803),
    (750, 43375584), (750, 43024365), (768, 42673146), (768, 42321926),
    (768, 41970707), (768, 41619488), (800, 41268269), (800, 40917050),
    (800, 40565830), (800, 40214611), (800, 39863392), (800, 39512173),
    (800, 39160953), (800, 38809734), (810, 38458515), (810, 38107296),
    (810, 37756076), (864, 37404857), (864, 37053638), (864, 36702419),
    (864, 36351199), (864, 35999980), (864, 35648761), (864, 35297542),
    (864, 34946322), (864, 34595103), (864, 34243884), (864, 33892665),
    (864, 33541445), (864, 33190226), (864, 32839007), (864, 32487788),
    (900, 32136568), (900, 31785349), (900, 31434130), (900, 31082910),
    (900, 30731691), (900, 30380472), (900, 30029253), (900, 29678033),
    (900, 29326814), (900, 28975595), (900, 28624375), (960, 28273156),
    (960, 27921937), (960, 27570717), (960, 27219498), (960, 26868279),
    (960, 26517060), (960, 26165840), (960, 25814621), (960, 25463402),
    (960, 25112182), (960, 24760963), (960, 24409744), (960, 24058524),
    (960, 23707305), (960, 23356086), (960, 23004866), (960, 22653647),
    (960, 22302428), (960, 21951209), (960, 21599989), (960, 21248770),
    (960, 20897551), (960, 20546331), (972, 20195112), (972, 19843893),
    (972, 19492673), (972, 19141454), (972, 18790235), (972, 18439015),
    (1000, 18087796), (1000, 17736577), (1000, 17385357),
    (1000, 17034138), (1000, 16682919), (1000, 16331699),
    (1000, 15980480), (1000, 15629261), (1000, 15278041),
    (1000, 14926822), (1000, 14575603), (1000, 14224383),
    (1000, 13873164), (1000, 13521945), (1000, 13170725),
    (1000, 12819506), (1000, 12468287), (1024, 12117067),
    (1024, 11765848), (1024, 11414629), (1024, 11063409),
    (1024, 10712190), (1024, 10360971), (1024, 10009751), (1024, 9658532),
    (1024, 9307313), (1024, 8956093), (1024, 8604874), (1024, 8253655),
    (1024, 7902435), (1024, 7551216), (1024, 7199997), (1024, 6848777),
    (1024, 6497558), (1024, 6146339), (1024, 5795119), (1024, 5443900),
    (1024, 5092680), (1024, 4741461), (1024, 4390242), (1024, 4039022),
    (1024, 3687803), (1024, 3336584), (1024, 2985364), (1024, 2634145),
    (1024, 2282926), (1024, 1931706), (1024, 1580487), (1024, 1229268),
    (1024, 878048), (1024, 526829), (1024, 175610)
  ]

end EarthBins.Gaussian
