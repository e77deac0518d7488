/-
The reduced Gaussian grid N400: 400 rows in each hemisphere.

Each row of the northern hemisphere, from the pole to the equator, with
its column count and its latitude in millionths of a degree.
-/

namespace EarthBins.Gaussian

/-- Columns and latitudes of the northern rows of N400. -/
def n400 : List (Nat × Nat) := [
    (20, 89827875), (20, 89604900), (20, 89380610), (24, 89156021),
    (30, 88931320), (40, 88706564), (45, 88481777), (50, 88256972),
    (60, 88032155), (64, 87807328), (72, 87582496), (75, 87357659),
    (81, 87132819), (90, 86907976), (96, 86683130), (100, 86458283),
    (108, 86233434), (120, 86008584), (120, 85783733), (125, 85558882),
    (135, 85334029), (144, 85109176), (144, 84884322), (150, 84659468),
    (160, 84434614), (162, 84209759), (180, 83984903), (180, 83760048),
    (192, 83535192), (192, 83310336), (200, 83085479), (200, 82860623),
    (216, 82635766), (216, 82410909), (225, 82186052), (225, 81961195),
    (240, 81736338), (240, 81511480), (243, 81286623), (250, 81061765),
    (256, 80836908), (270, 80612050), (270, 80387192), (288, 80162334),
    (288, 79937476), (288, 79712618), (300, 79487760), (300, 79262902),
    (320, 79038043), (320, 78813185), (320, 78588327), (324, 78363469),
    (360, 78138610), (360, 77913752), (360, 77688893), (360, 77464035),
    (360, 77239176), (360, 77014318), (375, 76789459), (375, 76564600),
    (384, 76339742), (384, 76114883), (400, 75890024), (400, 75665166),
    (405, 75440307), (432, 75215448), (432, 74990589), (432, 74765730),
    (432, 74540872), (450, 74316013), (450, 74091154), (450, 73866295),
    (480, 73641436), (480, 73416577), (480, 73191718), (480, 72966859),
    (480, 72742000), (486, 72517141), (500, 72292282), (500, 72067423),
    (500, 71842564), (512, 71617705), (512, 71392846), (540, 71167987),
    (540, 70943128), (540, 70718269), (540, 70493410), (576, 70268551),
    (576, 70043692), (576, 69818833), (576, 69593974), (576, 69369115),
    (576, 69144255), (576, 68919396), (600, 68694537), (600, 68469678),
    (600, 68244819), (600, 68019960), (625, 67795101), (625, 67570242),
    (625, 67345382), (625, 67120523), (640, 66895664), (640, 66670805),
    (640, 66445946), (648, 66221086), (675, 65996227), (675, 65771368),
    (675, 65546509), (675, 65321650), (675, 65096790), (720, 64871931),
    (720, 64647072), (720, 64422213), (720, 64197354), (720, 63972494),
    (720, 63747635), (720, 63522776), (720, 63297917), (729, 63073057),
    (750, 62848198), (750, 62623339), (750, 62398480), (750, 62173620),
    (768, 61948761), (768, 61723902), (768, 61499043), (800, 61274183),
    (800, 61049324), (800, 60824465), (800, 60599605), (800, 60374746),
    (800, 60149887), (810, 59925028), (810, 59700168), (864, 59475309),
    (864, 59250450), (864, 59025590), (864, 58800731), (864, 58575872),
    (864, 58351012), (864, 58126153), (864, 57901294), (864, 57676435),
    (864, 57451575), (900, 57226716), (900, 57001857), (900, 56776997),
    (900, 56552138), (900, 56327279), (900, 56102419), (900, 55877560),
    (960, 55652701), (960, 55427841), (960, 55202982), (960, 54978123),
    (960, 54753263), (960, 54528404), (960, 54303545), (960, 54078685),
    (960, 53853826), (960, 53628967), (960, 53404107), (960, 53179248),
    (972, 52954389), (972, 52729529), (1000, 52504670), (1000, 52279811),
    (1000, 52054951), (1000, 51830092), (1000, 51605233),
    (1000, 51380373), (1024, 51155514), (1024, 50930655),
    (1024, 50705795), (1024, 50480936), (1024, 50256077),
    (1080, 50031217), (1080, 49806358), (1080, 49581498),
    (1080, 49356639), (1080, 49131780), (1080, 48906920),
    (1080, 48682061), (1080, 48457202), (1080, 48232342),
    (1080, 48007483), (1080, 47782624), (1080, 47557764),
    (1125, 47332905), (1125, 47108045), (1125, 46883186),
    (1125, 46658327), (1125, 46433467), (1125, 46208608),
    (1125, 45983749), (1125, 45758889), (1125, 45534030),
    (1152, 45309170), (1152, 45084311), (1152, 44859452),
    (1152, 44634592), (1152, 44409733), (1152, 44184874),
    (1152, 43960014), (1200, 43735155), (1200, 43510295),
    (1200, 43285436), (1200, 43060577), (1200, 42835717),
    (1200, 42610858), (1200, 42385999), (1200, 42161139),
    (1200, 41936280), (1200, 41711420), (1200, 41486561),
    (1215, 41261702), (1215, 41036842), (1215, 40811983),
    (1250, 40587123), (1250, 40362264), (1250, 40137405),
    (1250, 39912545), (1250, 39687686), (1250, 39462827),
    (1250, 39237967), (1250, 39013108), (1250, 38788248),
    (1280, 38563389), (1280, 38338530), (1280, 38113670),
    (1280, 37888811), (1280, 37663951), (1280, 37439092),
    (1280, 37214233), (1280, 36989373), (1296, 36764514),
    (1296, 36539654), (1296, 36314795), (1296, 36089936),
    (1350, 35865076), (1350, 35640217), (1350, 35415357),
    (1350, 35190498), (1350, 34965639), (1350, 34740779),
    (1350, 34515920), (1350, 34291060), (1350, 34066201),
    (1350, 33841342), (1350, 33616482), (1350, 33391623),
    (1350, 33166763), (1350, 32941904), (1350, 32717045),
    (1350, 32492185), (1440, 32267326), (1440, 32042466),
    (1440, 31817607), (1440, 31592748), (1440, 31367888),
    (1440, 31143029), (1440, 30918169), (1440, 30693310),
    (1440, 30468451), (1440, 30243591), (1440, 30018732),
    (1440, 29793872), (1440, 29569013), (1440, 29344154),
    (1440, 29119294), (1440, 28894435), (1440, 28669575),
    (1440, 28444716), (1440, 28219857), (1440, 27994997),
    (1440, 27770138), (1440, 27545278), (1440, 27320419),
    (1440, 27095560), (1440, 26870700), (1440, 26645841),
    (1440, 26420981), (1440, 26196122), (1440, 25971263),
    (1458, 25746403), (1458, 25521544), (1458, 25296684),
    (1458, 25071825), (1458, 24846965), (1458, 24622106),
    (1458, 24397247), (1500, 24172387), (1500, 23947528),
    (1500, 23722668), (1500, 23497809), (1500, 23272950),
    (1500, 23048090), (1500, 22823231), (1500, 22598371),
    (1500, 22373512), (1500, 22148653), (1500, 21923793),
    (1500, 21698934), (1500, 21474074), (1500, 21249215),
    (1500, 21024355), (1500, 20799496), (1500, 20574637),
    (1536, 20349777), (1536, 20124918), (1536, 19900058),
    (1536, 19675199), (1536, 19450340), (1536, 19225480),
    (1536, 19000621), (1536, 18775761), (1536, 18550902),
    (1536, 18326043), (1536, 18101183), (1536, 17876324),
    (1536, 17651464), (1536, 17426605), (1536, 17201745),
    (1536, 16976886), (1536, 16752027), (1536, 16527167),
    (1536, 16302308), (1600, 16077448), (1600, 15852589),
    (1600, 15627730), (1600, 15402870), (1600, 15178011),
    (1600, 14953151), (1600, 14728292), (1600, 14503432),
    (1600, 14278573), (1600, 14053714), (1600, 13828854),
    (1600, 13603995), (1600, 13379135), (1600, 13154276),
    (1600, 12929417), (1600, 12704557), (1600, 12479698),
    (1600, 12254838), (1600, 12029979), (1600, 11805119),
    (1600, 11580260), (1600, 11355401), (1600, 11130541),
    (1600, 10905682), (1600, 10680822), (1600, 10455963),
    (1600, 10231104), (1600, 10006244), (1600, 9781385), (1600, 9556525),
    (1600, 9331666), (1600, 9106806), (1600, 8881947), (1600, 8657088),
    (1600, 8432228), (1600, 8207369), (1600, 7982509), (1600, 7757650),
    (1600, 7532791), (1600, 7307931), (1600, 7083072), (1600, 6858212),
    (1600, 6633353), (1600, 6408493), (1600, 6183634), (1600, 5958775),
    (1600, 5733915), (1600, 5509056), (1600, 5284196), (1600, 5059337),
    (1600, 4834478), (1600, 4609618), (1600, 4384759), (1600, 4159899),
    (1600, 3935040), (1600, 3710180), (1600, 3485321), (1600, 3260462),
    (1600, 3035602), (1600, 2810743), (1600, 2585883), (1600, 2361024),
    (1600, 2136164), (1600, 1911305), (1600, 1686446), (1600, 1461586),
    (1600, 1236727), (1600, 1011867), (1600, 787008), (1600, 562149),
    (1600, 337289), (1600, 112430)
  ]

end EarthBins.Gaussian
