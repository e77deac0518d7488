/-
The reduced Gaussian grid N320: 320 rows in each hemisphere.

Each row of the northern hemisphere, from the pole to the equator, with
its column count and its latitude in millionths of a degree.
-/

namespace EarthBins.Gaussian

/-- Columns and latitudes of the northern rows of N320. -/
def n320 : List (Nat × Nat) := [
    (20, 89784877), (20, 89506203), (20, 89225883), (24, 88945191),
    (30, 88664358), (40, 88383457), (45, 88102518), (50, 87821556),
    (60, 87540577), (64, 87259589), (72, 86978592), (75, 86697590),
    (81, 86416583), (90, 86135573), (96, 85854560), (100, 85573545),
    (108, 85292528), (120, 85011510), (120, 84730490), (125, 84449469),
    (135, 84168447), (144, 83887425), (144, 83606402), (150, 83325378),
    (160, 83044353), (162, 82763329), (180, 82482303), (180, 82201278),
    (180, 81920252), (192, 81639225), (200, 81358199), (200, 81077172),
    (216, 80796145), (216, 80515118), (225, 80234091), (225, 79953063),
    (240, 79672035), (240, 79391008), (243, 79109980), (250, 78828951),
    (256, 78547923), (270, 78266895), (270, 77985866), (288, 77704838),
    (288, 77423809), (288, 77142781), (300, 76861752), (300, 76580723),
    (320, 76299694), (320, 76018665), (320, 75737636), (324, 75456607),
    (360, 75175578), (360, 74894549), (360, 74613520), (360, 74332490),
    (360, 74051461), (360, 73770432), (375, 73489402), (375, 73208373),
    (384, 72927344), (384, 72646314), (400, 72365285), (400, 72084255),
    (400, 71803226), (432, 71522196), (432, 71241166), (432, 70960137),
    (432, 70679107), (432, 70398077), (450, 70117048), (450, 69836018),
    (450, 69554988), (480, 69273959), (480, 68992929), (480, 68711899),
    (480, 68430869), (480, 68149839), (486, 67868810), (500, 67587780),
    (500, 67306750), (500, 67025720), (512, 66744690), (512, 66463660),
    (540, 66182630), (540, 65901600), (540, 65620570), (540, 65339540),
    (540, 65058510), (576, 64777481), (576, 64496451), (576, 64215421),
    (576, 63934391), (576, 63653361), (576, 63372331), (600, 63091300),
    (600, 62810270), (600, 62529240), (600, 62248210), (625, 61967180),
    (625, 61686150), (625, 61405120), (625, 61124090), (625, 60843060),
    (640, 60562030), (640, 60281000), (648, 59999970), (648, 59718940),
    (675, 59437910), (675, 59156879), (675, 58875849), (675, 58594819),
    (675, 58313789), (720, 58032759), (720, 57751729), (720, 57470699),
    (720, 57189668), (720, 56908638), (720, 56627608), (720, 56346578),
    (720, 56065548), (720, 55784518), (729, 55503487), (750, 55222457),
    (750, 54941427), (750, 54660397), (750, 54379367), (768, 54098337),
    (768, 53817306), (768, 53536276), (768, 53255246), (800, 52974216),
    (800, 52693186), (800, 52412155), (800, 52131125), (800, 51850095),
    (800, 51569065), (810, 51288034), (810, 51007004), (864, 50725974),
    (864, 50444944), (864, 50163913), (864, 49882883), (864, 49601853),
    (864, 49320823), (864, 49039793), (864, 48758762), (864, 48477732),
    (864, 48196702), (864, 47915672), (864, 47634641), (900, 47353611),
    (900, 47072581), (900, 46791551), (900, 46510520), (900, 46229490),
    (900, 45948460), (900, 45667429), (900, 45386399), (960, 45105369),
    (960, 44824339), (960, 44543308), (960, 44262278), (960, 43981248),
    (960, 43700218), (960, 43419187), (960, 43138157), (960, 42857127),
    (960, 42576096), (960, 42295066), (960, 42014036), (960, 41733006),
    (960, 41451975), (972, 41170945), (972, 40889915), (972, 40608884),
    (1000, 40327854), (1000, 40046824), (1000, 39765793),
    (1000, 39484763), (1000, 39203733), (1000, 38922703),
    (1000, 38641672), (1024, 38360642), (1024, 38079612),
    (1024, 37798581), (1024, 37517551), (1024, 37236521),
    (1024, 36955490), (1080, 36674460), (1080, 36393430),
    (1080, 36112399), (1080, 35831369), (1080, 35550339),
    (1080, 35269308), (1080, 34988278), (1080, 34707248),
    (1080, 34426218), (1080, 34145187), (1080, 33864157),
    (1080, 33583127), (1080, 33302096), (1080, 33021066),
    (1080, 32740036), (1125, 32459005), (1125, 32177975),
    (1125, 31896945), (1125, 31615914), (1125, 31334884),
    (1125, 31053854), (1125, 30772823), (1125, 30491793),
    (1125, 30210763), (1125, 29929732), (1125, 29648702),
    (1125, 29367672), (1125, 29086641), (1125, 28805611),
    (1125, 28524581), (1152, 28243550), (1152, 27962520),
    (1152, 27681490), (1152, 27400459), (1152, 27119429),
    (1152, 26838399), (1152, 26557368), (1152, 26276338),
    (1152, 25995308), (1200, 25714277), (1200, 25433247),
    (1200, 25152217), (1200, 24871186), (1200, 24590156),
    (1200, 24309126), (1200, 24028095), (1200, 23747065),
    (1200, 23466035), (1200, 23185004), (1200, 22903974),
    (1200, 22622944), (1200, 22341913), (1200, 22060883),
    (1200, 21779853), (1200, 21498822), (1200, 21217792),
    (1200, 20936761), (1200, 20655731), (1200, 20374701),
    (1215, 20093670), (1215, 19812640), (1215, 19531610),
    (1215, 19250579), (1215, 18969549), (1215, 18688519),
    (1215, 18407488), (1250, 18126458), (1250, 17845428),
    (1250, 17564397), (1250, 17283367), (1250, 17002337),
    (1250, 16721306), (1250, 16440276), (1250, 16159246),
    (1250, 15878215), (1250, 15597185), (1250, 15316154),
    (1250, 15035124), (1250, 14754094), (1250, 14473063),
    (1250, 14192033), (1250, 13911003), (1250, 13629972),
    (1250, 13348942), (1250, 13067912), (1250, 12786881),
    (1250, 12505851), (1280, 12224821), (1280, 11943790),
    (1280, 11662760), (1280, 11381730), (1280, 11100699),
    (1280, 10819669), (1280, 10538638), (1280, 10257608), (1280, 9976578),
    (1280, 9695547), (1280, 9414517), (1280, 9133487), (1280, 8852456),
    (1280, 8571426), (1280, 8290396), (1280, 8009365), (1280, 7728335),
    (1280, 7447305), (1280, 7166274), (1280, 6885244), (1280, 6604213),
    (1280, 6323183), (1280, 6042153), (1280, 5761122), (1280, 5480092),
    (1280, 5199062), (1280, 4918031), (1280, 4637001), (1280, 4355971),
    (1280, 4074940), (1280, 3793910), (1280, 3512879), (1280, 3231849),
    (1280, 2950819), (1280, 2669788), (1280, 2388758), (1280, 2107728),
    (1280, 1826697), (1280, 1545667), (1280, 1264637), (1280, 983606),
    (1280, 702576), (1280, 421546), (1280, 140515)
  ]

end EarthBins.Gaussian
