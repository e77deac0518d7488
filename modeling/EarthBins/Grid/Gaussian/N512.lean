/-
The reduced Gaussian grid N512: 512 rows in each hemisphere.

Each row of the northern hemisphere, from the pole to the equator, with
its column count and its latitude in millionths of a degree.
-/

namespace EarthBins.Gaussian

/-- Columns and latitudes of the northern rows of N512. -/
def n512 : List (Nat × Nat) := [
    (20, 89865509), (20, 89691286), (20, 89516035), (24, 89340551),
    (30, 89164979), (40, 88989365), (45, 88813726), (50, 88638073),
    (60, 88462411), (64, 88286741), (72, 88111067), (75, 87935389),
    (81, 87759709), (90, 87584026), (96, 87408341), (100, 87232655),
    (108, 87056968), (120, 86881280), (120, 86705592), (125, 86529902),
    (135, 86354212), (144, 86178522), (144, 86002831), (150, 85827139),
    (160, 85651448), (162, 85475756), (180, 85300063), (180, 85124371),
    (192, 84948678), (192, 84772985), (200, 84597292), (200, 84421599),
    (216, 84245906), (216, 84070212), (225, 83894519), (225, 83718825),
    (240, 83543132), (240, 83367438), (243, 83191744), (250, 83016050),
    (256, 82840356), (270, 82664661), (270, 82488967), (288, 82313273),
    (288, 82137579), (288, 81961884), (300, 81786190), (300, 81610495),
    (320, 81434801), (320, 81259106), (320, 81083412), (324, 80907717),
    (360, 80732023), (360, 80556328), (360, 80380633), (360, 80204939),
    (360, 80029244), (375, 79853549), (375, 79677854), (375, 79502159),
    (384, 79326465), (400, 79150770), (400, 78975075), (400, 78799380),
    (405, 78623685), (432, 78447990), (432, 78272295), (432, 78096600),
    (432, 77920905), (450, 77745210), (450, 77569515), (450, 77393820),
    (480, 77218125), (480, 77042430), (480, 76866735), (480, 76691040),
    (480, 76515345), (486, 76339650), (500, 76163955), (500, 75988260),
    (512, 75812565), (512, 75636869), (540, 75461174), (540, 75285479),
    (540, 75109784), (540, 74934089), (540, 74758394), (576, 74582699),
    (576, 74407003), (576, 74231308), (576, 74055613), (576, 73879918),
    (576, 73704223), (600, 73528527), (600, 73352832), (600, 73177137),
    (600, 73001442), (625, 72825747), (625, 72650051), (625, 72474356),
    (625, 72298661), (640, 72122966), (640, 71947270), (648, 71771575),
    (648, 71595880), (675, 71420185), (675, 71244489), (675, 71068794),
    (675, 70893099), (720, 70717404), (720, 70541708), (720, 70366013),
    (720, 70190318), (720, 70014623), (720, 69838927), (720, 69663232),
    (720, 69487537), (729, 69311841), (750, 69136146), (750, 68960451),
    (750, 68784755), (750, 68609060), (768, 68433365), (768, 68257670),
    (768, 68081974), (800, 67906279), (800, 67730584), (800, 67554888),
    (800, 67379193), (800, 67203498), (800, 67027802), (810, 66852107),
    (864, 66676412), (864, 66500716), (864, 66325021), (864, 66149326),
    (864, 65973630), (864, 65797935), (864, 65622240), (864, 65446544),
    (864, 65270849), (864, 65095154), (900, 64919458), (900, 64743763),
    (900, 64568068), (900, 64392372), (900, 64216677), (900, 64040982),
    (960, 63865286), (960, 63689591), (960, 63513896), (960, 63338200),
    (960, 63162505), (960, 62986809), (960, 62811114), (960, 62635419),
    (960, 62459723), (960, 62284028), (960, 62108333), (972, 61932637),
    (972, 61756942), (1000, 61581247), (1000, 61405551), (1000, 61229856),
    (1000, 61054160), (1000, 60878465), (1024, 60702770),
    (1024, 60527074), (1024, 60351379), (1024, 60175684),
    (1080, 59999988), (1080, 59824293), (1080, 59648597),
    (1080, 59472902), (1080, 59297207), (1080, 59121511),
    (1080, 58945816), (1080, 58770121), (1080, 58594425),
    (1080, 58418730), (1080, 58243034), (1125, 58067339),
    (1125, 57891644), (1125, 57715948), (1125, 57540253),
    (1125, 57364557), (1125, 57188862), (1125, 57013167),
    (1125, 56837471), (1152, 56661776), (1152, 56486080),
    (1152, 56310385), (1152, 56134690), (1152, 55958994),
    (1152, 55783299), (1200, 55607604), (1200, 55431908),
    (1200, 55256213), (1200, 55080517), (1200, 54904822),
    (1200, 54729127), (1200, 54553431), (1200, 54377736),
    (1200, 54202040), (1215, 54026345), (1215, 53850650),
    (1215, 53674954), (1250, 53499259), (1250, 53323563),
    (1250, 53147868), (1250, 52972173), (1250, 52796477),
    (1250, 52620782), (1250, 52445086), (1280, 52269391),
    (1280, 52093695), (1280, 51918000), (1280, 51742305),
    (1280, 51566609), (1280, 51390914), (1296, 51215218),
    (1296, 51039523), (1296, 50863828), (1350, 50688132),
    (1350, 50512437), (1350, 50336741), (1350, 50161046),
    (1350, 49985351), (1350, 49809655), (1350, 49633960),
    (1350, 49458264), (1350, 49282569), (1350, 49106874),
    (1350, 48931178), (1440, 48755483), (1440, 48579787),
    (1440, 48404092), (1440, 48228396), (1440, 48052701),
    (1440, 47877006), (1440, 47701310), (1440, 47525615),
    (1440, 47349919), (1440, 47174224), (1440, 46998529),
    (1440, 46822833), (1440, 46647138), (1440, 46471442),
    (1440, 46295747), (1440, 46120051), (1440, 45944356),
    (1440, 45768661), (1440, 45592965), (1440, 45417270),
    (1458, 45241574), (1458, 45065879), (1458, 44890184),
    (1458, 44714488), (1500, 44538793), (1500, 44363097),
    (1500, 44187402), (1500, 44011706), (1500, 43836011),
    (1500, 43660316), (1500, 43484620), (1500, 43308925),
    (1500, 43133229), (1500, 42957534), (1536, 42781838),
    (1536, 42606143), (1536, 42430448), (1536, 42254752),
    (1536, 42079057), (1536, 41903361), (1536, 41727666),
    (1536, 41551971), (1600, 41376275), (1600, 41200580),
    (1600, 41024884), (1600, 40849189), (1600, 40673493),
    (1600, 40497798), (1600, 40322103), (1600, 40146407),
    (1600, 39970712), (1600, 39795016), (1600, 39619321),
    (1600, 39443625), (1600, 39267930), (1600, 39092235),
    (1600, 38916539), (1600, 38740844), (1620, 38565148),
    (1620, 38389453), (1620, 38213757), (1620, 38038062),
    (1620, 37862367), (1728, 37686671), (1728, 37510976),
    (1728, 37335280), (1728, 37159585), (1728, 36983889),
    (1728, 36808194), (1728, 36632499), (1728, 36456803),
    (1728, 36281108), (1728, 36105412), (1728, 35929717),
    (1728, 35754021), (1728, 35578326), (1728, 35402631),
    (1728, 35226935), (1728, 35051240), (1728, 34875544),
    (1728, 34699849), (1728, 34524153), (1728, 34348458),
    (1728, 34172763), (1728, 33997067), (1728, 33821372),
    (1728, 33645676), (1728, 33469981), (1728, 33294285),
    (1728, 33118590), (1728, 32942895), (1728, 32767199),
    (1728, 32591504), (1800, 32415808), (1800, 32240113),
    (1800, 32064417), (1800, 31888722), (1800, 31713027),
    (1800, 31537331), (1800, 31361636), (1800, 31185940),
    (1800, 31010245), (1800, 30834549), (1800, 30658854),
    (1800, 30483159), (1800, 30307463), (1800, 30131768),
    (1800, 29956072), (1800, 29780377), (1800, 29604681),
    (1800, 29428986), (1800, 29253290), (1800, 29077595),
    (1800, 28901900), (1800, 28726204), (1800, 28550509),
    (1875, 28374813), (1875, 28199118), (1875, 28023422),
    (1875, 27847727), (1875, 27672032), (1875, 27496336),
    (1875, 27320641), (1875, 27144945), (1875, 26969250),
    (1875, 26793554), (1875, 26617859), (1875, 26442164),
    (1875, 26266468), (1875, 26090773), (1875, 25915077),
    (1875, 25739382), (1875, 25563686), (1875, 25387991),
    (1875, 25212295), (1875, 25036600), (1875, 24860905),
    (1875, 24685209), (1875, 24509514), (1875, 24333818),
    (1875, 24158123), (1875, 23982427), (1875, 23806732),
    (1920, 23631037), (1920, 23455341), (1920, 23279646),
    (1920, 23103950), (1920, 22928255), (1920, 22752559),
    (1920, 22576864), (1920, 22401168), (1920, 22225473),
    (1920, 22049778), (1920, 21874082), (1920, 21698387),
    (1920, 21522691), (1920, 21346996), (1920, 21171300),
    (1920, 20995605), (1920, 20819910), (1920, 20644214),
    (1920, 20468519), (1944, 20292823), (1944, 20117128),
    (1944, 19941432), (1944, 19765737), (1944, 19590041),
    (1944, 19414346), (1944, 19238651), (1944, 19062955),
    (1944, 18887260), (1944, 18711564), (1944, 18535869),
    (1944, 18360173), (2000, 18184478), (2000, 18008783),
    (2000, 17833087), (2000, 17657392), (2000, 17481696),
    (2000, 17306001), (2000, 17130305), (2000, 16954610),
    (2000, 16778914), (2000, 16603219), (2000, 16427524),
    (2000, 16251828), (2000, 16076133), (2000, 15900437),
    (2000, 15724742), (2000, 15549046), (2000, 15373351),
    (2000, 15197656), (2000, 15021960), (2000, 14846265),
    (2000, 14670569), (2000, 14494874), (2000, 14319178),
    (2000, 14143483), (2000, 13967787), (2000, 13792092),
    (2000, 13616397), (2000, 13440701), (2000, 13265006),
    (2000, 13089310), (2000, 12913615), (2000, 12737919),
    (2000, 12562224), (2025, 12386529), (2025, 12210833),
    (2025, 12035138), (2025, 11859442), (2025, 11683747),
    (2025, 11508051), (2025, 11332356), (2025, 11156660),
    (2025, 10980965), (2025, 10805270), (2025, 10629574),
    (2025, 10453879), (2025, 10278183), (2025, 10102488), (2025, 9926792),
    (2025, 9751097), (2025, 9575401), (2025, 9399706), (2025, 9224011),
    (2025, 9048315), (2025, 8872620), (2025, 8696924), (2048, 8521229),
    (2048, 8345533), (2048, 8169838), (2048, 7994143), (2048, 7818447),
    (2048, 7642752), (2048, 7467056), (2048, 7291361), (2048, 7115665),
    (2048, 6939970), (2048, 6764274), (2048, 6588579), (2048, 6412884),
    (2048, 6237188), (2048, 6061493), (2048, 5885797), (2048, 5710102),
    (2048, 5534406), (2048, 5358711), (2048, 5183015), (2048, 5007320),
    (2048, 4831625), (2048, 4655929), (2048, 4480234), (2048, 4304538),
    (2048, 4128843), (2048, 3953147), (2048, 3777452), (2048, 3601757),
    (2048, 3426061), (2048, 3250366), (2048, 3074670), (2048, 2898975),
    (2048, 2723279), (2048, 2547584), (2048, 2371888), (2048, 2196193),
    (2048, 2020498), (2048, 1844802), (2048, 1669107), (2048, 1493411),
    (2048, 1317716), (2048, 1142020), (2048, 966325), (2048, 790629),
    (2048, 614934), (2048, 439239), (2048, 263543), (2048, 87848)
  ]

end EarthBins.Gaussian
