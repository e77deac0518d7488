/-
The reduced Gaussian grid N640: 640 rows in each hemisphere.

Each row of the northern hemisphere, from the pole to the equator, with
its column count and its latitude in millionths of a degree.
-/

namespace EarthBins.Gaussian

/-- Columns and latitudes of the northern rows of N640. -/
def n640 : List (Nat × Nat) := [
    (20, 89892396), (20, 89753005), (20, 89612790), (24, 89472390),
    (30, 89331918), (40, 89191413), (45, 89050889), (50, 88910352),
    (60, 88769808), (64, 88629259), (72, 88488706), (75, 88348150),
    (81, 88207592), (90, 88067032), (96, 87926471), (100, 87785908),
    (108, 87645345), (120, 87504781), (120, 87364216), (125, 87223651),
    (135, 87083085), (144, 86942519), (144, 86801952), (150, 86661385),
    (160, 86520818), (162, 86380251), (180, 86239684), (180, 86099116),
    (192, 85958548), (192, 85817980), (200, 85677412), (200, 85536844),
    (216, 85396275), (216, 85255707), (225, 85115138), (225, 84974570),
    (240, 84834001), (240, 84693432), (250, 84552863), (250, 84412294),
    (256, 84271725), (270, 84131156), (270, 83990587), (288, 83850018),
    (288, 83709449), (288, 83568880), (300, 83428310), (300, 83287741),
    (320, 83147172), (320, 83006602), (320, 82866033), (360, 82725464),
    (360, 82584894), (360, 82444325), (360, 82303755), (360, 82163186),
    (360, 82022616), (375, 81882047), (375, 81741477), (375, 81600908),
    (384, 81460338), (400, 81319768), (400, 81179199), (400, 81038629),
    (405, 80898059), (432, 80757490), (432, 80616920), (432, 80476350),
    (432, 80335781), (450, 80195211), (450, 80054641), (450, 79914072),
    (480, 79773502), (480, 79632932), (480, 79492362), (480, 79351792),
    (480, 79211223), (486, 79070653), (500, 78930083), (500, 78789513),
    (512, 78648943), (512, 78508374), (540, 78367804), (540, 78227234),
    (540, 78086664), (540, 77946094), (576, 77805524), (576, 77664955),
    (576, 77524385), (576, 77383815), (576, 77243245), (576, 77102675),
    (600, 76962105), (600, 76821535), (600, 76680966), (600, 76540396),
    (625, 76399826), (625, 76259256), (625, 76118686), (625, 75978116),
    (640, 75837546), (640, 75696976), (640, 75556406), (648, 75415836),
    (675, 75275266), (675, 75134697), (675, 74994127), (675, 74853557),
    (675, 74712987), (720, 74572417), (720, 74431847), (720, 74291277),
    (720, 74150707), (720, 74010137), (720, 73869567), (720, 73728997),
    (729, 73588427), (750, 73447857), (750, 73307287), (750, 73166717),
    (750, 73026147), (768, 72885577), (768, 72745007), (768, 72604437),
    (800, 72463867), (800, 72323298), (800, 72182728), (800, 72042158),
    (800, 71901588), (810, 71761018), (810, 71620448), (864, 71479878),
    (864, 71339308), (864, 71198738), (864, 71058168), (864, 70917598),
    (864, 70777028), (864, 70636458), (864, 70495888), (864, 70355318),
    (900, 70214748), (900, 70074178), (900, 69933608), (900, 69793038),
    (900, 69652468), (900, 69511898), (960, 69371328), (960, 69230758),
    (960, 69090188), (960, 68949618), (960, 68809048), (960, 68668478),
    (960, 68527908), (960, 68387338), (960, 68246768), (960, 68106198),
    (972, 67965628), (972, 67825058), (1000, 67684488), (1000, 67543918),
    (1000, 67403348), (1000, 67262778), (1000, 67122208),
    (1024, 66981638), (1024, 66841067), (1024, 66700497),
    (1024, 66559927), (1080, 66419357), (1080, 66278787),
    (1080, 66138217), (1080, 65997647), (1080, 65857077),
    (1080, 65716507), (1080, 65575937), (1080, 65435367),
    (1080, 65294797), (1080, 65154227), (1125, 65013657),
    (1125, 64873087), (1125, 64732517), (1125, 64591947),
    (1125, 64451377), (1125, 64310807), (1125, 64170237),
    (1125, 64029667), (1152, 63889097), (1152, 63748527),
    (1152, 63607957), (1152, 63467387), (1152, 63326817),
    (1200, 63186247), (1200, 63045677), (1200, 62905107),
    (1200, 62764537), (1200, 62623967), (1200, 62483397),
    (1200, 62342826), (1200, 62202256), (1200, 62061686),
    (1215, 61921116), (1215, 61780546), (1250, 61639976),
    (1250, 61499406), (1250, 61358836), (1250, 61218266),
    (1250, 61077696), (1250, 60937126), (1250, 60796556),
    (1280, 60655986), (1280, 60515416), (1280, 60374846),
    (1280, 60234276), (1280, 60093706), (1296, 59953136),
    (1296, 59812566), (1296, 59671996), (1350, 59531426),
    (1350, 59390856), (1350, 59250286), (1350, 59109715),
    (1350, 58969145), (1350, 58828575), (1350, 58688005),
    (1350, 58547435), (1350, 58406865), (1350, 58266295),
    (1440, 58125725), (1440, 57985155), (1440, 57844585),
    (1440, 57704015), (1440, 57563445), (1440, 57422875),
    (1440, 57282305), (1440, 57141735), (1440, 57001165),
    (1440, 56860595), (1440, 56720025), (1440, 56579455),
    (1440, 56438884), (1440, 56298314), (1440, 56157744),
    (1440, 56017174), (1440, 55876604), (1458, 55736034),
    (1458, 55595464), (1458, 55454894), (1458, 55314324),
    (1500, 55173754), (1500, 55033184), (1500, 54892614),
    (1500, 54752044), (1500, 54611474), (1500, 54470904),
    (1500, 54330334), (1500, 54189764), (1536, 54049194),
    (1536, 53908623), (1536, 53768053), (1536, 53627483),
    (1536, 53486913), (1536, 53346343), (1536, 53205773),
    (1600, 53065203), (1600, 52924633), (1600, 52784063),
    (1600, 52643493), (1600, 52502923), (1600, 52362353),
    (1600, 52221783), (1600, 52081213), (1600, 51940643),
    (1600, 51800073), (1600, 51659502), (1600, 51518932),
    (1600, 51378362), (1620, 51237792), (1620, 51097222),
    (1620, 50956652), (1620, 50816082), (1728, 50675512),
    (1728, 50534942), (1728, 50394372), (1728, 50253802),
    (1728, 50113232), (1728, 49972662), (1728, 49832092),
    (1728, 49691522), (1728, 49550952), (1728, 49410381),
    (1728, 49269811), (1728, 49129241), (1728, 48988671),
    (1728, 48848101), (1728, 48707531), (1728, 48566961),
    (1728, 48426391), (1728, 48285821), (1728, 48145251),
    (1728, 48004681), (1728, 47864111), (1728, 47723541),
    (1728, 47582971), (1800, 47442401), (1800, 47301830),
    (1800, 47161260), (1800, 47020690), (1800, 46880120),
    (1800, 46739550), (1800, 46598980), (1800, 46458410),
    (1800, 46317840), (1800, 46177270), (1800, 46036700),
    (1800, 45896130), (1800, 45755560), (1800, 45614990),
    (1800, 45474420), (1800, 45333850), (1875, 45193279),
    (1875, 45052709), (1875, 44912139), (1875, 44771569),
    (1875, 44630999), (1875, 44490429), (1875, 44349859),
    (1875, 44209289), (1875, 44068719), (1875, 43928149),
    (1875, 43787579), (1875, 43647009), (1875, 43506439),
    (1875, 43365869), (1875, 43225299), (1875, 43084728),
    (1875, 42944158), (1920, 42803588), (1920, 42663018),
    (1920, 42522448), (1920, 42381878), (1920, 42241308),
    (1920, 42100738), (1920, 41960168), (1920, 41819598),
    (1920, 41679028), (1920, 41538458), (1944, 41397888),
    (1944, 41257318), (1944, 41116747), (1944, 40976177),
    (1944, 40835607), (1944, 40695037), (2000, 40554467),
    (2000, 40413897), (2000, 40273327), (2000, 40132757),
    (2000, 39992187), (2000, 39851617), (2000, 39711047),
    (2000, 39570477), (2000, 39429907), (2000, 39289337),
    (2000, 39148766), (2000, 39008196), (2000, 38867626),
    (2000, 38727056), (2025, 38586486), (2025, 38445916),
    (2025, 38305346), (2025, 38164776), (2025, 38024206),
    (2025, 37883636), (2025, 37743066), (2048, 37602496),
    (2048, 37461926), (2048, 37321356), (2048, 37180785),
    (2048, 37040215), (2048, 36899645), (2160, 36759075),
    (2160, 36618505), (2160, 36477935), (2160, 36337365),
    (2160, 36196795), (2160, 36056225), (2160, 35915655),
    (2160, 35775085), (2160, 35634515), (2160, 35493945),
    (2160, 35353374), (2160, 35212804), (2160, 35072234),
    (2160, 34931664), (2160, 34791094), (2160, 34650524),
    (2160, 34509954), (2160, 34369384), (2160, 34228814),
    (2160, 34088244), (2160, 33947674), (2160, 33807104),
    (2160, 33666534), (2160, 33525964), (2160, 33385393),
    (2160, 33244823), (2160, 33104253), (2160, 32963683),
    (2160, 32823113), (2160, 32682543), (2160, 32541973),
    (2187, 32401403), (2187, 32260833), (2187, 32120263),
    (2187, 31979693), (2187, 31839123), (2187, 31698553),
    (2187, 31557982), (2187, 31417412), (2250, 31276842),
    (2250, 31136272), (2250, 30995702), (2250, 30855132),
    (2250, 30714562), (2250, 30573992), (2250, 30433422),
    (2250, 30292852), (2250, 30152282), (2250, 30011712),
    (2250, 29871142), (2250, 29730572), (2250, 29590001),
    (2250, 29449431), (2250, 29308861), (2250, 29168291),
    (2250, 29027721), (2250, 28887151), (2250, 28746581),
    (2250, 28606011), (2304, 28465441), (2304, 28324871),
    (2304, 28184301), (2304, 28043731), (2304, 27903161),
    (2304, 27762590), (2304, 27622020), (2304, 27481450),
    (2304, 27340880), (2304, 27200310), (2304, 27059740),
    (2304, 26919170), (2304, 26778600), (2304, 26638030),
    (2304, 26497460), (2304, 26356890), (2304, 26216320),
    (2304, 26075750), (2304, 25935179), (2400, 25794609),
    (2400, 25654039), (2400, 25513469), (2400, 25372899),
    (2400, 25232329), (2400, 25091759), (2400, 24951189),
    (2400, 24810619), (2400, 24670049), (2400, 24529479),
    (2400, 24388909), (2400, 24248339), (2400, 24107768),
    (2400, 23967198), (2400, 23826628), (2400, 23686058),
    (2400, 23545488), (2400, 23404918), (2400, 23264348),
    (2400, 23123778), (2400, 22983208), (2400, 22842638),
    (2400, 22702068), (2400, 22561498), (2400, 22420928),
    (2400, 22280357), (2400, 22139787), (2400, 21999217),
    (2400, 21858647), (2400, 21718077), (2400, 21577507),
    (2400, 21436937), (2400, 21296367), (2400, 21155797),
    (2400, 21015227), (2400, 20874657), (2400, 20734087),
    (2400, 20593517), (2400, 20452946), (2430, 20312376),
    (2430, 20171806), (2430, 20031236), (2430, 19890666),
    (2430, 19750096), (2430, 19609526), (2430, 19468956),
    (2430, 19328386), (2430, 19187816), (2430, 19047246),
    (2430, 18906676), (2430, 18766106), (2430, 18625535),
    (2430, 18484965), (2430, 18344395), (2500, 18203825),
    (2500, 18063255), (2500, 17922685), (2500, 17782115),
    (2500, 17641545), (2500, 17500975), (2500, 17360405),
    (2500, 17219835), (2500, 17079265), (2500, 16938694),
    (2500, 16798124), (2500, 16657554), (2500, 16516984),
    (2500, 16376414), (2500, 16235844), (2500, 16095274),
    (2500, 15954704), (2500, 15814134), (2500, 15673564),
    (2500, 15532994), (2500, 15392424), (2500, 15251854),
    (2500, 15111283), (2500, 14970713), (2500, 14830143),
    (2500, 14689573), (2500, 14549003), (2500, 14408433),
    (2500, 14267863), (2500, 14127293), (2500, 13986723),
    (2500, 13846153), (2500, 13705583), (2500, 13565013),
    (2500, 13424443), (2500, 13283872), (2500, 13143302),
    (2500, 13002732), (2500, 12862162), (2500, 12721592),
    (2500, 12581022), (2500, 12440452), (2560, 12299882),
    (2560, 12159312), (2560, 12018742), (2560, 11878172),
    (2560, 11737602), (2560, 11597032), (2560, 11456461),
    (2560, 11315891), (2560, 11175321), (2560, 11034751),
    (2560, 10894181), (2560, 10753611), (2560, 10613041),
    (2560, 10472471), (2560, 10331901), (2560, 10191331),
    (2560, 10050761), (2560, 9910191), (2560, 9769620), (2560, 9629050),
    (2560, 9488480), (2560, 9347910), (2560, 9207340), (2560, 9066770),
    (2560, 8926200), (2560, 8785630), (2560, 8645060), (2560, 8504490),
    (2560, 8363920), (2560, 8223350), (2560, 8082780), (2560, 7942209),
    (2560, 7801639), (2560, 7661069), (2560, 7520499), (2560, 7379929),
    (2560, 7239359), (2560, 7098789), (2560, 6958219), (2560, 6817649),
    (2560, 6677079), (2560, 6536509), (2560, 6395939), (2560, 6255369),
    (2560, 6114798), (2560, 5974228), (2560, 5833658), (2560, 5693088),
    (2560, 5552518), (2560, 5411948), (2560, 5271378), (2560, 5130808),
    (2560, 4990238), (2560, 4849668), (2560, 4709098), (2560, 4568528),
    (2560, 4427957), (2560, 4287387), (2560, 4146817), (2560, 4006247),
    (2560, 3865677), (2560, 3725107), (2560, 3584537), (2560, 3443967),
    (2560, 3303397), (2560, 3162827), (2560, 3022257), (2560, 2881687),
    (2560, 2741117), (2560, 2600546), (2560, 2459976), (2560, 2319406),
    (2560, 2178836), (2560, 2038266), (2560, 1897696), (2560, 1757126),
    (2560, 1616556), (2560, 1475986), (2560, 1335416), (2560, 1194846),
    (2560, 1054276), (2560, 913706), (2560, 773135), (2560, 632565),
    (2560, 491995), (2560, 351425), (2560, 210855), (2560, 70285)
  ]

end EarthBins.Gaussian
