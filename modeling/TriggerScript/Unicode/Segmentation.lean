import TriggerScript.Unicode.Runs

/-!
# Segmentation of texts

Texts are cut into grapheme clusters, words and sentences by classes of code points. Code
points that play no part of their own have a class without a name.
-/

namespace TriggerScript
namespace Unicode
namespace Segmentation

def graphemes : Partition where
  names :=
    [[], ["cr"], ["control", "cn"], ["extend", "ex"], ["l"], ["lf"], ["lv"], ["lvt"],
     ["prepend", "pp"], ["regionalindicator", "ri"], ["spacingmark", "sm"], ["t"], ["v"],
     ["zwj"]]
  runs :=
    ["A2152211I2YV0X12D012oI0ZG3eJ073e70XD31013102310231013XO068A0B31012XE0L3G013Z5073",
     "18106320231043X10181013U0R3YR0B3XQ0939013O043109310331053XB033XK0285093XA0O318X0",
     "31AXM0131A13103A834A132A1073A023T0132AXO01310132A43202A202A139013A023Q01320231AX",
     "O013103A23402320333013U0233013B0231AXO013103A5310231A102A13K023M06310132AXO01310",
     "231A43202A202A137033A023U013XR0131A132A303A103A139013X80133A13XN01310334A1033104",
     "37023B023T0132AXO013101A231A132A103310437023B023F01AC0232AXN02310132A43103A103A1",
     "3188013A023T0132AY601340132A331013107A13I02AXT013101A73C083Z2013101A93B073Y9023R",
     "01310131013402AXH0E31A53102350B310X439013Z60431A6310232A23N02A234033G043D013101A",
     "236013F013Z20Z04Y8CYOBgT033zI043S033T023U023Y00231A738A132AB39013XD0331213ZL023X",
     "2013ZM0334A233A402A136A33cR0232A13XP01A131A731013101320836AA32013XG0V3XH0431AXF0",
     "A34A33X6093C0231AU01A432A63XO0131A233A131A53XG08A832A23aO03310D31A7340136013201A",
     "23c60Y03mB012131D22O072XH0G2Z00X13Y+U033aD013Z00X03nA063Z9023zkK04310A3X0023YG02",
     "3eG01330134013N02A231A4013YJ02AXI0GA23Q0I3D013X6083P0B31A13C0T430331AXF0132A432A",
     "232A13X4013Y30632A232A23C01380131AXE013XJ0131033202350231013X901A232A501A13dC02A",
     "132A132A101A13I016R716R716R716R716R716R716R716R716R716R716R716R716R716R716R716R7",
     "16R716R716R716R716R716R716R716R716R716R716R716R716R716R716R716R716R716R716R716R7",
     "16R716R716R716R716R716R716R716R716R716R716R716R716R716R716R716R716R716R716R716R7",
     "16R716R716R716R716R716R716R716R716R716R716R716R716R716R716R716R716R716R716R716R7",
     "16R716R716R716R716R716R716R716R716R716R716R716R716R716R716R716R716R716R716R716R7",
     "16R716R716R716R716R716R716R716R716R716R716R716R716R716R716R716R716R716R716R716R7",
     "16R716R716R716R716R716R716R716R716R716R716R716R716R716R716R716R716R716R716R716R7",
     "16R716R716R716R716R716R716R716R716R716R716R716R716R716R716R716R716R716R716R716R7",
     "16R716R716R716R716R716R716R716R716R716R716R716R716R716R716R716R716R716R716R716R7",
     "16R716R716R716R716R716R716R716R716R716R716R716R716R716R716R716R716R716R716R716R7",
     "16R716R716R716R716R716R716R716R716R716R716R716R716R716R716R716R716R716R716R716R7",
     "16R716R716R716R716R716R716R716R716R716R716R716R716R716R716R716R716R716R716R716R7",
     "16R716R716R716R716R716R716R716R716R716R716R716R716R716R716R716R716R716R716R716R7",
     "16R716R716R716R716R716R716R716R716R716R716R716R716R716R716R716R716R716R716R716R7",
     "16R716R716R716R716R716R716R716R716R716R716R716R716R716R716R716R716R716R716R716R7",
     "16R716R716R716R716R716R716R716R716R716R716R716R716R716R716R716R716R716R716R716R7",
     "16R716R716R716R716R716R716R716R716R716R716R716R716R716R716R716R716R716R716R716R7",
     "16R716R716R716R716R716R716R716R716R716R716R716R716R716R716R716R716R716R716R716R7",
     "16R716R716R716R716R716R716R716R716R716R716R716R716R716R716R716R716R716R716R716R7",
     "16R716R716R716R716R716R716R716R716R716R716R716R716R716R716R716R716R716R716R716R7",
     "16R716R716R7C0NC40XHBev2013t10G3G0G3cF012aU023YG0C2m1013d2013aL053Xq603310235043",
     "X80334013b5023nT043Y1053fT023YF043Y60B3XH043ZQ01A131AXL0F3X90132023A0331AXD03A43",
     "2A2320184013A018XI033X40531A83G02AXC013C0231AXG03A931A1310285043101A13YS03A332A4",
     "360132013aT0133A83L0232AXN02310131A134A202A202A139013A02A20733053Y30132A63101320",
     "1310331A102A331813E023YI03A832A331A13N013YH0132A631A132A131A231A23dB0132A43204A2",
     "31A23R023YI03A832A131A23ZA0131A132A83Z50131A1320431A53e003A931A23dL0135A102A2043",
     "181A181A13aD03A4320234A13301AS0A3X80631A1843801390632A33X8068D31A23iL01A7310631A",
     "13YI0M3101A731A231A23ZQ0633013102310731813Y205A1023102A131A13gR0232A9023181AXG02",
     "A53302A33N013bcL0G21360F3hc80C33A33Yk0053XR073nC01C304Cl401310XNA7043YH013B023pb",
     "B0231042aoS0XE320N3mU053306382832073U043aK033XzR0XN340XI38013E013M05310F3XgG0731",
     "0H3207310231053Z4013b0073hN013XT043lS043dU023t0073ZD073YaR0Q9lR053uZW00X02Z03a02",
     "dG3ZmG2byW00"]

def words : Partition where
  names :=
    [[], ["aletter", "le"], ["cr"], ["doublequote", "dq"], ["extend"],
     ["extendnumlet", "ex"], ["format", "fo"], ["hebrewletter", "hl"],
     ["katakana", "ka"], ["lf"], ["midletter", "ml"], ["midnum", "mn"],
     ["midnumlet", "mb"], ["newline", "nl"], ["numeric", "nu"],
     ["regionalindicator", "ri"], ["singlequote", "sq"], ["wsegspace"], ["zwj"]]
  runs :=
    ["A0192D12I01H1013401G401B101C10AE1A1B50Q1401510Q1A01DX401120167011101A201150N110V",
     "110l0160X21ZG451102120411B1160111A31101110K110YJ110aB11074b6110X61204110111AX911",
     "B1160XD4101410241024101480R74047111AB06E602B20B4101630XB1L4AE101E1B102114Z311011",
     "741E10642124104421AE312011F02114U1R420YP1B411E0AEX119421201B1011201420M144119411",
     "341154I0P13440B150O11061102E5094XA1O41EX14XM13411I41174A12420AE10G1341081202120M",
     "11071101130412014117420242034118014402110312420AE21A011101420341061402120M110711",
     "02110211021201410544024203430147041101170AE243114B0341091103110M1107110211051201",
     "41184103410342011F0212420AE90116410341081202120M11071102110512014117420242034703",
     "4402110312420AE1011G014111061303110413021101110213021303130C14054303410442011601",
     "4E0AEG05481103110N110G1201411741034104470241031201120212420AEG011341081103110N11",
     "0A1105120141174103410447024602110212420AE102114C04491103110X91241174103410441150",
     "311470312420AEA061103410I130O1109110112071301440641014108460AE2024XT0142074C0841",
     "0AEYN0142094B07410AEX6011N02460AEB0141014101440248110X4140K4102451B410X449014Z40",
     "K410AEC0444034103420743044D0C41014AE4420X611011501120XB110gD1104120711011104120X",
     "91104120X11104120711011104120F110XP1104120Y312034X00G1G0YM1206130pC120H11HQ150YB",
     "130B170I14490J134B0I124C0D110311024Y00X04901420AEX10341614AE60YP1705124X21141150",
     "Y61A0V110C440C4A0AEa00AEX60N154XP0A410T42014AE60AEM0V4XH054XF1H48130AEH094C034U1",
     "D421AEXC1E4C0X41K480AE3031AEX4120B150XB12031G03410L44114611421341150c01Y04eM1206",
     "120X612061208110111011101110V120XL110711011303110713041206140D150311071307H103H1",
     "0141I26802CA01C201A2D5615F025301BF015A01H5610A61011D011G0D1XJ0X14H011401120A1101",
     "13051601110111011104110B1204150514011H0X91vD0XK1XuM0d5160413421C0X611011501120XO",
     "17011F014N19071107110711071107110711071107110X04XF011kG01H4011X406410585021YS024",
     "2830YR8104850XB110YU1H0X01XG0G8cG0XF810YO8xb80XaD1Y30XE120eD130G1AE21K0XF14410A4",
     "10V124YG124M0c61202110111081L0G11431144114N1544014J0XK1C024XI1I4A0AE60I461301110",
     "2114AES18420N1D4C0T13044XF1E4E011AEB014A0AE60X91E4903114812420AEX1034XI014103420",
     "2450241014U0B154203124A061206120619071107110XQ160ZJ184102420AE60gz41C0N140XH1eu4",
     "071C051501714A710D7105710171027102710A7Z21X10hB1I0Y0120XM1X80C140G41B201A1BB0G43",
     "025O0351B101C101B1AQ05110a712016701C401B101C10AE1A1B50Q1401510Q1B0XO824V13061206",
     "120612031S03640C110Q110J1102110F120E1X20ZR1Y50XL1a8014a20T130XH1F014V0X01D0U150X",
     "615450U120X4140811051XA0aU120AE60X4140X4140X8180XK1C0B110F11071102110B110F110711",
     "02130XK1C0fN190M1A081O06110XA11091Y5061201110XC11021301120N1A0N190V1Y10J11021A0M",
     "1A0Q1Y60XO16021Y0011341024504441103110T120344014X00T130T1X308110S124P0XM1A0M1A0J",
     "1D0I1ZE0Y91XN0XJ1D0XJ1D0X414480AE60AES1305410N1dQ0XA110243021G031XN044T1A01180M1",
     "B4V0I144XA0L1R0N19034XL1F4V0AE142124119044XD1B4201E4014A01E20P170AE6034X41E410AE",
     "4011241180X311420119034XG1E44140441024AE111011X30I110P1C460142114XU0711011104110",
     "F110A170XF1C450AE60441081202120M110711021105110241174202420342011601450512420743",
     "054B0A11011201110X611011941014201410441054111411D024T0XL1I44150AE401431U0XG1K421",
     "101180AEb60XF1742094N04124X20XG1H43011B0AEX60XB1D41170AE60KEXP0F440AEc60XC1F4Z50",
     "Y01AEL08120112081102110O1641024204411141124C0AEY608120X7174207411101114R011A4X81",
     "74114480148011B4XE1G43011I0Y91c70X11F0AE609110X5184108411F0AEO0U120M410E4Y907110",
     "2110X6164301410241074111480AE6061102110X0154102410541170AEfM0J14490241114D110X21",
     "743054D0AE14YL011YF0yQ1Z60ZF1H0c41YoC0Z11F0XXG1G61461F4A0ZyR150o71crP0U1I4AEXs60",
     "nP170V110AE60YF110AE60U12054B0XG1749041C0AE90L150J1jG0XD130AEc60Y01a00YB1401411X",
     "N47044D1Y0021101114B024l+U048107810281018eV038XI018E048YqO0ZB150D1309170A1302410",
     "46aYC0AEm60XE420N4mU054306486842074U044aK034jR0YL110Y71102120112021204110C110111",
     "07110Y1110412081107110S1104110511011307110gK120P110P110V110P110V110P110V110P110V",
     "110P1108120XIEm00XN440XI48014E014M05410F4XYG0V16061cL07410H420741024105450XU1X10",
     "14ZG0XD130747120AE4011g10U114H0XC144AEkM0S144AEcM0U12411AEl50711041102110F110c51",
     "B074X90Y41741140AEXb604110R110211011201110A1104110111011601140111011101110311021",
     "101120111011101110111011102110112041107110411041101110A110H15031105110H1pK0Q160Q",
     "160Q1YS0QFlR054X+G0AEuXW7016U0Z04a00dG4b+mG0"]

def sentences : Partition where
  names :=
    [[], ["aterm", "at"], ["cr"], ["close", "cl"], ["extend", "ex"], ["format", "fo"],
     ["lf"], ["lower", "lo"], ["numeric", "nu"], ["oletter", "le"], ["scontinue", "sc"],
     ["sterm", "st"], ["sep", "se"], ["sp"], ["upper", "up"]]
  runs :=
    ["901D162D12I01D1B134033202A1110A81A401B10QE13101330Q7131013701CQ01D90171310157017",
     "40171340NE107EO710871E171E171E171E171E171E171E171E171E171E171E171E171E171E171E17",
     "1E171E171E171E171E171E171E171E171E171E171E171E171E271E171E171E171E171E171E171E17",
     "1E271E171E171E171E171E171E171E171E171E171E171E171E171E171E171E171E171E171E171E17",
     "1E171E171E171E172E171E171E372E171E172E173E274E172E173E372E172E171E171E172E171E27",
     "1E172E173E171E172E27191E37492E172E172E171E171E171E171E171E171E171E171E271E171E17",
     "1E171E171E171E171E171E171E272E171E173E171E171E171E171E171E171E171E171E171E171E17",
     "1E171E171E171E171E171E171E171E171E171E171E171E171E171E171E171E171E171E171E772E17",
     "2E271E174E171E171E171E171EY5719X47792740C9E05770191019H0ZG41E171E1719101E1720471",
     "01E601E103E101E102E17HE109EX371E273E371E171E171E171E171E171E171E171E171E171E171E",
     "171E571E17101E172E27XJEXG71E171E171E171E171E171E171E171E171E171E171E171E171E171E",
     "171E171E171E1710741E171E171E171E171E171E171E171E171E171E171E171E171E171E171E171E",
     "171E171E171E171E171E171E171E171E171E171E171E172E171E171E171E171E171E171E271E171E",
     "171E171E171E171E171E171E171E171E171E171E171E171E171E171E171E171E171E171E171E171E",
     "171E171E171E171E171E171E171E171E171E171E171E171E171E171E171E171E171E171E171E171E",
     "171E171E171E171E171E171E1710X6E2019301A20X971B70XD4101410241024101480R94059C0686",
     "02A20B410153BXB9L4A81028102914Z391B19741810642924104429A83920193BC02914U9R420YP9",
     "B419E0A8X199429201A1B19201420M944199419341954901B101B302B10P93440B950O9106910285",
     "094XA9O418X14XM93419I41974A9242BA810G9341089202920M91079101930492014197420242034",
     "198014402910392420A829A019101420341069402920M91079102910291029201410544024203430",
     "147049101970A8243914B0341099103910M910791029105920141984103410342019F0292420A890",
     "196410341089202920M910791029105920141974202420347034402910392420A81019G014191069",
     "303910493029101910293029303930C940543034104420196014E0A8G05489103910N910G9201419",
     "741034104470241039201920292420A8G019341089103910N910A910592014197410341044702460",
     "2910292420A8102914C04499103910X99241974103410441950391470392420A8A069103410I930O",
     "9109910192079301440641014108460A82024D0XG914297450798410A8X70291019105910O910191",
     "0A91429941920591019107410A82049X0019N02460A8B0141014101443248910X4940K4102459B41",
     "0X449014XP0XB9K419A82B4069444934193429743944D9C41914A84420X6E101E501E20XB91017gC",
     "9104920791019104920X99104920X19104920791019104920F910XP9104920Y392034201B402BN0G",
     "9G0YME206730pC9101BH91DQ92330YB930B970I94490J9342B90I924C0D910391024C0XK9X042B10",
     "1940191420A8O01A1B401A1B10341514A860YP9705924X29141950Y69A0V910C440C4802BA8U9205",
     "9B0XC940Q960A8X60N95440XL9A410T42014A860A8D0194B40V4XH054XF9H489102BA82B202BB094",
     "903B34U9D429A8XC9E4C0X49K4302B30A83039A8X492B971E1750XB92039G03410L4491469142934",
     "1950c07Y041E171E171E171E171E171E171E171E171E171E171E171E171E171E171E171E171E171E",
     "171E171E171E171E171E171E171E171E171E171E171E171E171E171E171E171E171E171E171E171E",
     "171E171E171E171E171E171E171E171E171E171E171E171E171E171E171E171E171E171E171E171E",
     "171E171E171E171E171E171E171E171E171E171E171E171E171E171E171E171E171E971E171E171E",
     "171E171E171E171E171E171E171E171E171E171E171E171E171E171E171E171E171E171E171E171E",
     "171E171E171E171E171E171E171E171E171E171E171E171E171E171E171E171E171E171E171E171E",
     "171E171E171E171E171E171E978E67206E20878E878E67206E2087101E101E101E101E878EE72087",
     "8E878E878E5710275E1017303710275E304720274E40875E503710275E30BD152425302A30834011",
     "302C551D9023102B70233BL01D5510A51017B02317D02310D7XJ0X14H01E401E20173E273E17101E",
     "305E601E101E101E104E10174E17491720272E501E474017H0GEG7391E1749hV043T023iB0QEQ7pH",
     "06370E3YF023V0A3iJ0M3XV043X0023m20XGEXG71E173E271E171E171E174E171E271E873E171E17",
     "1E171E171E171E171E171E171E171E171E171E171E171E171E171E171E171E171E171E171E171E17",
     "1E171E171E171E171E171E171E171E171E171E171E171E171E171E171E171E171E171E171E171E17",
     "1E171E171E171E171E171E171E171E27601E171E17341E17503B40X671017501720XO97019F014N9",
     "9079107910791079107910791079107910X04E3E02320A3401B19C01B5013G02B83j301D1A1B2039",
     "A3208310331099641059205940YM92024203910YQ9104950XB910YU9H0X09XG0G9m00ck09Y00rqD9",
     "Y30XE9101BeD9102BG9A829K01E171E171E171E171E171E171E171E171E171E171E171E171E171E1",
     "71E171E171E171E171E171E171E171E171E17194410A410191E171E171E171E171E171E171E171E1",
     "71E171E171E171E171E171E3724YG924101B301BV099201E171E171E171E171E171E171E371E171E",
     "171E171E171E171E171E171E171E171E171E171E171E171E171E171E171E171E171E171E171E171E",
     "171E171E171E171E171E171E171E171E171EA71E171E172E171E171E171E171E1719201E171E1719",
     "1E171E371E171E171E171E171E171E171E171E171E171E175E175E171E171E171E171E171E171E17",
     "1E174E171E172E17201E17101710171E171E171E171EL0371E171937791439144914N9544014J0XK",
     "9202B8024XI9I4802BA860I4693019102914A8S984101BN9D4C0T93044XF9E4702B5019A8605914A",
     "9A85910X99E4903914892420A8303BN9301934XI914193429245924191419O03920B9542B3924A06",
     "9206920699079107910XB710E760YG7X39841B2420A860gz49C0N940XH9ee40hE920ZA9X6077C057",
     "501914A910D9105910191029102910ZC9X10hB923G0Y0920XM9X80C940G42A1B1A102B2370G4102A",
     "20G32023702A11201A2B1A63401AC05910a792015101B6023202A1110A81A401B10QE13101330Q71",
     "3101310231B231A10XO924V93069206920692039S03540C910Q910J9102910F920E9X20ZR9Y50XL9",
     "a8014a20T930XH9F014V0X09D0U950X695450U920X4940891059XA0X8EX87YE920A860X4E40X4740",
     "X8980XK9C0BE10FE107E102E10B710F71077102730XK9C0fN990M9A089O017293710XA71097Y5069",
     "201910XC91029301920N9A0N990V9Y10J91029A0M9A0Q9Y60XO96029Y0019341024504449103910T",
     "920344014M02B80T930T9X308910S924P0XM9A0M9A0J9D0I9ZE0Y99XN0XJED0XJ7D0X494480A860A",
     "869ME30541019M7dQ0XA910243029G039XN044T9A01980M9B4405BM0I9444BX60L9R0N99034XL9F4",
     "2BT0A8142924199044XD9B420184B14A01820P970A86034X49E410A8103B19241980X39142019903",
     "4XG9E4492B20441B24A8191019102BX00I910P9C42B102B10142914XU0791019104910F910A91B60",
     "XF9C450A860441089202920M910791029105910241974202420342019601450592420743054B0A91",
     "019201910X6910199410142014104410541914192BB024T0XL9I4492B30A8401439U0XG9K4291019",
     "80A8b60XF9742094102B50FB4924X20XG9H42B1019B0A8X60XB9D41970A860K8S0R920F440A8203B",
     "1079bP0XC9F4Z50X0EX07A8L08920192089102910O96410242044191419241B101B90A8Y608920X7",
     "974207419101914R019A4X89741944302B30148019B4XE9G4102B19I0Y99c70X19F0A8609910X598",
     "41084192BD0A8O0U920M410E4Y9079102910X6964301410241074191480A86069102910X09541024",
     "10541970A8fM0J9442B70241914D910X297430542BB0A814YL019YF0yQ9Z60ZF9H0c49YoC0Z19F0X",
     "XG9G51469F4A0ZyR950o79crP0U9I4A8Xs60nP970V910A8402BYF910A860U920541BA0XG9742B704",
     "91BB0A890L950J9jG0XD9102BA8c60X0EX07O01BZ70YB9401419XN47044D9Y0029101914B024E0b+",
     "O980XcM9X90A9et70491079102910f39F019T0392019E04980iC9Ye40ZB950D9309970A930241B45",
     "aYC0A8m60XE420N4mU054306485842074U044aK034jR0QEQ7QE7710I7QEQ71E102E201E202E204E1",
     "08E471017107710B7QEQ72E104E208E107E10Q72E104E105E101E307E10Q7QEQ7QEQ7QEQ7QEQ7QEQ",
     "7QES720PE10P71067PE10P71067PE10P71067PE10P71067PE10P710671E1720XI8m00XN440XI4801",
     "4E014301BI05410F4XYG0A719K76067cL07410H420741024105450XU7X1014ZG0XD930747920A840",
     "19g10U914H0XC944A8kM0S944A8cM0U92419A8l50791049102910F910c59B074X90X2EX27741940A",
     "8Xb604910R910291019201910A910491019101960194019101910191039102910192019101910191",
     "0191019102910192049107910491049101910A910H95039105910H9pK0QE60QE60QEXdC033XhN0A8",
     "XW60Xft09X00aXQ960cU920bq29E0dfH9F0pE9Yj20mU9Xl20awB950aZ09rtYH015U0Z04a00dG4b+m",
     "G0"]

end Segmentation
end Unicode
end TriggerScript
