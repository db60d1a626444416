import TriggerScript.Unicode.Runs

/-!
# General categories

Every code point has one general category. Some names stand for several categories
together, and three names stand for sets of their own: all code points, the assigned
ones, and those of ASCII.
-/

namespace TriggerScript
namespace Unicode
namespace Category

/-- The categories of all code points. Surrogates have a category without a name. -/
def partition : Partition where
  names :=
    [["cc", "control", "cntrl"], ["cf", "format"], ["cn", "unassigned"],
     ["co", "privateuse"], [], ["ll", "lowercaseletter"], ["lm", "modifierletter"],
     ["lo", "otherletter"], ["lt", "titlecaseletter"], ["lu", "uppercaseletter"],
     ["mc", "spacingmark"], ["me", "enclosingmark"], ["mn", "nonspacingmark"],
     ["nd", "decimalnumber", "digit"], ["nl", "letternumber"], ["no", "othernumber"],
     ["pc", "connectorpunctuation"], ["pd", "dashpunctuation"],
     ["pe", "closepunctuation"], ["pf", "finalpunctuation"],
     ["pi", "initialpunctuation"], ["po", "otherpunctuation"], ["ps", "openpunctuation"],
     ["sc", "currencysymbol"], ["sk", "modifiersymbol"], ["sm", "mathsymbol"],
     ["so", "othersymbol"], ["zl", "lineseparator"], ["zp", "paragraphseparator"],
     ["zs", "spaceseparator"]]
  runs :=
    ["X001T3L1N3L1M1I1L1P1L1H2LAD2L3P2LQ91M1L1I1O1G1OQ51M1P1I1PX101T1L4N1Q1L1O1Q171K1P",
     "111Q1O1Q1P2F1O152L1O1F171J3F1LN91P79O51P8519151915191519151915191519151915191519",
     "15191519151915191519151915191519151915191519151915191519151915191519151925191519",
     "15191519151915191519151925191519151915191519151915191519151915191519151915191519",
     "15191519151915191519151915191519151915291519151935291519152915392549152915393529",
     "15291519151915291519251915291539151915292517193547191815191815191815191519151915",
     "19151915191519151925191519151915191519151915191519151925191815191539151915191519",
     "15191519151915191519151915191519151915191519151915191519151915191519151915191519",
     "15191519151915191519151975291529251915491519151915191519Y5517R5I64OC6EO567O161O1",
     "6HOZGC19151915161O19152216351L19422O191L391219122915H91299X351925393519151915191",
     "519151915191519151915191519151915195519151P19152925XJ9XG519151915191519151915191",
     "5191519151915191519151915191519151915191519151Q5C2B19151915191519151915191519151",
     "91519151915191519151915191519151915191519151915191519151915191519151915191519152",
     "91519151915191519151915192519151915191519151915191519151915191519151915191519151",
     "91519151915191519151915191519151915191519151915191519151915191519151915191519151",
     "9151915191519151915191519151915191519151915191519151915191512X6922166LX951L1H222",
     "Q1N12XDC1H1C1L2C1L2C1L1C82R742472LB2613P2L1N2L2QBC1L113LX0716A7LCAD4L271CZ371L17",
     "7C111Q6C262C1Q4C27AD372Q17EL1211171CU7RC22YP7BC17E2ADX179C261Q3L16221C2NM74C169C",
     "163C165C22FL12P73C221L12B752O71O671221529CX9716OC11X0C1AXM71C1A1C173A8C4A1C2A177",
     "CA72C2LAD1L16F71C2A1287222722M7127712173247221C173A4C222A222A1C17821A422712372C2",
     "2AD272N6F1Q1N171L1C222C1A1267422722M71277122712271227221C123A2C422C223C321C72471",
     "21772AD2C371C1LA22C1A1297123712M7127712271257221C173A5C122C1A122A1C2217F2272C22A",
     "D1L1N72176C121C2A1287222722M7127712271257221C171A1C1A4C222A222A1C722C1A422712372",
     "C22AD1Q176FA21C171267323712473227121712273227323732C7422A1C2A323A123A1C2217621AE",
     "2AD3F6Q1N1Q521C3A1C87123712N712G7221C173C4A123C124C722C1237221722272C22AD721L7F1",
     "Q171C2A1L87123712N712A71257221C171A1C5A121C2A122A2C722A622712272C22AD12271AC22C2",
     "A97123712X972C173A4C123A123A1C171Q42371A7F372C22AD9F1Q67121C2A12I732O71297121722",
     "77321C423A3C121C128A62AD222A1LC2XG71C277C421N67168C1LAD2LX52271217125712O7121712",
     "A71C279C1722571216127C12AD2247X02173QFL1Q1L3Q2C6QADAF1Q1C1Q1C1Q1C1M1I1M1I2A8712X",
     "4742EC1A5C1L2C57BC12X4C128Q1C6Q122Q5L4Q2LX52XB72A4C1A6C1A2C2A2C17AD6L672A2C473C1",
     "73A277A374CD71C2A2C6A1C171AAD3A1C2QX691219521922XB51L1635g97124722771217124722X9",
     "7124722X17124722771217124722F712XP7124722Y37223C9LKF32G7AQ62YM92265221HpC71Q1LH7",
     "1TQ71M1I32YB73L3E8772I73C1A92J72C1A2L92I72CC2D71237122CC2XK72C1A7C8A1C2ABC3L163L",
     "1N171C22AD62AF626L1H4L3C111CAD62X3716XL772572CX271C1752Y67A2V7123C4A2C3A422A1C6A",
     "3C421Q322LADU72257B2XC742Q762AD1F32X2QN72C2A1C222LXL71A1C1A7C121C1A1C2A8C6AAC221",
     "CAD62AD627L166L22EC1BGCXH24C1AXF71C1A5C1A1C5A1C2A87122LAD7LAQ9C9Q3L2C1AU71A4C2A2",
     "C1A3C27ADXC71C1A2C3A1C1A3C2A824LX478A8C2A2C325LAD3237ADU7662L95191552XB922398L82",
     "3C1LDC1A7C471C671C271A2C1752XC5XV6D516X25X56Y0C191519151915191519151915191519151",
     "91519151915191519151915191519151915191519151915191519151915191519151915191519151",
     "91519151915191519151915191519151915191519151915191519151915191519151915191519151",
     "91519151915191519151915191519151915191519151915191519151915191519151915191519151",
     "91519151915191519151915199519151915191519151915191519151915191519151915191519151",
     "91519151915191519151915191519151915191519151915191519151915191519151915191519151",
     "91519151915191519151915191519151915191519151915191519151915199589652269228589858",
     "9652269228512191219121912198589E52285888588858855122549181O153O35122549183O45222",
     "549123O85593O2235122549182O12BT516H2L1K1J1M2K1J1M1K8L1R1S511T9L1K1J4L2G3L1P1M1IB",
     "L1P1L1GAL1T5112A11F16226F3P1M1I16AF3P1M1I12D632X1NF2DC4B1C3BCCF22Q194Q192Q153925",
     "39151Q192Q1P596Q191Q191Q191Q491Q15491547152Q25295P19451Q1P2Q151QGFX3E19154E1F2Q4",
     "25P5Q2P4Q1P2Q1P2Q1P7Q1PVQ2P2Q1P1Q1PVQeCP8Q1M1I1M1IKQ2P7Q1M1IYHQ1PUQPPX8Q6PY8QM2B",
     "QL2XSFYEQMFbNQ1P9Q1PXMQ8PZFQ1PdOQ1M1I1M1I1M1I1M1I1M1I1M1I1M1IUFXCQ5P1M1IVP1M1I1M",
     "1I1M1I1M1I1M1IGPe0Qa3P1M1I1M1I1M1I1M1I1M1I1M1I1M1I1M1I1M1I1M1I1M1IXVP1M1I1M1IX0P",
     "1M1Ie2PXGQLP2Q6PX7Q22X0Q12Z9QXG9XG5191539251915191519154915192519652639151915191",
     "51915191519151915191519151915191519151915191519151915191519151915191519151915191",
     "51915191519151915191519151915191519151915191519151915191519151915191519151915191",
     "519151915191519151915191519256Q191519153C1915524L1F2LX651215521522XO772161LE21CN",
     "79277127712771277127712771277127712X0C2L1K1J1K1J3L1K1J1L1K1J9L1H2L1H1L1K1J2L1K1J",
     "1M1I1M1I1M1I1M1I5L16AL2H4L1H1L1MDL2Q3L1M1I1M1I1M1I1M1I1HX22QQ12YPQC2cMQQ2GQ1T3L1",
     "Q16171E1M1I1M1I1M1I1M1I1M1I2Q1M1I1M1I1M1I1M1I1H1M2I1Q9E4C2A1H562Q3E16171L2Q12YM7",
     "222C2O26171HYQ71L361752XB712YU7122Q4FAQX07X6Q921QG7VQ12AFUQ8F1QFFX0QAFX7QFFg0Qck",
     "07Y0QqmL716XZN732XNQ92X87662LeC7163LG7AD27K2191519151915191519151915191519151915",
     "19151915191519151915191519151915191519151915191519151915171C3B1LAC1L161915191519",
     "1519151915191519151915191519151915191519151915262CY67AE2C6L82NO962O1915191519151",
     "91519151915193519151915191519151915191519151915191519151915191519151915191519151",
     "91519151915191519151915191519151915191519151915191519151915168519151915291519151",
     "91519151915162O19151915171915193519151915191519151915191519151915191519155915591",
     "519151915191519151915191519154915191529152219151215121519151915191519L2361915172",
     "615771C371C471CN72A2C1A4Q1C326F2Q1N1Q62XK74L822AXI7GA2C822LAD62IC673L171L271CADS",
     "78C2LN7BC2AB21LT7323C1AXF71C2A4C2A2C3ADL1216AD422L571C1697AD5712X976C2A2C2A2C923",
     "71C871C1A22AD224LG716673Q171A1C1AXI71C173C272C572C171C17O227162LB71A2C2A2L17261A",
     "1CA267226722679277127712XB51O4695162O42YG5X372A1C2A1C2A1L1A1C22AD62gz47C2N742XH7",
     "42YW04ce03hE722ZA7X6275C25552171CA71PD7125712171227122712ZC7HOG2hB71I1MGQY0722XM",
     "7721QX02C71N3QGC7L1M1I1L62GC1L2H2G1M1I1M1I1M1I1M1I1M1I1M1I1M1I1M1I2L1M1I4L3G3L12",
     "4L1H1M1I1M1I1M1I3L1P1H3P121L1N2L425712a772211123L1N3L1M1I1L1P1L1H2LAD2L3P2LQ91M1",
     "L1I1O1G1OQ51M1P1I1P1M1I1L1M1I2LA716XD726V73267226722672237322N1P1O1Q2N121Q4P2QA2",
     "312Q22C712Q712J7122712F722E7X22ZR7523L42XDF329QXLE4FHQ2F3Q12DQ321QXF2XDQ1Ca22T73",
     "2XH7F21CRF42X074F92K71E871E52X675C52U7121LX4742871L5EXA2X89X85YE722AD62X4942X454",
     "2X8782XK7B21LB912F91279122912B512F51275122532XK7C2fN792M7A287O26612XA61296Y52672",
     "21712XC71227321722N7121L8FN72Q7FV7829FXG2J71227525FM76F321LQ7521LY02XO7422F27GF2",
     "2XEF173C122C524C47123712T7223C421C9F729L72T72F1LT73FX02871QS72C425F7L92XM7327LM7",
     "228FJ7528FI7724LC27FYG2Y97XN2XJ9D2XJ5726FX474C82AD62AD471617M9325C1H16M5822PcG2V",
     "F12XA7122C1H2227G237XN24CT7AF1782M7BC4F5LM2I74C4LX62L77FK2N7921A1C1AXL7FC7L42KFA",
     "D1C272C17923C1AXD73A4C2A2C2L114L1CA21122P772AD623CX475C1A8C12AD4L172A1782X371C2L",
     "17922C1AXG73A9C2A474L4C1L1A1CAD171L173L12KFB2I712P73A3C2A1C1A2C6L1C271CXU2771217",
     "124712F712A71L62XF71C3A8C52AD622C2A1287222722M7127712271257122C172A1C4A222A223A2",
     "217621A52572A227C325CB2A71217221712X6712173A6C121A221A124A122A1C1A1C171C172L122L",
     "822CT2XL73A8C2A3C1A1C475LAD2L121L1C37U2XG73A6C1A1C4A2C1A2C271L1782ADb62XF73A4C22",
     "4A2C1A2CNL472CX22XG73A8C2A1C1A2C3L17B2AD62DLJ2XB71C1A1C2A6C1A1C171L62AD62KDS2R72",
     "21C1A1C2A4C1A5C42AD2F3L1Q77bP2XC73A9C1A2C1LZ42X09X05AD9FC28722172287122712O76A12",
     "2A222C1A1C171A171A1C3L92ADY628722X773A4C222C4A1C171L171AR217ACX876C1A174C8L1C821",
     "76C2A3CXE7DC1A2C3L175LD2Y9772ALbM2X171LE2AD629712X571A7C126C1A1C175LA2ADJF322LU7",
     "22MC121A7C1A2C1A2CY9277122712X676C321C122C127C171C82AD6267122712X075A122C122A1C1",
     "A1C1772ADfM2J72C2A2L722C171AD712X272A5C322A1C1A1CDLAD1CYL217F2LF8Q4NHQD21LyQ7Z62",
     "ZFE125LB2c47YoC2Z172LD2XXG7G11C67FCA2ZyR752o77crP2U7CC3A3CADXs62nP772V712AD422LY",
     "F712AD62U7225C1LA2XG77C5L4Q461L1QA2AD127F12L752J7jG236X87263LADc62X09X05NF4LZ52Y",
     "B7421C17XNA724CD6Y02261L161CB22AE2b+O782XcM7X92A7et72461276122612f37F217T2372217",
     "E24782iC7Ye42ZB752D7329772A7221Q2C1L41ZwS2dGQAD62jKQYC2XEC22NC92ZKQXS2dMQA2X7Q22",
     "XSQ2A3C3Q6A818C2Q7CUQ4CXTQL2Y2Q3C1QZQ2KFC2KFC2YNQ92PFa72Q9Q5Q97512I5Q9Q519122922",
     "19222922491289451215127512B5Q9Q52912492289127912Q529124912591219327912Q5Q9Q5Q9Q5",
     "Q9Q5Q9Q5Q9Q5Q9S522P91PP51P65P91PP51P65P91PP51P65P91PP51P65P91PP51P65191522XIDm0Q",
     "XNC4QXIC8Q1CEQ1C2Q5LF25C12FCXYG2A517K56265cL27C12HC227C122C125C52XU6X121CZG2XD73",
     "27C7622AD42171Qg02U71CH2XC74CAD521NkG2R7164CADcM2U72C17AD421Ll02771247122712F712",
     "c57229F7CX92X29X257C1642AD422LuH2XRF1Q3F1N4FYC2XDF1QFFc224712R712271217221712A71",
     "24712171217621742171217121712371227121722171217121712171217122712172247127712471",
     "247121712A712H75237125712H7XK22PeE2XCQ42Z4QC2FQ22FQ12FQ12X5QA2DFb1QXO2TQD2XCQ429",
     "Q722QE26QaQ2dRQ5OsOQ42HQ32DQ32ZNQ42YVQ62CQ421QF2CQ42XOQ82AQ62X8Q82UQ22CQ422QXU2g",
     "KQC2EQ22DQ32AQ52XOQ72FQ22BQ629Q72aJQ12YSQADXW62Xft07X02aXQ762cU722bq27E2dfH7F2pE",
     "7Yj22mU7Xl22awB752aZ07rtYH211U2Z01a02dGCX+mG2X++U322X++U322"]

/-- The names of several categories together, each with its categories. -/
def groups : List (List String × List String) :=
    [(["c", "other"], ["cc", "cf", "cn", "co"]),
     (["l", "letter"], ["ll", "lm", "lo", "lt", "lu"]),
     (["lc", "casedletter"], ["ll", "lt", "lu"]),
     (["m", "mark", "combiningmark"], ["mc", "me", "mn"]),
     (["n", "number"], ["nd", "nl", "no"]),
     (["p", "punctuation", "punct"], ["pc", "pd", "pe", "pf", "pi", "po", "ps"]),
     (["s", "symbol"], ["sc", "sk", "sm", "so"]),
     (["z", "separator"], ["zl", "zp", "zs"])]

/-- The code points of the categories with the given names. -/
def codePoints
    (names : List String) : CodePointSet :=
  partition.codePoints names

def named?
    (name : String) : Option CodePointSet :=
  if name = "any" then
    some CodePointSet.univ
  else if name = "ascii" then
    some CodePointSet.ascii
  else if name = "assigned" then
    some (codePoints ["cn"]).compl
  else
    match groups.find? fun g => g.1.contains name with
    | some g => some (codePoints g.2)
    | none => partition.named? name

end Category
end Unicode
end TriggerScript
