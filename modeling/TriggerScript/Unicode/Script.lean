import TriggerScript.Unicode.Runs

/-!
# Scripts

Every code point belongs to one script. Some code points are also used in other scripts;
the extended class of a script holds all code points that are used in it.
-/

namespace TriggerScript
namespace Unicode
namespace Script

/-- The scripts of all code points. The script of
code points without a character has no name. -/
def partition : Partition where
  names :=
    [[], ["adlm", "adlam"], ["ahom"], ["hluw", "anatolianhieroglyphs"],
     ["arab", "arabic"], ["armn", "armenian"], ["avst", "avestan"], ["bali", "balinese"],
     ["bamu", "bamum"], ["bass", "bassavah"], ["batk", "batak"], ["beng", "bengali"],
     ["bhks", "bhaiksuki"], ["bopo", "bopomofo"], ["brah", "brahmi"],
     ["brai", "braille"], ["bugi", "buginese"], ["buhd", "buhid"],
     ["cans", "canadianaboriginal"], ["cari", "carian"], ["aghb", "caucasianalbanian"],
     ["cakm", "chakma"], ["cham"], ["cher", "cherokee"], ["chrs", "chorasmian"],
     ["zyyy", "common"], ["copt", "coptic", "qaac"], ["xsux", "cuneiform"],
     ["cprt", "cypriot"], ["cpmn", "cyprominoan"], ["cyrl", "cyrillic"],
     ["dsrt", "deseret"], ["deva", "devanagari"], ["diak", "divesakuru"],
     ["dogr", "dogra"], ["dupl", "duployan"], ["egyp", "egyptianhieroglyphs"],
     ["elba", "elbasan"], ["elym", "elymaic"], ["ethi", "ethiopic"], ["gara", "garay"],
     ["geor", "georgian"], ["glag", "glagolitic"], ["goth", "gothic"],
     ["gran", "grantha"], ["grek", "greek"], ["gujr", "gujarati"],
     ["gong", "gunjalagondi"], ["guru", "gurmukhi"], ["gukh", "gurungkhema"],
     ["hani", "han"], ["hang", "hangul"], ["rohg", "hanifirohingya"],
     ["hano", "hanunoo"], ["hatr", "hatran"], ["hebr", "hebrew"], ["hira", "hiragana"],
     ["armi", "imperialaramaic"], ["zinh", "inherited", "qaai"],
     ["phli", "inscriptionalpahlavi"], ["prti", "inscriptionalparthian"],
     ["java", "javanese"], ["kthi", "kaithi"], ["knda", "kannada"], ["kana", "katakana"],
     ["kawi"], ["kali", "kayahli"], ["khar", "kharoshthi"],
     ["kits", "khitansmallscript"], ["khmr", "khmer"], ["khoj", "khojki"],
     ["sind", "khudawadi"], ["krai", "kiratrai"], ["laoo", "lao"], ["latn", "latin"],
     ["lepc", "lepcha"], ["limb", "limbu"], ["lina", "lineara"], ["linb", "linearb"],
     ["lisu"], ["lyci", "lycian"], ["lydi", "lydian"], ["mahj", "mahajani"],
     ["maka", "makasar"], ["mlym", "malayalam"], ["mand", "mandaic"],
     ["mani", "manichaean"], ["marc", "marchen"], ["gonm", "masaramgondi"],
     ["medf", "medefaidrin"], ["mtei", "meeteimayek"], ["mend", "mendekikakui"],
     ["merc", "meroiticcursive"], ["mero", "meroitichieroglyphs"], ["plrd", "miao"],
     ["modi"], ["mong", "mongolian"], ["mroo", "mro"], ["mult", "multani"],
     ["mymr", "myanmar"], ["nbat", "nabataean"], ["nagm", "nagmundari"],
     ["nand", "nandinagari"], ["talu", "newtailue"], ["newa"], ["nkoo", "nko"],
     ["nshu", "nushu"], ["hmnp", "nyiakengpuachuehmong"], ["ogam", "ogham"],
     ["olck", "olchiki"], ["onao", "olonal"], ["hung", "oldhungarian"],
     ["ital", "olditalic"], ["narb", "oldnortharabian"], ["perm", "oldpermic"],
     ["xpeo", "oldpersian"], ["sogo", "oldsogdian"], ["sarb", "oldsoutharabian"],
     ["orkh", "oldturkic"], ["ougr", "olduyghur"], ["orya", "oriya"], ["osge", "osage"],
     ["osma", "osmanya"], ["hmng", "pahawhhmong"], ["palm", "palmyrene"],
     ["pauc", "paucinhau"], ["phag", "phagspa"], ["phnx", "phoenician"],
     ["phlp", "psalterpahlavi"], ["rjng", "rejang"], ["runr", "runic"],
     ["samr", "samaritan"], ["saur", "saurashtra"], ["shrd", "sharada"],
     ["shaw", "shavian"], ["sidd", "siddham"], ["sgnw", "signwriting"],
     ["sinh", "sinhala"], ["sogd", "sogdian"], ["sora", "sorasompeng"],
     ["soyo", "soyombo"], ["sund", "sundanese"], ["sunu", "sunuwar"],
     ["sylo", "sylotinagri"], ["syrc", "syriac"], ["tglg", "tagalog"],
     ["tagb", "tagbanwa"], ["tale", "taile"], ["lana", "taitham"], ["tavt", "taiviet"],
     ["takr", "takri"], ["taml", "tamil"], ["tnsa", "tangsa"], ["tang", "tangut"],
     ["telu", "telugu"], ["thaa", "thaana"], ["thai"], ["tibt", "tibetan"],
     ["tfng", "tifinagh"], ["tirh", "tirhuta"], ["todr", "todhri"], ["toto"],
     ["tutg", "tulutigalari"], ["ugar", "ugaritic"], ["vaii", "vai"],
     ["vith", "vithkuqi"], ["wcho", "wancho"], ["wara", "warangciti"],
     ["yezi", "yezidi"], ["yiii", "yi"], ["zanb", "zanabazarsquare"]]
  runs :=
    ["Y1PQYA6PQYAXFP1YAFP1YA5PNYA1PVYA1Pk1YAX7P5YA5P2DKPZGXQ4XD1P3XD204XD1P1XD401XD1P1",
     "XD1P3XD101XD10KXD10XVXDEQGXDa5U2XQb9U10X6520XI5203510XNXN80RXN406XNB0541P641PE41",
     "P341PX041PA4BXQQ41XQZC41PX24EaG10XSaG203aGXG4XIaRE0XRZ9203Z9XEa320Fa310SYL201YL1",
     "0BaG50V4102450YB41PT4YHX04XQFX02PQX04B108B202B20MB107B101B304B209B202B204B801B40",
     "2B105B20PB203XG106XG402XG20MXG107XG102XG102XG102XG201XG105XG402XG203XG301XG704XG",
     "101XG70HXGA03XE109XE103XE10MXE107XE102XE105XE20AXE103XE103XE201XEF04XE20CXE707XE",
     "103ZO108ZO202ZO20MZO107ZO102ZO105ZO209ZO202ZO203ZO703ZO402ZO105ZO20IZOA02aN106aN",
     "303aN104aN302aN101aN102aN302aN303aN30CaN405aN303aN104aN201aN601aNE0LaN50DaQ103aQ",
     "10NaQ10GaQ209aQ103aQ104aQ702aQ103aQ201aQ204aQ20AaQ709aQDXV103XV10NXV10AXV105XV20",
     "9XV103XV104XV702XV602XV104XV20AXV103XVC0DYK103YK10XJYK103YK106YK40GYK20QYK103a91",
     "0Ia930Oa9109a9101a9207a9301a9406a9101a9108a960Aa9203a9C0XQaS401PSaSX502Y9101Y910",
     "5Y910OY9101Y910NY9205Y9101Y9107Y910AY9204Y9X00Y8aT10X4aT40X7aT10X4aT10FaT107aT4P",
     "2aTX50b0Z3X6X9101X9501X920XBX91P4X9e0XJY9X7104X7207X7101X7104X720X9X7104X720X1X7",
     "104X7207X7101X7104X720FX710XPX7104X720Y3X720X0X730QX760YMN206N20q0ITZC30YBa23PBa",
     "270MaH901aHLXL2P90KHC0DaI103aI102aIC0YUY520AY560AY5602Z02P1Z01PKZ060YPZ070XBZ050",
     "Y6IA0VYC10CYC40CYC401YC30CYCUaJ205aJB0XCZ740QZ760BZ7302Z7X0Y5SG202GXVaK10TaK20Ba",
     "K60AaK60EaK20VXQXH0YD710XI7Y0aDXKA804AXOYB30FYB303YBXGZDBU50XBX9203X98aD803XQ1PD",
     "XQ1P7XQ4P1XQ6P1XQ3P2XQ1P50X6YA5XD1UXHYA5XD4YA5XDDYA1UY6YA1XDY0XQe0YAMXD206XD20X6",
     "XD206XD208XD101XD101XD101XD10VXD20XLXD10FXD10EXD206XD10JXD203XD109XD10CP2XQYNP10",
     "BP1YA20BP1YAFP10DYA30X1PF0X1XQF0X6P1XD3P2YA6P1YARP1YAHPX9YA3P40qQPM0BPL0z0Pe0FpK",
     "P20X0P10Z9PZ0XAX0YAZKQ507QX6X9101X9501X920XOaU702aUE01aUNX7907X7107X7107X7107X71",
     "07X7107X7107X7107X710X0UYUPX20QXI10YPXIC0cMXIQ0LP1XI1P1XIPP9XI4XQ2XJ8P4XI4P10YMX",
     "O202XQ2P3XO1PYQY02P3Y050XBD10YUXJ10GPX0DX6P901PGY0VXJ10Y0PVXJYHPXFY01PYOY0b8Pck0",
     "XIY0Pqm0XIXaDb930XNb990XGYFfCb4K0Z0UYO880X2PZ6YA3PY3YA202YA101YA108YAL0EYAXDaF30",
     "AP60XOZU80Y6a480Ca460X0X0XEY21P1Y2X4a1B01a1TXJ30YEXT101PAXT402XTVZ310XNM90EM20AM",
     "204MX0Z3Y3aLO05aLNYQA06X7206X7206X7907X7107X710XBYA1P9YA1XD4YA2P40YGNXEYQ20AYQ60",
     "gz4XJC0NXJ40XHXJee40hEXI20ZAXIX607YAC05550QXN105XN101XN102XN102XN10AXNZJ4G0hB42P",
     "YG420XM47014X00G4GXQAP60EXQ2UX3P10JP104P405410a74201P10X0PQYA6PQYABPAY01PXDY02PV",
     "XJ306XJ206XJ206XJ203XJ307P107PA05P20CYE10QYE10JYE102YE10FYE20EYEX20ZRYE503P40XDP",
     "309PYFXD10DP301XDXF0XDP1XQa20TYG30XHJF01XQRP40X4ZG903ZGRXB50XBZI50Ub3101b3X4ZJ40",
     "EZJXA0YGVXGa6UZQ20AZQ60X4ZP40X4ZP40X8X580XKKB01KBb510Fb5107b5102b510Bb510Fb5107b",
     "5102b530XKb0C0fNYD90MYDA08YDO06YA10XAYA109YAY506S201S10XCS102S301S201SMXP109XPX0",
     "ZSVZ4809Z4XG0JXM102XM505XMSZV301ZVQYH501YHY00X0YTOYS40KYS20XEYS4Y3102Y3508Y3103Y",
     "310TY3203Y340AY3709Y370X0ZLX0ZHX00X7YM40CYM90XM63076MXS208XSJXR508XRIa0704a0C07a",
     "0YG0Y9ZMXN0XJZFD0XJZF706ZFX8XK80AXK60X6X830TX8802X8cG0V410XAb8103b8202b8G034XN04",
     "4X8ZK80XAaAM0QZNX60SOK0NX690YEE40X4E901EY3XUA01XU20PaB70AaB60XLL10IL80X7YI90Z0a5",
     "10Ka9B0IY610XFY6XU07Z2101Z2104Z210FZ210BZ260XRY750AY7604XC108XC202XC20MXC107XC10",
     "2XC105XC101XQ9XC202XC203XC201XC601XC507XC207XC305XCB0Ab2101b2201b210X6b210Ab2101",
     "b2201b2104b210Ab2102b2802b2T0YSZ8105Z8U0Y8aV80AaVb60XMa720X6a7X20Y5YVB0AYV60DZ0J",
     "0XQaM60AaM60KZ3S0R220F240N2bP0XSX2Z40YJb7C01b77X1201X1208X1102X110UX1102X120CX19",
     "0AX1Y608Z620XEZ620BZ6R0Y8bA80YJaCD0GIXPZT70AX0bM0X2aEE0AaE609C10XDC10ECA0TC30X0Y",
     "N20MYN10EYNY907YO102YO10XCYO301YO102YO109YO80AYO606XF102XF10X5XF102XF106XF70AXFf",
     "M0PYJ70HY110X9Y130TY1YL01YFF0XIaND01aNyQRZ60ZFR105RB0c4RYoC0Z3TD0XYMX4A0ZyRX450o",
     "73crP0XQXHXs60nP870VZ110AZ1402Z1YFaO10AaO60U92069A0Y6ZRA0AZR107ZR10LZR50JZRjG0XQ",
     "Y8c60YRYPZ50YBYU40XPYU70HYUY001aP1ZA2XI1Y4B02XIE0b+OaP80u0aPkMY4X901Y49aPet704Y0",
     "107Y0102Y0101Y0eVXO3Y0F01XOT03XO201Y0E04Y080iCZAYe40ZBX350DX3309X370AX3204X34PZw",
     "S0dQP60jKPYC0XEXQ20NXQ90ZKPXS0dMPA0X7P20XUP3XQHP8XQ2P7XQUP4XQXTPL0Y6XDZQ0KPC0KPC",
     "0YNP90PPa70YLP10Y7P102P201P202P204P10CP101P107P10Y1P104P208P107P10SP104P105P101P",
     "307P10gKP20f4P20XIPqCa8F05a810Fa8XYG0VYA606YAcL07XA10HXA207XA102XA105XA50XUUX101",
     "UZG0XDZB30EZB20AZB402ZBg00Vb1H0XQb6501b6kG0XAZ5cM0XBZE401ZEl007X7104X7102X710FX7",
     "10c5YR20GYRX90YC140A14021uH0Y4PYC0XTPc204410R410241014201410A4104410141014601440",
     "141014101410341024101420141014101410141014102410142044107410441044101410A410H450",
     "34105410H4XK024eE0XCP40Z4PC0FP20FP10FP10X5PA0bEPXO0QP1XO2PD0XCP409P702PE06PaQ0*O",
     "P40HP30DP30ZNP40YVP60CP401PF0CP40XOP80AP60X8P80UP20CP402PXU0gKPC0EP20DP30AP50XOP",
     "70FP20BP609P70aJP10Z6PXW60Xft0XIX00aXQXI60cUXI20bq2XIE0dfHXIF0pEXIYj20mUXIXl20aw",
     "BXI50aZ0XIrtYH01PU0Z0Pa00dGXQb+mG0"]

/-- For the code points that are not just used in the script that they belong to, the
scripts that they are used in. The first value is that of all others. -/
def extensions : Partition where
  names :=
    [[],
     ["avst", "cari", "copt", "dupl", "elba", "geor", "glag", "goth",
      "grek", "gong", "hani", "latn", "lydi", "mahj", "perm", "shaw"],
     ["beng", "cyrl", "deva", "latn", "lisu", "thai", "toto"], ["bopo", "latn"],
     ["latn", "lisu"], ["latn", "thai"],
     ["cher", "copt", "cyrl", "grek", "latn", "perm", "sunu", "tale"],
     ["cher", "cyrl", "grek", "latn", "osge", "sunu", "tale", "todr"],
     ["cher", "cyrl", "latn", "tfng"], ["glag", "latn", "sunu", "syrc", "thai"],
     ["aghb", "cher", "copt", "cyrl", "goth", "grek", "latn", "osge",
       "syrc", "tfng", "todr"],
     ["copt", "elba", "glag", "goth", "kana", "latn"],
     ["cyrl", "grek", "latn", "perm", "tfng"],
     ["copt", "dupl", "hebr", "latn", "perm", "syrc", "tale", "tfng", "todr"],
     ["armn", "cyrl", "dupl", "goth", "grek", "hebr", "latn", "perm",
       "syrc", "tale", "tfng"],
     ["latn", "tfng"], ["dupl", "latn", "syrc"], ["cher", "cyrl", "latn", "osge"],
     ["cher", "latn", "tale"], ["latn", "sunu"], ["ethi", "latn"],
     ["cyrl", "latn", "todr"], ["grek", "latn", "perm", "todr"],
     ["cher", "dupl", "kana", "latn", "syrc", "tfng"], ["cher", "dupl", "latn", "syrc"],
     ["latn", "syrc"], ["latn", "sunu", "syrc"], ["cher", "latn", "syrc"],
     ["aghb", "cher", "goth", "latn", "sunu", "syrc", "thai"], ["grek"],
     ["latn", "osge"], ["aghb", "latn", "todr"], ["latn"], ["copt", "grek"],
     ["cyrl", "perm"], ["cyrl", "glag"], ["cyrl", "latn"], ["armn", "geor", "glag"],
     ["arab", "gara", "rohg", "nkoo", "syrc", "thaa", "yezi"], ["arab", "syrc", "thaa"],
     ["adlm", "arab", "gara", "rohg", "nkoo", "syrc", "thaa", "yezi"],
     ["adlm", "arab", "rohg", "mand", "mani", "ougr", "phlp", "sogd", "syrc"],
     ["arab", "syrc"], ["arab", "thaa", "yezi"], ["arab", "rohg"],
     ["beng", "deva", "gran", "gujr", "guru", "knda", "latn", "mlym",
      "nand", "newa", "orya", "shrd", "taml", "telu", "tirh"],
     ["beng", "deva", "gran", "gujr", "guru", "knda", "latn", "mlym",
      "newa", "orya", "taml", "telu", "tirh"],
     ["beng", "deva", "dogr", "gran", "gujr", "gong", "guru", "knda",
      "sind", "mahj", "mlym", "gonm", "nand", "onao", "orya", "sinh", "sylo", "takr",
      "taml", "telu", "tirh"],
     ["beng", "deva", "dogr", "gran", "gujr", "gong", "guru", "gukh",
      "knda", "sind", "limb", "mahj", "mlym", "gonm", "nand", "onao", "orya", "sinh",
      "sylo", "takr", "taml", "telu", "tirh"],
     ["deva", "dogr", "kthi", "mahj"], ["beng", "cakm", "sylo"], ["guru", "mult"],
     ["gujr", "khoj"], ["gran", "taml"], ["knda", "nand", "tutg"],
     ["cakm", "mymr", "tale"], ["geor", "glag", "latn"], ["runr"],
     ["buhd", "hano", "tglg", "tagb"], ["mong", "phag"],
     ["beng", "deva", "gran", "knda"], ["deva"], ["deva", "gran", "knda"],
     ["beng", "deva", "newa", "telu", "tirh"], ["beng", "deva", "telu"],
     ["deva", "newa", "shrd"], ["beng", "deva", "newa", "telu"], ["deva", "shrd"],
     ["deva", "knda", "mlym", "orya", "taml", "telu"], ["beng", "deva"],
     ["deva", "newa", "tirh"], ["deva", "nand", "newa"], ["beng", "deva", "shrd"],
     ["deva", "newa"], ["beng", "deva", "newa", "shrd"],
     ["beng", "deva", "gran", "knda", "mlym", "nand", "orya", "sinh",
       "telu", "tirh", "tutg"],
     ["deva", "gran"], ["deva", "gran", "knda", "tutg"], ["beng"], ["nand"],
     ["cyrl", "latn", "syrc"], ["syrc"], ["latn", "mong", "phag"], ["adlm", "arab"],
     ["cari", "geor", "glag", "lyci", "hung", "orkh"], ["cari", "grek", "mero", "hung"],
     ["deva", "gran", "latn"], ["copt", "latn"], ["avst", "orkh"],
     ["avst", "cari", "geor", "kthi", "lydi", "hung", "samr"], ["dupl"],
     ["adlm", "arab", "hung"], ["hani", "tang"],
     ["bopo", "hani", "hang", "hira", "kana", "mong", "yiii"],
     ["bopo", "hani", "hang", "hira", "kana", "mong", "phag", "yiii"],
     ["bopo", "hani", "hang", "hira", "kana"], ["hani"],
     ["bopo", "hani", "hang", "hira", "kana", "mong", "tibt", "yiii"],
     ["bopo", "hani", "hang", "hira", "kana", "lisu", "mong", "tibt", "yiii"],
     ["bopo", "hani", "hang", "hira", "kana", "yiii"], ["bopo", "hani"],
     ["hira", "kana"], ["hani", "hira", "kana"], ["hani", "latn"],
     ["deva", "dogr", "gujr", "guru", "kthi", "knda", "khoj", "sind",
      "mahj", "mlym", "modi", "nand", "shrd", "takr", "tirh", "tutg"],
     ["deva", "dogr", "gujr", "guru", "kthi", "knda", "khoj", "sind",
      "mahj", "modi", "nand", "shrd", "takr", "tirh", "tutg"],
     ["deva", "dogr", "gujr", "guru", "kthi", "khoj", "sind", "mahj",
       "modi", "takr", "tirh"],
     ["deva", "dogr", "gujr", "guru", "kthi", "khoj", "sind", "mahj",
      "modi", "shrd", "takr", "tirh"],
     ["beng", "deva", "tutg"], ["deva", "taml"], ["kali", "latn", "mymr"],
     ["bugi", "java"], ["arab", "nkoo"], ["arab", "thaa"], ["cprt", "cpmn", "linb"],
     ["cprt", "linb"], ["cprt", "lina", "linb"], ["arab", "copt"], ["mani", "ougr"]]
  runs :=
    ["bN011m4012A0131033101490151013X60161718191A1B1C1D1E1F1G1H1I1J1K101J1L101MF01N1O1",
     "P701Q1P101R1SG01T201TI01U501V40DX0402X1eD01X21X32X41X3e101X5a201X6E01X61X7201X8X",
     "001X9A0BXAA0AXB601XAZ301XCpS01XD1XEH01XF1XGAXHZM0AXIZM0AXJZM0AXKdM0EXLdI0AXMwG0A",
     "XNbH01XOXlF03XPY702XQcB02XR101XRXcA01XS1XT1XS1XU1XT1XV1Y01Y11Y21Y31Y41XT2Y32XT1Y",
     "31Y51Y66XT1Y71Y81Y91XT1YA4XT1YB1YC1YD2Y51YE2YC1YFc502TXM01YG101YHnK01YIV01YJA01Y",
     "K201YLaI01YMZf601YNO01YO1YPA01YQ401YR101X3jC0GYS101YT1YU1YV201Z0102Z12Z26Z3101YV",
     "8Z34YVA04Z4201YV5Z5101YV402Z62Z0YP04Z5301Z5YQ01Z31Z5aJ0GZ0X00X6Z0901YSXG0X8Z0XO0",
     "XHZ0F0CZ0XJ01Z0YO0PZ0A05Z0Z00VZ0ypG01X3aG08Z7f803Z83Z92ZA1ZB1ZAbN01ZC101ZDXQ01ZE",
     "b001ZFqxE02ZGbI01ZHA01ZHY702YVeQ05Z3A01Z5XD02Z5h002ZI1ZJ40XDZK309ZJj00SZLX+M01ZM",
     "YWE01XL101XLXN02XLZaJ02XL101XLXdcC04YQbrS0IZ0dsU02Z0*ZjE0"]

def named?
    (name : String) : Option CodePointSet :=
  partition.named? name

/-- The code points that are used in a script. -/
def extended?
    (name : String) : Option CodePointSet :=
  match partition.names.find? fun names => names.contains name with
  | some names =>
      let own := (partition.codePoints names).diff (extensions.whose (· != 0))
      some (own.union (extensions.codePoints names))
  | none => none

end Script
end Unicode
end TriggerScript
