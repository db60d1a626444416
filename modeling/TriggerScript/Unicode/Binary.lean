import TriggerScript.Unicode.Category
import TriggerScript.Unicode.Segmentation

/-!
# Properties that a code point has or has not

Some of these properties are given by tables. The others are put together from them, from
general categories and from the classes for words.
-/

namespace TriggerScript
namespace Unicode

/-- How a set of code points is put together. -/
inductive Description where
  | table (lines : List String)
  | categories (names : List String)
  | wordClasses (names : List String)
  | all
  | union (left right : Description)
  | diff (left right : Description)

namespace Description

instance : Union Description := ⟨union⟩

instance : SDiff Description := ⟨diff⟩

def codePoints : Description → CodePointSet
  | table lines => CodePointSet.ofTable lines
  | categories names => Category.codePoints names
  | wordClasses names => Segmentation.words.codePoints names
  | all => CodePointSet.univ
  | union left right => left.codePoints.union right.codePoints
  | diff left right => left.codePoints.diff right.codePoints

end Description

namespace Binary

def asciiHexDigit : Description :=
  .table
    ["XG975Q5"]

def bidiControl : Description :=
  .table
    ["XmS0clH1Q4XN3"]

def bidiMirrored : Description :=
  .table
    ["X81I010S010T010XD0F0ZpU3XwT1YiS1A1XM1E1bH0c033530313313101048501H539110171V23509",
     "12I5194214N2F83K171XXTDYA023111253523DiJL251D807530441124401221A521CI13201020135",
     "162O1B14311214XA271X750103452403410e00m333111E129XB7jB927XpnT551b21I010S010T0101",
     "111XrxN0XP0XP0XP0XP0"]

def changesWhenCasefolded : Description :=
  .table
    ["Y1PYQ0AM17X001010101010101010101010101010101010101010101010101010102010101010101",
     "01011101010101010101010101010101010101010101010101110101011101112231112311110101",
     "11020111210113071111110101010101010102010101010101010102110121010101010101010101",
     "0101010101010101010101010101010101010107111201310101010dM0XA0103080601210111G18M",
     "0C231101010101010101010101010112110112XIXG01010101010101010101010101010101090101",
     "01010101010101010101010101010101010101010101010101110101010101020101010101010101",
     "01010101010101010101010101010101010101010101010101010101010101010101010101010102",
     "X5XG0YuOX51050vA5Ya296XA22g00101010101010101010101010101010101010101010101010101",
     "01010101010101010101010101010101010101010101010101010101010101010101010101010101",
     "01010101010101010512010101010101010101010101010101010101010101010101010101010101",
     "01010101010101010101010101010101010109785A78785B010101087GXF22255225B3C45225f903",
     "160XDFJ0vIPXvGXFXG01220101013102082101010101010101010101010101010101010101010101",
     "01010101010101010101010101010101010101010101010101010801040*gD010101010101010101",
     "010101010101010101010101010J010101010101010101010101010a701010101010103010101010",
     "1010101010101010101010101010101010101010101010101010A010111010101040102010301010",
     "101010101010101414101010101010101310113050101010O0xQYFpw06C4XW9PXc5X7a8X3aSA1E16",
     "11XtAXIaTLYvQVri0V*r0X1"]

def changesWhenLowercased : Description :=
  .table
    ["Y1PZ5M16X10101010101010101010101010101010101010101010101010101010201010101010101",
     "02010101010101010101010101010101010101010101010111010311011122311123111101011102",
     "01112101130711111101010101010101020101010101010101021101210101010101010101010101",
     "010101010101010101010101010101010107111201310101010f10103080601210111G18X3080101",
     "01010101010101010105020112XIXG01010101010101010101010101010101090101010101010101",
     "01010101010101010101010101010101010101110101010101020101010101010101010101010101",
     "01010101010101010101010101010101010101010101010101010101010101010102X5Yw9X51050s",
     "IYLYaJ06XA22g0010101010101010101010101010101010101010101010101010101010101010101",
     "01010101010101010101010101010101010101010101010101010101010101010101010101010101",
     "01090101010101010101010101010101010101010101010101010101010101010101010101010101",
     "0101010101010101010109785A78785B010101087O7878784B4B3C4B4f903160XDFJ0vIPXvGXFXG0",
     "12201010131020821010101010101010101010101010101010101010101010101010101010101010",
     "1010101010101010101010101010101010801040*gD0101010101010101010101010101010101010",
     "10101010J010101010101010101010101010a7010101010101030101010101010101010101010101",
     "010101010101010101010101010101010A0101110101010401020103010101010101010101014141",
     "01010101010101310113050101010O0rvBPXc5X7a8X3aSA1E1611XtAXIaTLYvQVri0V*r0X1"]

def changesWhenTitlecased : Description :=
  .table
    ["Z1PXQ0X9N17101010101010101010101010101010101010101010101010101010102010101010101",
     "01110101010101010101010101010101010101010101010102010122010203050203220201010204",
     "02030102030104011111010101010101010111010101010101010121010301010101010101010101",
     "01010101010101010103010101010101010108021104010101015111011311314201120702011355",
     "0A1b60XB0103032I0RX21132101010101010101010101014102020XKXF1010101010101010101010",
     "10101010101090101010101010101010101010101010101010101010101010101020101010101011",
     "10101010101010101010101010101010101010101010101010101010101010101010101010101010",
     "1010101010101010XHX6ZpG5Ya2810dE030G0ZI01010101010101010101010101010101010101010",
     "10101010101010101010101010101010101010101010101010101010101010101010101010101010",
     "10101010101010101010101010165010101010101010101010101010101010101010101010101010",
     "1010101010101010101010101010101010101010101885A78785A7878D2787878411603211832187",
     "A211gM0X1F40wBPXw6XF10311010106020A010101010101010101010101010101010101010101010",
     "101010101010101010101010101010101010101010101010101010801040CX51050*eJ0101010101",
     "01010101010101010101010101010101010J010101010101010101010101010a7010101010101030",
     "101010101010101010101010101010101010101010101010101010101010A0102010101010404011",
     "20101010101010101010B01010101010101040102030501010Q0wS0SYFpw06C4XX9PXcDX7a8X3aRA",
     "1E1611Xu3XIZTLYvQVri0V*r2X1"]

def changesWhenUppercased : Description :=
  .table
    ["Z1PXQ0X9N17101010101010101010101010101010101010101010101010101010102010101010101",
     "01110101010101010101010101010101010101010101010102010122010203050203220201010204",
     "02030102030105111111010101010101011101010101010101011111030101010101010101010101",
     "0101010101010101030101010101010101080211040101010151110113113142011207020113550A",
     "1b60XB0103032I0RX21132101010101010101010101014102020XKXF101010101010101010101010",
     "10101010109010101010101010101010101010101010101010101010101010102010101010101110",
     "10101010101010101010101010101010101010101010101010101010101010101010101010101010",
     "10101010101010XHX6Yw8XA22tO5Ya2810dE030G0ZI0101010101010101010101010101010101010",
     "10101010101010101010101010101010101010101010101010101010101010101010101010101010",
     "10101010101010101010101010101016501010101010101010101010101010101010101010101010",
     "10101010101010101010101010101010101010101010101885A78785A7878D2XK114010321140332",
     "187A21140gH0X1F40wBPXw6XF10311010106020A0101010101010101010101010101010101010101",
     "01010101010101010101010101010101010101010101010101010101010801040CX51050*eJ01010",
     "1010101010101010101010101010101010101010J010101010101010101010101010a70101010101",
     "01030101010101010101010101010101010101010101010101010101010101010A01020101010104",
     "0401120101010101010101010B01010101010101040102030501010Q0wS0SYFpw06C4XX9PXcDX7a8",
     "X3aRA1E1611Xu3XIZTLYvQVri0V*r2X1"]

def dash : Description :=
  .table
    ["XD0XgS0XJ0Zo10XW50YW95XT0X70F0i60ZW4020V140S0jU0J0ZF0XpiG1X50A0b90Zp00fU0"]

def defaultIgnorableCodePoint : Description :=
  .table
    ["bD0r10sC0Yw21XoJ1YL4X+R4Q4XHFadK0XpaRFdF0b00YF8Xlb73bcF7uhq5Z+V"]

def deprecated : Description :=
  .table
    ["g90Xf90Ye3010YX91Yc55rP1xtcM0"]

def diacritic : Description :=
  .table
    ["YU010Y70604021lNaU1755H14091dT4cH0XNXC10111110a3741a614132Y3QYRAXQAX21ZU7X99GRXT",
     "0G033S0YA0G0ZE0G0ZE0G0XF2XS0G070ZN0ZE0G0ZE0G0ZD1G0ZS0ZF0C510ZB0D4YB1R0101041Y221",
     "1XU0ZG011X8144P610A1s12zK1U0aKA90gR2f40K720XGE2AZ80F0X68XM1XQ0B1Y21Y05YIO406022X",
     "IXUXGX35BX5AjT012B2D2D2D1ZdG2fT0lQ5Z93YV0zhI0C110S1YI1EX1Z62ZD1C0X50aN0RHXP3X40Y",
     "V0C0X40aL2Y13XJ0Z4492a01pvG0u1FeE010XF0XD1Y30tS0XaV51X918pT240b51nR5X60Q4iF2Y6AX",
     "H3c00X90Y81ZO1XU0YC092Z81bI1YG1G0O634YP211D1YV030ZR1dR1ZU0ZM1ZJ0eD1e2140aS0YJ0I0",
     "YH0j50e2011YH0j91N0bdCEhcP0Yk04XR6nK1n2GYG1l+U31611du1XD2Mn02358726U3Zq2XTc26hN0",
     "XT3tU1t06ZD212"]

def emoji : Description :=
  .table
    ["X306059ZF040dyD0C0cO0M0YQ5F1hF1C0b60PA42c70d71A090XQ3149020212040201120303182501",
     "05BB1201110I021I5101131502141B15120511011K155132040202510201010603060A1F02040104",
     "210B1XG290E0E0hK1kF2J1XJ040XcQ0C0oP010ZlhA0cA0b01C1E029YBP11N0K028L1bEX12ZF21122",
     "YI221e61XUB51N7127C0232041D120819052C28220104060306YLXGY557224930113029d3B40eRXE",
     "191bOZGC395XN7E2A68"]

def emojiComponent : Description :=
  .table
    ["X306059d*J0cL0XtfB0Xy*MPlR4XjG3uXpCYV"]

def emojiModifier : Description :=
  .table
    ["Zy+R4"]

def emojiModifierBase : Description :=
  .table
    ["fmT0cR0G3ZpZN0XS22022ZL12ALI3042127010O0c9140L041bE234YJ0G290B0nV02087609922XO0X",
     "T11110H21Cd52XA8"]

def emojiPresentation : Description :=
  .table
    ["euQ1cD33020m91L1XIBXB0J0D081H1518050L0711040207041S0X30104210XT2O0E0wR1XJ040ZnbE",
     "0cA0bU029YBP10O0K02412L1bEX0C81Y51LCXA44CG303Y6101bQ2XUD31NI0Q1D0YMYKXGY56032224",
     "3B178d3B40eRXE191bOZGC395XN7E2A68"]

def extendedPictographic : Description :=
  .table
    ["b9040dyD0C0cO0M0YQ5F1hF1C0YV0Y60PA42c70d71A090XQ3151B1ZHAZL2A1010603060A1F020401",
     "04210B4XD290E0E0hK1kF2J1XJ040XcQ0C0oP010Zlh6dVD2V0XS5C1E029IXOREA0K028139jH5fT8e",
     "9XGZVZKBYLXAC3XO7A5X87UYHCXE191jOe0+T"]

def extender : Description :=
  .table
    ["bN0mO1xE0jP0pM0a90YP0tG0ZV0Yg30XO0p30iE0Y40ay90XB4Z71YT2xuM0XlM0*20M0a90ZC0L1rZR",
     "0YWG1XkB0R040Xc70f50ZK1lI2XcF0qb91XaS110ygO1XbH0wK2"]

def graphemeLink : Description :=
  .table
    ["YgD0ZV0ZV0ZV0ZV0ZV0ZV0ZV0ZD1G0ZS0ZF0ZV0c90bK1XsP1U0aT0qD0d30Z51Y61aiB0*q60X50aN0",
     "aE0ZC0fL0dM0toH0Xm60X90E0XP0ZP1aB0ZK0bK0Z20a02ZH0ZV0dS0ZV0ZM0ZK0eD0e31b10YJ0I0YH",
     "0j50e41YH0j91mlC0"]

def hexDigit : Description :=
  .table
    ["XG975Q5X+r9975Q5"]

def hyphen : Description :=
  .table
    ["XD0ZV0XcS0apR0YW91Zm50t30Xph70b90YN0"]

def idsBinaryOperator : Description :=
  .table
    ["h+G129lH0"]

def idsTrinaryOperator : Description :=
  .table
    ["h+I1"]

def idsUnaryOperator : Description :=
  .table
    ["h+U1"]

def idCompatMathContinue : Description :=
  .table
    ["bI150dzM03A1EhJ040M0Zjb20P0V0P0V0P0V0P0V0P0"]

def idCompatMathStart : Description :=
  .table
    ["em2040M0Zjb20P0V0P0V0P0V0P0V0P0"]

def ideographic : Description :=
  .table
    ["iW61P8E2*5cjVY0qlVse0hD2Z9zeA0Rb+N8XcLX99fZ7iBpe4XfsVX0aXP6cT2bq1EdfGFpDYj2mTXl2",
     "awA5aYV"]

def joinControl : Description :=
  .table
    ["eWC1"]

def logicalOrderException : Description :=
  .table
    ["Zo04ZR4YtG220XadQ12011"]

def modifierCombiningMark : Description :=
  .table
    ["XoK120a306031l111230V0"]

def noncharacterCodePoint : Description :=
  .table
    ["X+kGVmE1X++U1X++U1X++U1X++U1X++U1X++U1X++U1X++U1X++U1X++U1X++U1X++U1X++U1X++U1X+",
     "+U1X++U1"]

def otherAlphabetic : Description :=
  .table
    ["w50TCo0D10111110Y8AXGC16G0Z56432140X30UFZ6AZ51381213ZA0XSB366JXM12E1152A1T2XQ621",
     "21A0A1T2XQ4412140U130B2XQ71211L1M242XQ6212191A1U0XR43212A0X84XP6121281B1T2XQ6121",
     "281B1F0C3XQ61212A0A1T2YB51017I1XT026I0Z302511G0b3I9A1X3ZEB1023N342122633DB10A3Xp",
     "K1U1U1U1Y2IbS1X20ZMB48cU4XP92JYA1B2XH4XGEXS2U821XPAXIIiSX1Xs1XJYdMV*ZK7X21h2080N",
     "4YO1XIF10XP0X64SBXD3XGBX50Y3DC081XD2XI0122150XC450dD7pvJ0YYN4Xq621153uK3Y10g11YF",
     "0e32XLDXD1B2XD890XT2X4BI1XP2XGCE1YS8206020aT9N3XQ62121A0A1YK810201311Z7C12ZAHdD6",
     "26T1YIE10ZAAZ7De1CdN511213010aE62540S9XA413IAXEDiN716YJL1DZQ53011121030Y241113gS",
     "39110XG632mkTGZn001XM73YT1pbC0ex161G261114Z40YbN0X+8P6P6P"]

def otherDefaultIgnorableCodePoint : Description :=
  .table
    ["wF0ZmF1XoJ1YbF0adU0XpnR0YF8wWW701TZ0ZVdGZmF"]

def otherGraphemeExtend : Description :=
  .table
    ["YjU0O0h60O0Z60O0d8010411191Z70O0ZN0F0YfL0U0XW00501051Z50Y71XWO0aX11*f30ZC0rkT1an",
     "00ZK0e80E090Z0090201250d00C0dH0e60pP0C0Xm30qbE1uhJ165uhrDYV"]

def otherIDContinue : Description :=
  .table
    ["bN0sF0Z+18Xp80XnH1adD0Xpp90"]

def otherIDStart : Description :=
  .table
    ["ca51YaH0L0ZxC1"]

def otherLowercase : Description :=
  .table
    ["bA0F0lL871U4Z00XK0Zi10ZXFXUD0X2X4rH0D0GCcJFwGPXyI1*mU1cI0a1231x2390tWM0221X918Xs",
     "ZLXT"]

def otherMath : Description :=
  .table
    ["YU0xH220Q121dX00R2B0X03O1E1Y1C403144I04029103460312112153354YB4231111101421414H2",
     "110161061f23b8110O0H0jT1C854512134E01025O1XP010T391gM1V9iJLXV3X01XrZ301040cJ010X",
     "rc1YK1Y6112021231B10161Y01327161R131410361gJ2O1O1U1O1U1O1U1O1U1O172XHbm031Q11102",
     "01913101060401010121110201010101011102316131310191G52141G"]

def otherUppercase : Description :=
  .table
    ["eh0Fw6PZpZ0P6P6P"]

def patternSyntax : Description :=
  .table
    ["X1EA6Q310Q3X2610111011404030N0V0duON8E2I19fHsFb0pLUXZBm0ZVi124OF0XpeD1e51"]

def patternWhiteSpace : Description :=
  .table
    ["94I0Z40dy81O1"]

def prependedConcatenationMark : Description :=
  .table
    ["Xm05cN0XH0i01YG0YX*Q0F0"]

def quotationMark : Description :=
  .table
    ["X2040a30F0dwS7P1Zm70k93D2Xpn13bT040YQ1"]

def radical : Description :=
  .table
    ["hq0P1YOCcL"]

def regionalIndicator : Description :=
  .table
    ["Zyl6P"]

def sentenceTerminal : Description :=
  .table
    ["X10C0G0Xg90aJ2bK0XB2dM0XT01031f51Xt41uM041u50c61aT1XD050fQ1h23b21A121T2bR1Y11z40",
     "N192ZbF2fI0D0M1jD0zdS0eE1d3030hU1YM1YV0aO1aJ2aG1dP0qn6021XR031b90C0G0Y10YtK1XdT4",
     "XC3bT1ZL3ZV2a1160G1YO111ZC0fA1ZL1hL15EZ91dP2m5010dR1YN1j41rK1YA1ov91a50Y11B0n91f",
     "80pm60dl80"]

def softDotted : Description :=
  .table
    ["Z91c40eP0U0XK0K0g00Z2010ce90XJ0D030a40aT0j50cM1YvI0Zfz51XI1XI1XI1XI1XI1XI1XI1XI1",
     "XI1XI1XI1XI1Ya60fH1Q0"]

def terminalPunctuation : Description :=
  .table
    ["X10A010B130vU080m10XP0Y80E012bK0XBA10dB1XM517V0e51XdK1bC045fN1uL7u50ZS2Y71aT230X",
     "7321fQ1h23b21A112T2bR4XU1z40N192ZbF2fI0D040A01131jC1zdR1eD2d34hU1YM1YV0aN2aJ2ZV0",
     "G1dP0qn6021XP213b90A010B130Y1020XXQ0XG0Xa60c70fM1aO5Y45YP3zO4XC3bT6ZG3ZV2a1160G1",
     "YO4ZC0fA1ZL2C1h633EZ91dP2m5010dR1YN141iU2XD0q51YA1XfB4nlP1a50Y12A0n91f71pm60dl73"]

def unifiedIdeograph : Description :=
  .table
    ["jW0cjVY0qlVsmE11011A0101122YXkMXfsVX0aXP6cT2bq1EdfGFpDaj2awA5aYV"]

def variationSelector : Description :=
  .table
    ["cWB210XvlGFwWtGdF"]

def whiteSpace : Description :=
  .table
    ["94I0Z40Q0bkV0YhVAT150XF0Zz00"]

def lowercase : Description :=
  .categories ["ll"] ∪ otherLowercase

def uppercase : Description :=
  .categories ["lu"] ∪ otherUppercase

def cased : Description :=
  lowercase ∪ uppercase ∪ .categories ["lt"]

def caseIgnorable : Description :=
  .categories ["mn", "me", "cf", "lm", "sk"]
    ∪ .wordClasses ["midletter", "midnumlet", "singlequote"]

def changesWhenCasemapped : Description :=
  changesWhenLowercased ∪ changesWhenTitlecased ∪ changesWhenUppercased

def alphabetic : Description :=
  lowercase ∪ uppercase ∪ .categories ["lt", "lm", "lo", "nl"] ∪ otherAlphabetic

def math : Description :=
  .categories ["sm"] ∪ otherMath

def graphemeExtend : Description :=
  .categories ["me", "mn"] ∪ otherGraphemeExtend

def graphemeBase : Description :=
  .all \ (.categories ["cc", "cf", "co", "cn", "zl", "zp"] ∪ graphemeExtend)

/-- The code points that patterns use otherwise, so that no identifier holds them. -/
def patternReserved : Description :=
  patternSyntax ∪ patternWhiteSpace

def idStart : Description :=
  (.categories ["lu", "ll", "lt", "lm", "lo", "nl"] ∪ otherIDStart) \ patternReserved

def idContinue : Description :=
  (idStart ∪ .categories ["mn", "mc", "nd", "pc"] ∪ otherIDContinue) \ patternReserved

/-- The code points with the property XID_Start: those
of ID_Start that stay so in all normal forms. -/
def xidStart : Description :=
  idStart \ .table
    ["xQ0YrO0ZV0el71Xo*15iM1ZK010101010101010eV1"]

/-- The code points with the property XID_Continue: those
of ID_Continue that stay so in all normal forms. -/
def xidContinue : Description :=
  idContinue \ .table
    ["xQ0hf01Xo*15iM1ZK010101010101010"]

def properties : List (List String × Description) :=
    [(["asciihexdigit", "ahex"], asciiHexDigit),
     (["alphabetic", "alpha"], alphabetic),
     (["bidicontrol", "bidic"], bidiControl),
     (["bidimirrored", "bidim"], bidiMirrored),
     (["caseignorable", "ci"], caseIgnorable),
     (["cased"], cased),
     (["changeswhencasefolded", "cwcf"], changesWhenCasefolded),
     (["changeswhencasemapped", "cwcm"], changesWhenCasemapped),
     (["changeswhenlowercased", "cwl"], changesWhenLowercased),
     (["changeswhentitlecased", "cwt"], changesWhenTitlecased),
     (["changeswhenuppercased", "cwu"], changesWhenUppercased),
     (["dash"], dash),
     (["defaultignorablecodepoint", "di"], defaultIgnorableCodePoint),
     (["deprecated", "dep"], deprecated),
     (["diacritic", "dia"], diacritic),
     (["emoji"], emoji),
     (["emojicomponent", "ecomp"], emojiComponent),
     (["emojimodifier", "emod"], emojiModifier),
     (["emojimodifierbase", "ebase"], emojiModifierBase),
     (["emojipresentation", "epres"], emojiPresentation),
     (["extendedpictographic", "extpict"], extendedPictographic),
     (["extender", "ext"], extender),
     (["graphemebase", "grbase"], graphemeBase),
     (["graphemeextend", "grext"], graphemeExtend),
     (["graphemelink", "grlink"], graphemeLink),
     (["hexdigit", "hex"], hexDigit),
     (["hyphen"], hyphen),
     (["idsbinaryoperator", "idsb"], idsBinaryOperator),
     (["idstrinaryoperator", "idst"], idsTrinaryOperator),
     (["idsunaryoperator", "idsu"], idsUnaryOperator),
     (["idcompatmathcontinue"], idCompatMathContinue),
     (["idcompatmathstart"], idCompatMathStart),
     (["idcontinue", "idc"], idContinue),
     (["idstart", "ids"], idStart),
     (["ideographic", "ideo"], ideographic),
     (["joincontrol", "joinc"], joinControl),
     (["logicalorderexception", "loe"], logicalOrderException),
     (["lowercase", "lower"], lowercase),
     (["math"], math),
     (["modifiercombiningmark", "mcm"], modifierCombiningMark),
     (["noncharactercodepoint", "nchar"], noncharacterCodePoint),
     (["otheralphabetic", "oalpha"], otherAlphabetic),
     (["otherdefaultignorablecodepoint", "odi"], otherDefaultIgnorableCodePoint),
     (["othergraphemeextend", "ogrext"], otherGraphemeExtend),
     (["otheridcontinue", "oidc"], otherIDContinue),
     (["otheridstart", "oids"], otherIDStart),
     (["otherlowercase", "olower"], otherLowercase),
     (["othermath", "omath"], otherMath),
     (["otheruppercase", "oupper"], otherUppercase),
     (["patternsyntax", "patsyn"], patternSyntax),
     (["patternwhitespace", "patws"], patternWhiteSpace),
     (["prependedconcatenationmark", "pcm"], prependedConcatenationMark),
     (["quotationmark", "qmark"], quotationMark),
     (["radical"], radical),
     (["regionalindicator", "ri"], regionalIndicator),
     (["sentenceterminal", "sterm"], sentenceTerminal),
     (["softdotted", "sd"], softDotted),
     (["terminalpunctuation", "term"], terminalPunctuation),
     (["unifiedideograph", "uideo"], unifiedIdeograph),
     (["uppercase", "upper"], uppercase),
     (["variationselector", "vs"], variationSelector),
     (["whitespace", "wspace", "space"], whiteSpace),
     (["xidcontinue", "xidc"], xidContinue),
     (["xidstart", "xids"], xidStart)]

/-- The code points with the property of a name. -/
def named?
    (name : String) : Option CodePointSet :=
  (properties.find? fun p => p.1.contains name).map fun p => p.2.codePoints

end Binary
end Unicode
end TriggerScript
