import TriggerScript.Unicode.Runs

/-!
# Ages

The age of a code point is the version in which it was assigned. A version stands for all
code points that were assigned in it or before.
-/

namespace TriggerScript
namespace Unicode
namespace Age

/-- The ages of all code points, in the order of the
versions. Code points that are not assigned come first. -/
def partition : Partition where
  names :=
    [[], ["1.1", "v11"], ["2.0", "v20"], ["2.1", "v21"], ["3.0", "v30"], ["3.1", "v31"],
     ["3.2", "v32"], ["4.0", "v40"], ["4.1", "v41"], ["5.0", "v50"], ["5.1", "v51"],
     ["5.2", "v52"], ["6.0", "v60"], ["6.1", "v61"], ["6.2", "v62"], ["6.3", "v63"],
     ["7.0", "v70"], ["8.0", "v80"], ["9.0", "v90"], ["10.0", "v100"], ["11.0", "v110"],
     ["12.0", "v120"], ["12.1", "v121"], ["13.0", "v130"], ["14.0", "v140"],
     ["15.0", "v150"], ["15.1", "v151"], ["16.0", "v160"]]
  runs :=
    ["lM144U1841617I437B8E9YP15427XF114A154H7Y6194168758372114D64A212A201139111G407110",
     "1110K110XC11A7114261114111411141114I12516574814C114Y2114C114X911A242644XL1262126",
     "212619S12481282169G649GA2B2C8G10X6120711KX711K1114202G1D10H218D2A11991123880R140",
     "1K51B0471D1G5A1811975A111F1O18111CQ15AJ13437681CE126Y81245114F114U127A15417E410U",
     "437R42037U8IAXH416E0XR9203KXEB20FB10SC201C10BJ50VO102O501R8O1D1GBD6G2H1O8IANBO1K",
     "FI1HRD1G1B3117XL12CI11B1C511B2CP12A5C1G2B2918291G311081202120M110711011304120111",
     "771202120311880114021105120L11B2J1K201711171061402120M11071102110211021201110514",
     "0212031301A7041101170F11A1KA03110711711103110M110711021105120A1103110312011F0113",
     "720A11D17701H6J10311081202120M11071102110174120811A20212031701N21402110312A20B11",
     "76CA0211061303110413021101110213021303130811831405130311041201A6011E018C187501G3",
     "11K81103110N110A11G51201O1A71103110417021102A1H201O20212A20A1701L8A1I1G211K81103",
     "110N110A11051202771103110417021601O1110212920A110291PC01J1G211N81103110N11CG11C2",
     "J1A611A103110411C1I403I117I1H212A20A16A3I7A101N2410I430O410941014207430144064101",
     "4108460AG2034C0XQ140T1X50211011101L211L11101L116L411L711L31101110112L211LD11L312",
     "051101110611P10A120212DX00Y8210X12142A40R24C62141210L2347214123410F4101A14283A4B",
     "2CX50X241A541A241A743A446AQ4Y0A4B2AX61101D501D20X71262811183DYQ15BY415BYI16B7418",
     "XV41814104420741014104420X741814104420V4181410442074101410442074187410N418V41814",
     "1044207418X7418J4202C28S430Q860YL41H206H201BpM49BT430YH48G70D61O761O901ON690K6C0",
     "D610361026C0YT41720A460A760F41OA460YO41K70XA41A50Y6BA0T72G10C740C7401730XA72057B",
     "0XA82B40Q860A81B3028X07S82028XVB10TB20BB60AB60EB20FG2NEOXH0YC91O102RXD92O1RXBA3D",
     "CA6DXKC804CXOA30FA30XJA9I2R50XBK203K8D80X3B4D1J2G1L50ZC7YO879SAFG4J1O1I1C1B29aR1",
     "124AYQ16AM1206120X612061208110111011101110V120XL110F110E1206110J12031109110XF114",
     "N116645627281678561A104F711620R110588C30B112133426483B1C1E3G1H1J1OF0I1247618491A",
     "F0XP1241718F618291A3BXG114194A1B2H40YR194C6dI1E61114ZP11416U4XK627B8C91BBC7G4I1J",
     "X51243RM0B1L0aB1K617aM1A6YG18486K127261814YM124C628A687B81A2B27G819AA3B4AAB1CJB1",
     "C1B4COB1G411C412CS11CX311C111C413C111B712C71E6V13CO11CE11C78491D1A1D2CS64AG6e04m",
     "06E768795A49X9A3G5A5BQG20X0G101NX2G3KCG1L8G1JPK4HFK1LXF81OXF81OD93A1B3A496A2BZB8",
     "7B2D50XD8101D501D20XM82D70181CE01CN89078107810781078107810781078107810X0AO84A28J",
     "A1BAD7G2I5J5K1L3NBOX20Q410YP4C0cM4Q0C44QXO13436141110YK126206126YU11650X811A1J1K",
     "10YU110G1O43C5NG8KA2R901QG6T12710X41CB17F6S12718XI1F6C147XF11MZN147Z3127V117cjM4",
     "ANY07qj61M88A8B1D9HLJ5KDN3OXaD430I426G416C41634161490XGBfCAK0X0A2CIA8DSA6G1H1DYO",
     "B80N8495A29ZBA2C1H2C2DCGAC1D3G1I1K2G6H2K6L2O5L4N3R202O101O105O3RL03O2N1G2D1C5AXC",
     "81N30AB60XO980Y5A1I80CA60SB2H2KYKAB01ATB30YEB10BB402BVG10XNA90EA20AA204ASB4GY3BO",
     "05BNDA06C206C206C907C107C10XGG4H2G2L4N40YGHXEB20AB60gz42C0NB40XHB40YW02cnE12DXR6",
     "3B20ZA8X6071C0515014P1105110111021102110ZC1GC1OG0hD1GOY0120XM1701OX05C116172OG6A",
     "860413A7G2HL12627A110J110414031161110a71201110YU126YU1306120612061203130711071A0",
     "341331C710Q710J7102710F720E7X20ZR7503740XD73097YB82G2I10CA1N301GXF0XEAa20TA30XHA",
     "F0SG40V51G45903JR550XBG50U71017X4840E8XA0X6527X65YG720A760X4I40X4I40X8G80XKGB01G",
     "BO10FO107O102O10BO10FO107O102O30XKRC0fNG90MGA08GO06O10XAO109OY5067201710XC710273",
     "0172017MB109BXVG809GXG0JH102H505HQ92B3019QA501AY00XOD402H2DGH20XEH48102850881038",
     "10R82K203840981K709870X0BX0GX00X7G40CG90XMB30TB20RB508BIG704GC07GYG0Y9BXN0XJHD0X",
     "JH706HX8K80AK60X6R30TR802RcG0VB10XAN103N202NG03RXN01R3PX8K80XAKM0QOX60SNK0NL90YE",
     "C40UC6O901GY2B1OA01K20PD70AD60XLD10ED3K1N80X7G90Y9D4H1G2NAD1G5H10KGB0IG10XBG1I3P",
     "XU07H101H104H10FH10BH60XRG50AG601H3G108G202G20MG107G102G105G101K9G202G203G201H60",
     "1G507G207G305GB0AR101R201R10X6R10AR101R201R104R10AR102R802RT0YQI1N1I101I1K1L2NU0",
     "Y8G80AGb60XMG20IGKHX20Y5GB0AG60DIJ0XOD1L1O60AD60KRS0QH1K20FH40GH7ObP0XSKZ40YJGC0",
     "1G7N201N208N102N10UN102N20CN90ANY608L20XEL20BLR0Y8J80XKJ2LNJ1K5JD0GOXPG70APbM0X2",
     "RE0AR609I10XDI10EIA0TI30X0I20MI10EIY907J102J10XCJ301J102J109J80AJ606K102K10X5K10",
     "2K106K70AKfM0PK70HP10X9P30SP1RYL01NF0XILD01LxF9XAG1HZ60Z39CG10491GB0c4HYoC0Z3OD0",
     "XXFB1P9LTPA0ZyRR50o7HcrP0XQRXs60nPC70VG10AG402GYFO10AO60UG206GA0Y6GA0AG107G10LG5",
     "0JGjG0XQRc60YRKZ50Y5D6L401LXFD9L70HDY001I1J2L1NB02NE0b+DI5K6L80tJIl3NX901R9Net70",
     "4O107O102O102CeTJ4OF01PT03L201PE04L80iCJYe40ZBG50DG309G70AG208GZwS0dQR60jKRYC0XE",
     "O20NO90ZKOXS0dM5A0X75201AbK5BH2OL0Y68ZQ0KPC0KKC0YN790I97Ka70YL510Y75102520152025",
     "204510C510151045172510Y1510452085107510S5104510551015307510gI52820f252920XI5qCHF",
     "05H10FHXYG0VO606PcL07I10HI207I102I105I50XUPX101PZG0XDL30EL20AL402Lg00VOH0XQL501L",
     "kG0XAPcM0XBR401Rl007O104O102O10FO10c5G20GGX90YBI1L40AI402IuH0Y4KYC0XTLc204D10RD1",
     "02D101D201D10AD104D101D101D601D401D101D101D103D102D101D201D101D101D101D101D102D1",
     "01D204D107D104D104D101D10AD10HD503D105D10HDXK02DeE0XCA40Z4AC0FC20EC1G10FC10FCMGA",
     "0BB2G3NVB1K1C1BBC1B1C1B2C1B3C1B3C5B8C1B7C1BAC2D1L3N9C1B1C2B2C1BAC4B2C1BACII1NXO0",
     "QC1B2CD0X2B9C1I409B702CE06JaQ0X1CCG3H6C1GY6C1G2HKCCGX5C1G5C4G5HCGHC7G8HXVC1G1C1G",
     "bMC1G4C2G1HXUC2G4D7G5HOCIG1IX9G1IYMG5C1DGC1D3C1D1C1D1C1D1C1D3C1D6C2D4C1D1C2D4C1D",
     "CC2G2HBCXGGY6CAG1H2I2J1L2N401P3ODG304G3I2J1K1L2N30ZKC3P405PYLG4K1P60CL401OF0CG40",
     "XOG80AG60X8G80UG202NAR402RXU0CJ1N3L9H6I1J8I8J1I2JCI1LCI1J3KFIDJ5K1L1N4K2N1O1K1L4",
     "K5HDI6JBK2N6L3N2LAK6L1H2K8L1N1O3LNJPKYKLC0EK204L1N3P3L2O303L4N2P1R501R6LJN4O3P7N",
     "4O3P1R1P3N3O1R702P7N3O2P1R201R8O1P1R607O2P70aJN10XNNX5RANXW4022XfsN57N2OX00aXLB4",
     "O1P60cUC20bq2HE0dfHJF0pEQYj20mU5Xl0022awBN50aZ0PXtYE022X++U022X++U022X++U022X++U",
     "022X++U022X++U022X++U022X++U022X++U022X++U0221015U0Z05a00dG7X+mE0aWW22"]

/-- The code points that were assigned in a version or before. -/
def named?
    (name : String) : Option CodePointSet :=
  (partition.index? name).map fun i => partition.whose fun j => 0 < j && j ≤ i

end Age
end Unicode
end TriggerScript
