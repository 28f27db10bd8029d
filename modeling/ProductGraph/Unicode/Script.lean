import ProductGraph.Unicode.Table

/-!
# Scripts

The writing system of a character.  Characters of several scripts belong to one of two scripts of their own.
-/

namespace ProductGraph
namespace Unicode
namespace Script

/-- The code points of each script. -/
def table : Table :=
  [(["adlm", "adlam"], "1E900 4B 4 9 4 1"),
   (["aghb", "caucasianalbanian"], "10530 33 B 0"),
   (["ahom"], "11700 1A 2 E 4 16"),
   (["arab", "arabic"], "600 4 1 5 1 D 1 2 1 1F 1 9 B 19 1 6B 1 21 50 2F F0 1E 1 1 5 4A 1 1C F250 72 10 " ++
     "16A 2 4F 2 35 7 0 20 F 70 4 1 86 F63 1E 43 2 37 3 DF00 3 1 1A 1 1 1 0 2 0 1 9 1 3 1 0 1 0 6 0 4 0 " ++
     "1 0 1 0 1 2 1 1 1 0 2 0 1 0 1 0 1 0 1 0 1 1 1 0 2 3 1 6 1 3 1 3 1 0 1 9 1 10 5 2 1 4 1 10 34 1"),
   (["armi", "imperialaramaic"], "10840 15 1 8"),
   (["armn", "armenian"], "531 25 2 31 2 2 F583 4"),
   (["avst", "avestan"], "10B00 35 3 6"),
   (["bali", "balinese"], "1B00 4C 1 31"),
   (["bamu", "bamum"], "A6A0 57 C108 238"),
   (["bass", "bassavah"], "16AD0 1D 2 5"),
   (["batk", "batak"], "1BC0 33 8 3"),
   (["beng", "bengali"], "980 3 1 7 2 1 2 15 1 6 1 0 3 3 2 8 2 1 2 3 8 0 4 1 1 4 2 18"),
   (["bhks", "bhaiksuki"], "11C00 8 1 2C 1 D A 1C"),
   (["bopo", "bopomofo"], "2EA 1 2E19 2A 70 1F"),
   (["brah", "brahmi"], "11000 4D 4 23 9 0"),
   (["brai", "braille"], "2800 FF"),
   (["bugi", "buginese"], "1A00 1B 2 1"),
   (["buhd", "buhid"], "1740 13"),
   (["cakm", "chakma"], "11100 34 1 11"),
   (["cans", "canadianaboriginal"], "1400 27F 230 45 101BA F"),
   (["cari", "carian"], "102A0 30"),
   (["cham"], "AA00 36 9 D 2 9 2 3"),
   (["cher", "cherokee"], "13A0 55 2 5 9772 4F"),
   (["chrs", "chorasmian"], "10FB0 1B"),
   (["copt", "coptic", "qaac"], "3E2 D 2890 73 5 6"),
   (["cpmn", "cyprominoan"], "12F90 62"),
   (["cprt", "cypriot"], "10800 5 2 0 1 2B 1 1 3 0 2 0"),
   (["cyrl", "cyrillic"], "400 84 2 A8 1750 A A0 0 4C 0 1067 1F 7840 5F 578E 1 E200 3D 21 0"),
   (["deva", "devanagari"], "900 50 4 E 2 19 9F60 1F 7200 9"),
   (["diak", "divesakuru"], "11900 6 2 0 2 7 1 1 1 1D 1 1 2 B 9 9"),
   (["dogr", "dogra"], "11800 3B"),
   (["dsrt", "deseret"], "10400 4F"),
   (["dupl", "duployan"], "1BC00 6A 5 C 3 8 7 9 2 3"),
   (["egyp", "egyptianhieroglyphs"], "13000 455 A F9A"),
   (["elba", "elbasan"], "10500 27"),
   (["elym", "elymaic"], "10FE0 16"),
   (["ethi", "ethiopic"], "1200 48 1 3 2 6 1 0 1 3 2 28 1 3 2 20 1 3 2 6 1 0 1 3 2 E 1 38 1 3 2 42 2 1F " ++
     "3 19 19E6 16 9 6 1 6 1 6 1 6 1 6 1 6 1 6 1 6 7D22 5 2 5 2 5 9 6 1 6 13CB1 6 1 3 1 1 1 E"),
   (["gara", "garay"], "10D40 25 3 1C 8 1"),
   (["geor", "georgian"], "10A0 25 1 0 5 0 2 2A 1 3 B90 2A 2 2 1040 25 1 0 5 0"),
   (["glag", "glagolitic"], "2C00 5F 1B3A0 6 1 10 2 6 1 1 1 4"),
   (["gong", "gunjalagondi"], "11D60 5 1 1 1 24 1 1 1 5 7 9"),
   (["gonm", "masaramgondi"], "11D00 6 1 1 1 2B 3 0 1 1 1 8 8 9"),
   (["goth", "gothic"], "10330 1A"),
   (["gran", "grantha"], "11300 3 1 7 2 1 2 15 1 6 1 1 1 4 2 8 2 1 2 2 2 0 6 0 5 6 2 6 3 4"),
   (["grek", "greek"], "370 3 1 2 2 3 1 0 4 0 1 0 1 2 1 0 1 13 1 3E E F 1926 4 32 4 4 4 54 0 140 15 2 5 " ++
     "2 25 2 5 2 7 1 0 1 0 1 0 1 1E 2 34 1 E 1 D 2 5 1 12 2 2 1 8 127 0 8A3E 0 55DA 4E 11 0 D05F 45"),
   (["gujr", "gujarati"], "A81 2 1 8 1 2 1 15 1 6 1 1 1 4 2 9 1 2 1 2 2 0 F 3 2 B 7 6"),
   (["gukh", "gurungkhema"], "16100 39"),
   (["guru", "gurmukhi"], "A01 2 1 5 4 1 2 15 1 6 1 1 1 1 1 1 2 0 1 4 4 1 2 2 3 0 7 3 1 0 7 10"),
   (["hang", "hangul"], "1100 FF 1E2E 1 101 5D 71 1E 41 1E 76E1 1C 283 2BA3 C 16 4 30 27A4 1E 3 5 2 5 2 " ++
     "5 2 2"),
   (["hani", "han"], "2E80 19 1 58 C D5 2F 0 1 0 19 8 E 3 3C4 19BF 40 51FF 5900 16D 2 69 7508 1 C 1 900E " ++
     "A6DF 20 1039 6 DD 2 1681 E 1D30 F 26D 9A2 21D 5E2 134A 5 105F"),
   (["hano", "hanunoo"], "1720 14"),
   (["hatr", "hatran"], "108E0 12 1 1 5 4"),
   (["hebr", "hebrew"], "591 36 8 1A 4 5 F528 19 1 4 1 0 1 1 1 1 1 9"),
   (["hira", "hiragana"], "3041 55 6 2 17F61 11E 12 0 1D 2 40AD 0"),
   (["hluw", "anatolianhieroglyphs"], "14400 246"),
   (["hmng", "pahawhhmong"], "16B00 45 A 9 1 6 1 14 5 12"),
   (["hmnp", "nyiakengpuachuehmong"], "1E100 2C 3 D 2 9 4 1"),
   (["hung", "oldhungarian"], "10C80 32 D 32 7 5"),
   (["ital", "olditalic"], "10300 23 9 2"),
   (["java", "javanese"], "A980 4D 2 9 4 1"),
   (["kali", "kayahli"], "A900 2D 1 0"),
   (["kana", "katakana"], "30A1 59 2 2 F0 F D0 2E 1 57 CC0E 9 1 2C B052 3 1 6 1 1 1 0 11F 2 32 0 E 3"),
   (["kawi"], "11F00 10 1 28 3 1C"),
   (["khar", "kharoshthi"], "10A00 3 1 1 5 7 1 2 1 1C 2 2 4 9 7 8"),
   (["khmr", "khmer"], "1780 5D 2 9 6 9 1E6 1F"),
   (["khoj", "khojki"], "11200 11 1 2E"),
   (["kits", "khitansmallscript"], "16FE4 0 1B1B 1D5 29 0"),
   (["knda", "kannada"], "C80 C 1 2 1 16 1 9 1 4 2 8 1 2 1 3 7 1 6 1 1 3 2 9 1 2"),
   (["krai", "kiratrai"], "16D40 39"),
   (["kthi", "kaithi"], "11080 42 A 0"),
   (["lana", "taitham"], "1A20 3E 1 1C 2 A 6 9 6 D"),
   (["laoo", "lao"], "E81 1 1 0 1 4 1 17 1 0 1 16 2 4 1 0 1 6 1 9 2 3"),
   (["latn", "latin"], "41 19 6 19 2F 0 F 0 5 16 1 1E 1 1C0 27 4 1A1B 25 6 30 5 3 5 C 1 45 41 FF 171 0 D " ++
     "0 10 C 8D 1 6 0 1B 0 11 28 AD7 1F 7AA2 65 3 42 2 1 1 0 1 7 15 D 330 2A 1 8 1 3 4F96 6 41A 19 6 19 " ++
     "825 5 1 29 1 8 D745 1E 6 5"),
   (["lepc", "lepcha"], "1C00 37 3 E 3 2"),
   (["limb", "limbu"], "1900 1E 1 B 4 B 4 0 3 B"),
   (["lina", "lineara"], "10600 136 9 15 A 7"),
   (["linb", "linearb"], "10000 B 1 19 1 12 1 1 1 E 2 D 22 7A"),
   (["lisu"], "A4D0 2F 7AB0 0"),
   (["lyci", "lycian"], "10280 1C"),
   (["lydi", "lydian"], "10920 19 5 0"),
   (["mahj", "mahajani"], "11150 26"),
   (["maka", "makasar"], "11EE0 18"),
   (["mand", "mandaic"], "840 1B 2 0"),
   (["mani", "manichaean"], "10AC0 26 4 B"),
   (["marc", "marchen"], "11C70 1F 2 15 1 D"),
   (["medf", "medefaidrin"], "16E40 5A"),
   (["mend", "mendekikakui"], "1E800 C4 2 F"),
   (["merc", "meroiticcursive"], "109A0 17 4 13 2 2D"),
   (["mero", "meroitichieroglyphs"], "10980 1F"),
   (["mlym", "malayalam"], "D00 C 1 2 1 32 1 2 1 5 4 F 2 19"),
   (["modi"], "11600 44 B 9"),
   (["mong", "mongolian"], "1800 1 2 0 1 13 6 58 7 2A FDB5 C"),
   (["mroo", "mro"], "16A40 1E 1 9 4 1"),
   (["mtei", "meeteimayek"], "AAE0 16 C9 2D 2 9"),
   (["mult", "multani"], "11280 6 1 0 1 3 1 E 1 A"),
   (["mymr", "myanmar"], "1000 9F 9940 1E 61 1F 6C50 13"),
   (["nagm", "nagmundari"], "1E4D0 29"),
   (["nand", "nandinagari"], "119A0 7 2 2D 2 A"),
   (["narb", "oldnortharabian"], "10A80 1F"),
   (["nbat", "nabataean"], "10880 1E 8 8"),
   (["newa"], "11400 5B 1 4"),
   (["nkoo", "nko"], "7C0 3A 2 2"),
   (["nshu", "nushu"], "16FE1 0 418E 18B"),
   (["ogam", "ogham"], "1680 1C"),
   (["olck", "olchiki"], "1C50 2F"),
   (["onao", "olonal"], "1E5D0 2A 4 0"),
   (["orkh", "oldturkic"], "10C00 48"),
   (["orya", "oriya"], "B01 2 1 7 2 1 2 15 1 6 1 1 1 4 2 8 2 1 2 2 7 2 4 1 1 4 2 11"),
   (["osge", "osage"], "104B0 23 4 23"),
   (["osma", "osmanya"], "10480 1D 2 9"),
   (["ougr", "olduyghur"], "10F70 19"),
   (["palm", "palmyrene"], "10860 1F"),
   (["pauc", "paucinhau"], "11AC0 38"),
   (["perm", "oldpermic"], "10350 2A"),
   (["phag", "phagspa"], "A840 37"),
   (["phli", "inscriptionalpahlavi"], "10B60 12 5 7"),
   (["phlp", "psalterpahlavi"], "10B80 11 7 3 C 6"),
   (["phnx", "phoenician"], "10900 1B 3 0"),
   (["plrd", "miao"], "16F00 4A 4 38 7 10"),
   (["prti", "inscriptionalparthian"], "10B40 15 2 7"),
   (["rjng", "rejang"], "A930 23 B 0"),
   (["rohg", "hanifirohingya"], "10D00 27 8 9"),
   (["runr", "runic"], "16A0 4A 3 A"),
   (["samr", "samaritan"], "800 2D 2 E"),
   (["sarb", "oldsoutharabian"], "10A60 1F"),
   (["saur", "saurashtra"], "A880 45 8 B"),
   (["sgnw", "signwriting"], "1D800 28B F 4 1 E"),
   (["shaw", "shavian"], "10450 2F"),
   (["shrd", "sharada"], "11180 5F"),
   (["sidd", "siddham"], "11580 35 2 25"),
   (["sind", "khudawadi"], "112B0 3A 5 9"),
   (["sinh", "sinhala"], "D81 2 1 11 3 17 1 8 1 0 2 6 3 0 4 5 1 0 1 7 6 9 2 2 103EC 13"),
   (["sogd", "sogdian"], "10F30 29"),
   (["sogo", "oldsogdian"], "10F00 27"),
   (["sora", "sorasompeng"], "110D0 18 7 9"),
   (["soyo", "soyombo"], "11A50 52"),
   (["sund", "sundanese"], "1B80 3F 100 7"),
   (["sunu", "sunuwar"], "11BC0 21 E 9"),
   (["sylo", "sylotinagri"], "A800 2C"),
   (["syrc", "syriac"], "700 D 1 3B 2 2 110 A"),
   (["tagb", "tagbanwa"], "1760 C 1 2 1 1"),
   (["takr", "takri"], "11680 39 6 9"),
   (["tale", "taile"], "1950 1D 2 4"),
   (["talu", "newtailue"], "1980 2B 4 19 6 A 3 1"),
   (["taml", "tamil"], "B82 1 1 5 3 2 1 3 3 1 1 0 1 1 3 1 3 2 3 B 4 4 3 2 1 3 2 0 6 0 E 14 113C5 31 D 0"),
   (["tang", "tangut"], "16FE0 0 1F 17F7 8 2FF 200 8"),
   (["tavt", "taiviet"], "AA80 42 18 4"),
   (["telu", "telugu"], "C00 C 1 2 1 16 1 F 2 8 1 2 1 3 7 1 1 2 2 0 2 3 2 9 7 8"),
   (["tfng", "tifinagh"], "2D30 37 7 1 E 0"),
   (["tglg", "tagalog"], "1700 15 9 0"),
   (["thaa", "thaana"], "780 31"),
   (["thai"], "E01 39 5 1B"),
   (["tibt", "tibetan"], "F00 47 1 23 4 26 1 23 1 E 1 6 4 1"),
   (["tirh", "tirhuta"], "11480 47 8 9"),
   (["tnsa", "tangsa"], "16A70 4E 1 9"),
   (["todr", "todhri"], "105C0 33"),
   (["toto"], "1E290 1E"),
   (["tutg", "tulutigalari"], "11380 9 1 0 2 0 1 25 1 9 1 0 2 0 1 3 1 9 1 1 8 1"),
   (["ugar", "ugaritic"], "10380 1D 1 0"),
   (["vaii", "vai"], "A500 12B"),
   (["vith", "vithkuqi"], "10570 A 1 E 1 6 1 1 1 A 1 E 1 6 1 1"),
   (["wara", "warangciti"], "118A0 52 C 0"),
   (["wcho", "wancho"], "1E2C0 39 5 0"),
   (["xpeo", "oldpersian"], "103A0 23 4 D"),
   (["xsux", "cuneiform"], "12000 399 66 6E 1 4 B C3"),
   (["yezi", "yezidi"], "10E80 29 1 2 2 1"),
   (["yiii", "yi"], "A000 48C 3 36"),
   (["zanb", "zanabazarsquare"], "11A00 47"),
   (["zinh", "inherited", "qaai"], "300 6F 115 1 1C4 A 1A 0 2E0 3 115B 1E 201 2 1 C 1 6 4 0 6 0 3 1 C6 " ++
     "3F 20C 1 C2 20 F39 3 6B 1 CD65 F 10 D 3CF 0 E2 0 105A 0 BBC4 2D 2 16 220 2 11 7 2 6 1E 3 C2F52 EF"),
   (["zyyy", "common"], "0 40 1A 5 1A 2E 1 E 1 4 17 0 1F 0 1C1 26 5 4 2 13 74 0 9 0 6 0 1 0 27D 0 6 0 E " ++
     "0 3 0 20 0 9C 0 204 0 81 1 4D9 0 195 3 122 0 5EF 2 47 1 CB 1 1 0 4CD 0 D 0 7 3 1 5 1 2 2 0 305 B 2 " ++
     "56 1 A 3 A 1 E 11 20 3F 25 1 2 2 5 1 1A 1 10 29 2 4 299 16 A 15 39F 100 273 2 1F 1 68 200 5D 192 " ++
     "14 1 0 1 18 F 7 4 3 5B 1 3 0 5A 1 93 F 20 25 9 0 30 3F 1F 50 2F 0 58 A7 19C0 3F 5900 21 66 2 A5 9 " ++
     "F4 0 A0 0 18B 0 E 1 51D2 1 D0 9 16 22 1 12 1 3 93 0 1 1F 1A 5 1A A A 0 2D 1 40 6 1 6 A 4 102 2 4 " ++
     "2C 3 8 50 C 33 2C E4 1A B9A4 3 F5C F9 6 1B3 9C 73 3C F5 A 26 2 3D 3 10 8 1 7 1D 4 3C D5 13 C 13 C " ++
     "56 9 18 87 54 1 46 1 1 2 0 2 1 2 3 1 B 1 0 1 6 1 40 1 3 2 7 1 6 1 1B 1 3 1 4 1 0 3 6 1 153 2 123 2 " ++
     "31 1471 43 4C 3C 2C2 2B 4 63 C E 2 E 1 E 1 24 A AD 38 19 1 1 D 2B 4 8 7 1 E 5 9A 3D7 4 10 3 C 3 76 " ++
     "4 5E 6 B 4 0 F B 4 37 8 9 6 27 8 1D 2 B 4 1 3E 153 C D 2 C 3 9 5 37 7 E 2 A 6 8 7 92 1 65 C0407 0 " ++
     "1E 5F")]

end Script
end Unicode
end ProductGraph
