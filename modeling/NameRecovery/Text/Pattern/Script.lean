import NameRecovery.Text.Pattern

/-!
# Scripts

The scripts of Unicode by name.  Of the characters only those of ASCII are listed.

## Main definitions

* `CharSet.Entry` : a row of a table of classes.
* `CharSet.scripts` : the scripts.
-/

namespace NameRecovery.Text.CharSet

/-- A class with its names: its members within ASCII, and the room that an automaton takes for
it and for its complement. -/
abbrev Entry := List String × List (Nat × Nat) × Nat × Nat

/-- The scripts. -/
def scripts : List Entry :=
  [(["adlm", "adlam"], [], 337, 1374),
    (["aghb", "caucasianalbanian"], [], 300, 1305),
    (["ahom"], [], 337, 1405),
    (["arab", "arabic"], [], 3592, 4797),
    (["armi", "imperialaramaic"], [], 236, 1237),
    (["armn", "armenian"], [], 441, 1544),
    (["avst", "avestan"], [], 235, 1201),
    (["bali", "balinese"], [], 268, 1200),
    (["bamu", "bamum"], [], 432, 1710),
    (["bass", "bassavah"], [], 233, 1373),
    (["batk", "batak"], [], 200, 1200),
    (["beng", "bengali"], [], 703, 1602),
    (["bhks", "bhaiksuki"], [], 373, 1441),
    (["bopo", "bopomofo"], [], 300, 1645),
    (["brah", "brahmi"], [], 339, 1269),
    (["brai", "braille"], [], 164, 1232),
    (["bugi", "buginese"], [], 201, 1236),
    (["buhd", "buhid"], [], 164, 1200),
    (["cakm", "chakma"], [], 300, 1369),
    (["cans", "canadianaboriginal"], [], 433, 1672),
    (["cari", "carian"], [], 265, 1269),
    (["cham"], [], 305, 1442),
    (["cher", "cherokee"], [], 436, 1641),
    (["chrs", "chorasmian"], [], 264, 1201),
    (["copt", "coptic", "qaac"], [], 336, 1472),
    (["cpmn", "cyprominoan"], [], 264, 1301),
    (["cprt", "cypriot"], [], 378, 1345),
    (["cyrl", "cyrillic"], [], 1245, 2966),
    (["deva", "devanagari"], [], 536, 1808),
    (["diak", "divesakuru"], [], 517, 1589),
    (["dogr", "dogra"], [], 196, 1301),
    (["dsrt", "deseret"], [], 265, 1201),
    (["dupl", "duployan"], [], 443, 1476),
    (["egyp", "egyptianhieroglyphs"], [], 537, 1332),
    (["elba", "elbasan"], [], 196, 1201),
    (["elym", "elymaic"], [], 196, 1168),
    (["ethi", "ethiopic"], [], 2025, 3527),
    (["gara", "garay"], [], 338, 1304),
    (["geor", "georgian"], [], 654, 1857),
    (["glag", "glagolitic"], [], 511, 1715),
    (["gong", "gunjalagondi"], [], 446, 1551),
    (["gonm", "masaramgondi"], [], 480, 1548),
    (["goth", "gothic"], [], 264, 1269),
    (["gran", "grantha"], [], 777, 1846),
    (["grek", "greek"], [], 2247, 3963),
    (["gujr", "gujarati"], [], 700, 1602),
    (["gukh", "gurungkhema"], [], 196, 1302),
    (["guru", "gurmukhi"], [], 773, 1710),
    (["hang", "hangul"], [], 1457, 2673),
    (["hani", "han"], [], 3627, 3636),
    (["hano", "hanunoo"], [], 164, 1237),
    (["hatr", "hatran"], [], 268, 1273),
    (["hebr", "hebrew"], [], 586, 1725),
    (["hira", "hiragana"], [], 743, 2218),
    (["hluw", "anatolianhieroglyphs"], [], 265, 1301),
    (["hmng", "pahawhhmong"], [], 477, 1476),
    (["hmnp", "nyiakengpuachuehmong"], [], 337, 1443),
    (["hung", "oldhungarian"], [], 304, 1269),
    (["ital", "olditalic"], [], 233, 1236),
    (["java", "javanese"], [], 304, 1373),
    (["kali", "kayahli"], [], 200, 1337),
    (["kana", "katakana"], [], 1222, 2942),
    (["kawi"], [], 336, 1406),
    (["khar", "kharoshthi"], [], 518, 1484),
    (["khmr", "khmer"], [], 372, 1408),
    (["khoj", "khojki"], [], 301, 1369),
    (["kits", "khitansmallscript"], [], 400, 1604),
    (["knda", "kannada"], [], 665, 1564),
    (["krai", "kiratrai"], [], 196, 1302),
    (["kthi", "kaithi"], [], 303, 1337),
    (["lana", "taitham"], [], 444, 1445),
    (["laoo", "lao"], [], 556, 1529),
    (["latn", "latin"], [(0x41, 0x5a), (0x61, 0x7a)], 2856, 4913),
    (["lepc", "lepcha"], [], 305, 1304),
    (["limb", "limbu"], [], 341, 1377),
    (["lina", "lineara"], [], 371, 1304),
    (["linb", "linearb"], [], 583, 1415),
    (["lisu"], [], 296, 1673),
    (["lyci", "lycian"], [], 196, 1202),
    (["lydi", "lydian"], [], 232, 1237),
    (["mahj", "mahajani"], [], 196, 1337),
    (["maka", "makasar"], [], 196, 1337),
    (["mand", "mandaic"], [], 200, 1136),
    (["mani", "manichaean"], [], 232, 1237),
    (["marc", "marchen"], [], 336, 1441),
    (["medf", "medefaidrin"], [], 265, 1301),
    (["mend", "mendekikakui"], [], 301, 1336),
    (["merc", "meroiticcursive"], [], 336, 1304),
    (["mero", "meroitichieroglyphs"], [], 196, 1201),
    (["mlym", "malayalam"], [], 448, 1313),
    (["modi"], [], 300, 1337),
    (["mong", "mongolian"], [], 541, 1781),
    (["mroo", "mro"], [], 269, 1373),
    (["mtei", "meeteimayek"], [], 268, 1509),
    (["mult", "multani"], [], 341, 1445),
    (["mymr", "myanmar"], [], 532, 2015),
    (["nagm", "nagmundari"], [], 196, 1336),
    (["nand", "nandinagari"], [], 336, 1442),
    (["narb", "oldnortharabian"], [], 196, 1201),
    (["nbat", "nabataean"], [], 233, 1238),
    (["newa"], [], 301, 1337),
    (["nkoo", "nko"], [], 168, 1032),
    (["nshu", "nushu"], [], 432, 1673),
    (["ogam", "ogham"], [], 164, 1201),
    (["olck", "olchiki"], [], 164, 1200),
    (["onao", "olonal"], [], 234, 1336),
    (["orkh", "oldturkic"], [], 265, 1201),
    (["orya", "oriya"], [], 700, 1636),
    (["osge", "osage"], [], 301, 1306),
    (["osma", "osmanya"], [], 233, 1237),
    (["ougr", "olduyghur"], [], 264, 1269),
    (["palm", "palmyrene"], [], 196, 1201),
    (["pauc", "paucinhau"], [], 196, 1301),
    (["perm", "oldpermic"], [], 196, 1236),
    (["phag", "phagspa"], [], 164, 1301),
    (["phli", "inscriptionalpahlavi"], [], 233, 1237),
    (["phlp", "psalterpahlavi"], [], 268, 1273),
    (["phnx", "phoenician"], [], 233, 1237),
    (["plrd", "miao"], [], 405, 1405),
    (["prti", "inscriptionalparthian"], [], 233, 1236),
    (["rjng", "rejang"], [], 268, 1407),
    (["rohg", "hanifirohingya"], [], 232, 1236),
    (["runr", "runic"], [], 268, 1305),
    (["samr", "samaritan"], [], 200, 1068),
    (["sarb", "oldsoutharabian"], [], 196, 1201),
    (["saur", "saurashtra"], [], 268, 1337),
    (["sgnw", "signwriting"], [], 337, 1373),
    (["shaw", "shavian"], [], 196, 1201),
    (["shrd", "sharada"], [], 265, 1301),
    (["sidd", "siddham"], [], 303, 1369),
    (["sind", "khudawadi"], [], 301, 1405),
    (["sinh", "sinhala"], [], 726, 1940),
    (["sogd", "sogdian"], [], 264, 1269),
    (["sogo", "oldsogdian"], [], 196, 1201),
    (["sora", "sorasompeng"], [], 232, 1374),
    (["soyo", "soyombo"], [], 265, 1369),
    (["sund", "sundanese"], [], 232, 1268),
    (["sunu", "sunuwar"], [], 233, 1337),
    (["sylo", "sylotinagri"], [], 164, 1301),
    (["syrc", "syriac"], [], 372, 1377),
    (["tagb", "tagbanwa"], [], 237, 1309),
    (["takr", "takri"], [], 264, 1369),
    (["tale", "taile"], [], 200, 1272),
    (["talu", "newtailue"], [], 340, 1341),
    (["taml", "tamil"], [], 944, 1978),
    (["tang", "tangut"], [], 600, 1576),
    (["tavt", "taiviet"], [], 268, 1337),
    (["telu", "telugu"], [], 666, 1530),
    (["tfng", "tifinagh"], [], 305, 1404),
    (["tglg", "tagalog"], [], 200, 1236),
    (["thaa", "thaana"], [], 132, 1100),
    (["thai"], [], 232, 1204),
    (["tibt", "tibetan"], [], 586, 1313),
    (["tirh", "tirhuta"], [], 301, 1337),
    (["tnsa", "tangsa"], [], 333, 1437),
    (["todr", "todhri"], [], 196, 1201),
    (["toto"], [], 196, 1336),
    (["tutg", "tulutigalari"], [], 626, 1696),
    (["ugar", "ugaritic"], [], 233, 1237),
    (["vaii", "vai"], [], 233, 1301),
    (["vith", "vithkuqi"], [], 518, 1521),
    (["wara", "warangciti"], [], 301, 1369),
    (["wcho", "wancho"], [], 233, 1301),
    (["xpeo", "oldpersian"], [], 301, 1304),
    (["xsux", "cuneiform"], [], 575, 1474),
    (["yezi", "yezidi"], [], 269, 1275),
    (["yiii", "yi"], [], 338, 1300),
    (["zanb", "zanabazarsquare"], [], 265, 1301),
    (["zinh", "inherited", "qaai"], [], 2411, 5410),
    (["zyyy", "common"], [(0x00, 0x40), (0x5b, 0x60), (0x7b, 0x7f)], 12648, 15582)]

end NameRecovery.Text.CharSet
