import NameRecovery.Text.Pattern.Script
import NameRecovery.Text.Pattern.Word

/-!
# Named classes of characters

Patterns name classes of characters in three ways: by a letter, by an ASCII class, and by a
Unicode property.  Patterns are looked for in messages, and messages are printable ASCII, so
most tables of Unicode properties list the ASCII members only; a class without any is known but
empty.

Names of properties are compared without regard to case, blanks, underscores and hyphens, and
without a leading `is`.

## Main definitions

* `CharSet.digit`, `CharSet.space`, `CharSet.word` : the classes named by a letter.
* `CharSet.ofAsciiName?` : the ASCII classes.
* `CharSet.ofProperty?`, `CharSet.ofPropertyValue?` : the Unicode properties.
-/

namespace NameRecovery.Text.CharSet

/-! ### Classes named by a letter -/

/-- The decimal digits, of ASCII or of all scripts. -/
def digit (unicode : Bool) : CharSet :=
  if unicode then listed digitRanges true 5124 12759 else ranges [(0x30, 0x39)]

/-- White space, of ASCII or all. -/
def space (unicode : Bool) : CharSet :=
  if unicode then
    ranges [(0x09, 0x0d), (0x20, 0x20), (0x85, 0x85), (0xa0, 0xa0), (0x1680, 0x1680),
      (0x2000, 0x200a), (0x2028, 0x2029), (0x202f, 0x202f), (0x205f, 0x205f), (0x3000, 0x3000)]
  else ranges [(0x09, 0x0d), (0x20, 0x20)]

/-- The characters of words, of ASCII or of all scripts. -/
def word (unicode : Bool) : CharSet :=
  if unicode then listed wordRanges true 49996 46552
  else ranges [(0x30, 0x39), (0x41, 0x5a), (0x5f, 0x5f), (0x61, 0x7a)]

/-! ### ASCII classes -/

/-- The ASCII classes. -/
def ofAsciiName? : String → Option CharSet
  | "alnum" => some (ranges [(0x30, 0x39), (0x41, 0x5a), (0x61, 0x7a)])
  | "alpha" => some (ranges [(0x41, 0x5a), (0x61, 0x7a)])
  | "ascii" => some (ranges [(0x00, 0x7f)])
  | "blank" => some (ranges [(0x09, 0x09), (0x20, 0x20)])
  | "cntrl" => some (ranges [(0x00, 0x1f), (0x7f, 0x7f)])
  | "digit" => some (ranges [(0x30, 0x39)])
  | "graph" => some (ranges [(0x21, 0x7e)])
  | "lower" => some (ranges [(0x61, 0x7a)])
  | "print" => some (ranges [(0x20, 0x7e)])
  | "punct" => some (ranges [(0x21, 0x2f), (0x3a, 0x40), (0x5b, 0x60), (0x7b, 0x7e)])
  | "space" => some (ranges [(0x09, 0x0d), (0x20, 0x20)])
  | "upper" => some (ranges [(0x41, 0x5a)])
  | "word" => some (ranges [(0x30, 0x39), (0x41, 0x5a), (0x5f, 0x5f), (0x61, 0x7a)])
  | "xdigit" => some (ranges [(0x30, 0x39), (0x41, 0x46), (0x61, 0x66)])
  | _ => none

/-! ### Unicode properties -/

/-- The general categories. -/
def generalCategories : List Entry :=
  [(["c", "other"], [(0x00, 0x1f), (0x7f, 0x7f)], 43138, 50893),
    (["cc", "control", "cntrl"], [(0x00, 0x1f), (0x7f, 0x7f)], 204, 1032),
    (["cf", "format"], [], 1786, 4782),
    (["cn", "unassigned"], [], 42486, 51125),
    (["co", "privateuse"], [], 864, 1196),
    (["l", "letter"], [(0x41, 0x5a), (0x61, 0x7a)], 42834, 42956),
    (["lc", "casedletter"], [(0x41, 0x5a), (0x61, 0x7a)], 9591, 11348),
    (["ll", "lowercaseletter"], [(0x61, 0x7a)], 27630, 31224),
    (["lm", "modifierletter"], [], 4989, 10742),
    (["lo", "otherletter"], [], 34174, 36804),
    (["lt", "titlecaseletter"], [], 552, 1696),
    (["lu", "uppercaseletter"], [(0x41, 0x5a)], 26532, 30136),
    (["m", "mark", "combiningmark"], [], 18775, 27151),
    (["mc", "spacingmark"], [], 10330, 15958),
    (["me", "enclosingmark"], [], 473, 2088),
    (["mn", "nonspacingmark"], [], 19392, 28943),
    (["n", "number"], [(0x30, 0x39)], 9760, 20452),
    (["nd", "decimalnumber", "digit"], [(0x30, 0x39)], 5124, 12759),
    (["nl", "letternumber"], [], 1113, 3179),
    (["no", "othernumber"], [], 5116, 11020),
    (["p", "punctuation", "punct"], [(0x21, 0x23), (0x25, 0x2a), (0x2c, 0x2f), (0x3a, 0x3b),
      (0x3f, 0x40), (0x5b, 0x5d), (0x5f, 0x5f), (0x7b, 0x7b), (0x7d, 0x7d)], 11912, 22875),
    (["pc", "connectorpunctuation"], [(0x5f, 0x5f)], 540, 1884),
    (["pd", "dashpunctuation"], [(0x2d, 0x2d)], 1393, 3612),
    (["pe", "closepunctuation"], [(0x29, 0x29), (0x5d, 0x5d), (0x7d, 0x7d)], 3504, 5980),
    (["pf", "finalpunctuation"], [], 552, 1798),
    (["pi", "initialpunctuation"], [], 591, 1833),
    (["po", "otherpunctuation"], [(0x21, 0x23), (0x25, 0x27), (0x2a, 0x2a), (0x2c, 0x2c),
      (0x2e, 0x2f), (0x3a, 0x3b), (0x3f, 0x40), (0x5c, 0x5c)], 11236, 21580),
    (["ps", "openpunctuation"], [(0x28, 0x28), (0x5b, 0x5b), (0x7b, 0x7b)], 3650, 6048),
    (["s", "symbol"], [(0x24, 0x24), (0x2b, 0x2b), (0x3c, 0x3e), (0x5e, 0x5e), (0x60, 0x60),
      (0x7c, 0x7c), (0x7e, 0x7e)], 15832, 21364),
    (["sc", "currencysymbol"], [(0x24, 0x24)], 1727, 4725),
    (["sk", "modifiersymbol"], [(0x5e, 0x5e), (0x60, 0x60)], 2024, 4505),
    (["sm", "mathsymbol"], [(0x2b, 0x2b), (0x3c, 0x3e), (0x7c, 0x7c), (0x7e, 0x7e)], 3966, 6956),
    (["so", "othersymbol"], [], 13121, 16985),
    (["z", "separator"], [(0x20, 0x20)], 608, 1854),
    (["zl", "lineseparator"], [], 96, 1268),
    (["zp", "paragraphseparator"], [], 96, 1268),
    (["zs", "spaceseparator"], [(0x20, 0x20)], 572, 1818),
    (["any"], [(0x00, 0x7f)], 964, 64),
    (["assigned"], [(0x00, 0x7f)], 51125, 42486),
    (["ascii"], [(0x00, 0x7f)], 72, 928)]

/-- The properties that a character has or has not. -/
def binaryProperties : List Entry :=
  [(["ahex", "asciihexdigit"], [(0x30, 0x39), (0x41, 0x46), (0x61, 0x66)], 88, 1072),
    (["alpha", "alphabetic"], [(0x41, 0x5a), (0x61, 0x7a)], 47172, 44591),
    (["bidic", "bidicontrol"], [], 337, 1580),
    (["ci", "caseignorable"], [(0x27, 0x27), (0x2e, 0x2e), (0x3a, 0x3a), (0x5e, 0x5e),
      (0x60, 0x60)], 24560, 34995),
    (["cwcf", "changeswhencasefolded"], [(0x41, 0x5a)], 25100, 28572),
    (["cwcm", "changeswhencasemapped"], [(0x41, 0x5a), (0x61, 0x7a)], 8442, 10521),
    (["cwl", "changeswhenlowercased"], [(0x41, 0x5a)], 24537, 28039),
    (["cwt", "changeswhentitlecased"], [(0x61, 0x7a)], 25408, 28932),
    (["cwu", "changeswhenuppercased"], [(0x61, 0x7a)], 25486, 29059),
    (["cased"], [(0x41, 0x5a), (0x61, 0x7a)], 10402, 12463),
    (["dash"], [(0x2d, 0x2d)], 1632, 4030),
    (["dep", "deprecated"], [], 736, 2675),
    (["di", "defaultignorablecodepoint"], [], 1476, 4204),
    (["dia", "diacritic"], [(0x5e, 0x5e), (0x60, 0x60)], 13513, 23815),
    (["emoji"], [(0x23, 0x23), (0x2a, 0x2a), (0x30, 0x39)], 7654, 10328),
    (["ecomp", "emojicomponent"], [(0x23, 0x23), (0x2a, 0x2a), (0x30, 0x39)], 909, 2869),
    (["emod", "emojimodifier"], [], 196, 1301),
    (["ebase", "emojimodifierbase"], [], 2156, 4476),
    (["epres", "emojipresentation"], [], 4837, 6837),
    (["extpict", "extendedpictographic"], [], 8518, 10742),
    (["ext", "extender"], [], 2983, 7837),
    (["grbase", "graphemebase"], [(0x20, 0x7e)], 55724, 50237),
    (["grext", "graphemeextend"], [], 20248, 29784),
    (["grlink", "graphemelink"], [], 4147, 10112),
    (["hex", "hexdigit"], [(0x30, 0x39), (0x41, 0x46), (0x61, 0x66)], 376, 1484),
    (["hyphen"], [(0x2d, 0x2d)], 840, 2747),
    (["idcompatmathcontinue"], [], 1096, 2797),
    (["idcompatmathstart"], [], 821, 2382),
    (["idc", "idcontinue"], [(0x30, 0x39), (0x41, 0x5a), (0x5f, 0x5f),
      (0x61, 0x7a)], 49544, 45963),
    (["ids", "idstart"], [(0x41, 0x5a), (0x61, 0x7a)], 42996, 42978),
    (["idsb", "idsbinaryoperator"], [], 301, 1579),
    (["idst", "idstrinaryoperator"], [], 164, 1269),
    (["idsu", "idsunaryoperator"], [], 164, 1233),
    (["ideo", "ideographic"], [], 3957, 3969),
    (["joinc", "joincontrol"], [], 164, 1268),
    (["loe", "logicalorderexception"], [], 540, 1991),
    (["lower", "lowercase"], [(0x61, 0x7a)], 28249, 32026),
    (["math"], [(0x2b, 0x2b), (0x3c, 0x3e), (0x5e, 0x5e), (0x7c, 0x7c),
      (0x7e, 0x7e)], 7180, 9364),
    (["mcm", "modifiercombiningmark"], [], 518, 1696),
    (["nchar", "noncharactercodepoint"], [], 1995, 5361),
    (["oalpha", "otheralphabetic"], [], 14603, 21171),
    (["odi", "otherdefaultignorablecodepoint"], [], 1042, 3005),
    (["ogrext", "othergraphemeextend"], [], 3378, 7598),
    (["oidc", "otheridcontinue"], [], 668, 2433),
    (["oids", "otheridstart"], [], 400, 1817),
    (["olower", "otherlowercase"], [], 1979, 4668),
    (["omath", "othermath"], [(0x5e, 0x5e)], 6728, 8784),
    (["oupper", "otheruppercase"], [], 640, 2049),
    (["patsyn", "patternsyntax"], [(0x21, 0x2f), (0x3a, 0x40), (0x5b, 0x5e), (0x60, 0x60),
      (0x7b, 0x7e)], 1967, 3315),
    (["patws", "patternwhitespace"], [(0x09, 0x0d), (0x20, 0x20)], 340, 1481),
    (["pcm", "prependedconcatenationmark"], [], 636, 2131),
    (["qmark", "quotationmark"], [(0x22, 0x22), (0x27, 0x27)], 853, 2514),
    (["radical"], [], 404, 1368),
    (["ri", "regionalindicator"], [], 196, 1301),
    (["sd", "softdotted"], [(0x69, 0x6a)], 2252, 5242),
    (["sterm", "sentenceterminal"], [(0x21, 0x21), (0x2e, 0x2e), (0x3f, 0x3f)], 5809, 13174),
    (["term", "terminalpunctuation"], [(0x21, 0x21), (0x2c, 0x2c), (0x2e, 0x2e), (0x3a, 0x3b),
      (0x3f, 0x3f)], 7340, 15807),
    (["uideo", "unifiedideograph"], [], 2784, 2826),
    (["upper", "uppercase"], [(0x41, 0x5a)], 27028, 30790),
    (["vs", "variationselector"], [], 500, 1978),
    (["wspace", "whitespace", "space"], [(0x09, 0x0d), (0x20, 0x20)], 680, 1925),
    (["xidc", "xidcontinue"], [(0x30, 0x39), (0x41, 0x5a), (0x5f, 0x5f),
      (0x61, 0x7a)], 49950, 46246),
    (["xids", "xidstart"], [(0x41, 0x5a), (0x61, 0x7a)], 43343, 43247)]

/-- The classes of characters by their place in a grapheme cluster. -/
def graphemeBreaks : List Entry :=
  [(["cn", "control"], [(0x00, 0x09), (0x0b, 0x0c), (0x0e, 0x1f), (0x7f, 0x7f)], 1558, 3925),
    (["cr"], [(0x0d, 0x0d)], 32, 1000),
    (["ex", "extend"], [], 19700, 29263),
    (["l"], [], 332, 1573),
    (["lf"], [(0x0a, 0x0a)], 32, 1000),
    (["lv"], [], 20196, 26522),
    (["lvt"], [], 25619, 21184),
    (["pp", "prepend"], [], 1181, 3406),
    (["ri", "regionalindicator"], [], 196, 1301),
    (["sm", "spacingmark"], [], 9344, 14821),
    (["t"], [], 332, 1305),
    (["v"], [], 401, 1405),
    (["zwj"], [], 96, 1268)]

/-- The classes of characters by their place in a word. -/
def wordBreaks : List Entry :=
  [(["cr"], [(0x0d, 0x0d)], 32, 1000),
    (["dq", "doublequote"], [(0x22, 0x22)], 32, 1000),
    (["ex", "extendnumlet"], [(0x5f, 0x5f)], 578, 1921),
    (["extend"], [], 18556, 26992),
    (["fo", "format"], [], 1682, 4782),
    (["hl", "hebrewletter"], [], 552, 1729),
    (["ka", "katakana"], [], 1289, 3050),
    (["le", "aletter"], [(0x41, 0x5a), (0x61, 0x7a)], 35118, 37753),
    (["lf"], [(0x0a, 0x0a)], 32, 1000),
    (["mb", "midnumlet"], [(0x2e, 0x2e)], 441, 1821),
    (["ml", "midletter"], [(0x3a, 0x3a)], 708, 2473),
    (["mn", "midnum"], [(0x2c, 0x2c), (0x3b, 0x3b)], 921, 2791),
    (["nl", "newline"], [(0x0b, 0x0c)], 268, 1408),
    (["nu", "numeric"], [(0x30, 0x39)], 4680, 11715),
    (["ri", "regionalindicator"], [], 196, 1301),
    (["sq", "singlequote"], [(0x27, 0x27)], 32, 1000),
    (["wsegspace"], [(0x20, 0x20)], 505, 1714),
    (["zwj"], [], 96, 1268)]

/-- The classes of characters by their place in a sentence. -/
def sentenceBreaks : List Entry :=
  [(["at", "aterm"], [(0x2e, 0x2e)], 369, 1749),
    (["cl", "close"], [(0x22, 0x22), (0x27, 0x29), (0x5b, 0x5b), (0x5d, 0x5d), (0x7b, 0x7b),
      (0x7d, 0x7d)], 2584, 5195),
    (["cr"], [(0x0d, 0x0d)], 32, 1000),
    (["ex", "extend"], [], 18459, 26756),
    (["fo", "format"], [], 1718, 4820),
    (["le", "oletter"], [], 34624, 37865),
    (["lf"], [(0x0a, 0x0a)], 32, 1000),
    (["lo", "lower"], [(0x61, 0x7a)], 27938, 31674),
    (["nu", "numeric"], [(0x30, 0x39)], 4680, 11715),
    (["sc", "scontinue"], [(0x2c, 0x2d), (0x3a, 0x3b)], 1265, 3245),
    (["se", "sep"], [], 232, 1372),
    (["sp"], [(0x09, 0x09), (0x0b, 0x0c), (0x20, 0x20)], 645, 1888),
    (["st", "sterm"], [(0x21, 0x21), (0x3f, 0x3f)], 5245, 12295),
    (["up", "upper"], [(0x41, 0x5a)], 26816, 30394)]

/-- The characters of each version of Unicode. -/
def ages : List Entry :=
  [(["1.1", "v11"], [(0x00, 0x7f)], 17012, 16336),
    (["2.0", "v20"], [(0x00, 0x7f)], 19632, 20270),
    (["2.1", "v21"], [(0x00, 0x7f)], 19632, 20270),
    (["3.0", "v30"], [(0x00, 0x7f)], 23492, 23043),
    (["3.1", "v31"], [(0x00, 0x7f)], 26314, 25536),
    (["3.2", "v32"], [(0x00, 0x7f)], 26226, 24913),
    (["4.0", "v40"], [(0x00, 0x7f)], 27085, 25956),
    (["4.1", "v41"], [(0x00, 0x7f)], 28797, 26912),
    (["5.0", "v50"], [(0x00, 0x7f)], 29534, 27704),
    (["5.1", "v51"], [(0x00, 0x7f)], 30960, 28412),
    (["5.2", "v52"], [(0x00, 0x7f)], 33456, 30511),
    (["6.0", "v60"], [(0x00, 0x7f)], 35448, 32092),
    (["6.1", "v61"], [(0x00, 0x7f)], 37387, 34065),
    (["6.2", "v62"], [(0x00, 0x7f)], 37387, 34065),
    (["6.3", "v63"], [(0x00, 0x7f)], 37360, 34065),
    (["7.0", "v70"], [(0x00, 0x7f)], 41718, 37560),
    (["8.0", "v80"], [(0x00, 0x7f)], 42755, 38330),
    (["9.0", "v90"], [(0x00, 0x7f)], 44388, 39536),
    (["10.0", "v100"], [(0x00, 0x7f)], 45621, 40010),
    (["11.0", "v110"], [(0x00, 0x7f)], 46688, 41230),
    (["12.0", "v120"], [(0x00, 0x7f)], 47528, 41935),
    (["12.1", "v121"], [(0x00, 0x7f)], 47391, 41868),
    (["13.0", "v130"], [(0x00, 0x7f)], 48407, 42347),
    (["14.0", "v140"], [(0x00, 0x7f)], 49172, 43342),
    (["15.0", "v150"], [(0x00, 0x7f)], 50279, 43942),
    (["15.1", "v151"], [(0x00, 0x7f)], 50383, 43960),
    (["16.0", "v160"], [(0x00, 0x7f)], 52149, 45192)]

/-! ### Names -/

/-- The form in which names of properties are compared. -/
def looseName (name : List Char) : String :=
  let (withMark, rest) := match name with
    | i :: s :: rest => if i.toLower = 'i' ∧ s.toLower = 's' then (true, rest) else (false, name)
    | _ => (false, name)
  let kept := (rest.filter fun c => c.toNat < 0x80 && !(c == ' ' || c == '_' || c == '-')).map
    Char.toLower
  if withMark && kept == ['c'] then "isc" else String.ofList kept

/-- The class of a table with a given name. -/
def inTable? (table : List Entry) (name : String) : Option CharSet :=
  (table.find? fun row => row.1.contains name).map fun (_, bounds, room, coRoom) =>
    listed bounds false room coRoom

/-- The class that a property, a general category or a script names. -/
def ofProperty? (name : List Char) : Option CharSet :=
  let name := looseName name
  inTable? binaryProperties name <|> inTable? generalCategories name <|> inTable? scripts name

/-- The class of the characters with a given value of a property. -/
def ofPropertyValue? (property value : List Char) : Option CharSet :=
  let value := looseName value
  match looseName property with
  | "gc" | "generalcategory" => inTable? generalCategories value
  | "sc" | "script" | "scx" | "scriptextensions" => inTable? scripts value
  | "age" => inTable? ages value
  | "gcb" | "graphemeclusterbreak" => inTable? graphemeBreaks value
  | "wb" | "wordbreak" => inTable? wordBreaks value
  | "sb" | "sentencebreak" => inTable? sentenceBreaks value
  | _ => none

end NameRecovery.Text.CharSet
