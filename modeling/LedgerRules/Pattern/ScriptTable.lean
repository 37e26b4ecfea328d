/-
# Scripts of characters

The script of every character, and the scripts it is used with.

A row holds the loose names of a value and its characters.  The characters are
written as alternating gaps and lengths, each a number to base 26 whose last digit
is a small letter and whose digits before it are capitals; a row may take several
lines.

The values of `\p{sc=…}` and `\p{scx=…}` in the patterns of `regex`.
-/

namespace LedgerRules
namespace Pattern
namespace ScriptTable

/-- The characters of each script. -/
def scripts : List (List String × List String) :=
  [
    (["adlam", "adlm"],
      ["HDEuCyekec"]),
    (["aghb", "caucasianalbanian"],
      ["DUXsCalb"]),
    (["ahom"],
      ["EBRcBbcpex"]),
    (["arab", "arabic"],
      ["CHcfbgbobdbBgbklBabEebBiDcBwJgBfbcgCwbBdDNTwElqNzcDccCchbBgqEifbFfFVnBfEwdDGLsebBbbcbb",
       "cbbkbebbbbgbebbbbbbdbcbbcbbbbbbbbbbcbbcebhbebebbbkbrfdbfbrCac"]),
    (["armi", "imperialaramaic"],
      ["DWBwwbj"]),
    (["armenian", "armn"],
      ["BZdBmcBycdDOZjf"]),
    (["avestan", "avst"],
      ["DXCyCcdh"]),
    (["bali", "balinese"],
      ["KFwCzdBv"]),
    (["bamu", "bamum"],
      ["CLCqDkCVCqVx"]),
    (["bass", "bassavah"],
      ["FHKiBecg"]),
    (["batak", "batk"],
      ["KNgCaie"]),
    (["beng", "bengali"],
      ["DPoebicccwbhbbdecjccceibecbfcz"]),
    (["bhaiksuki", "bhks"],
      ["EDOijbBtbokBd"]),
    (["bopo", "bopomofo"],
      ["BCscRLxBrEiBg"]),
    (["brah", "brahmi"],
      ["DZAeDaeBkjb"]),
    (["brai", "braille"],
      ["PDwJw"]),
    (["bugi", "buginese"],
      ["JWaBccc"]),
    (["buhd", "buhid"],
      ["IUyu"]),
    (["cakm", "chakma"],
      ["DZKaCbbs"]),
    (["canadianaboriginal", "cans"],
      ["HOyYqVoCsDTPqq"]),
    (["cari", "carian"],
      ["DTYmBx"]),
    (["cham"],
      ["CMJwCdjockce"]),
    (["cher", "cherokee"],
      ["HLgDicgCFJeDc"]),
    (["chorasmian", "chrs"],
      ["DYXcBc"]),
    (["copt", "coptic", "qaac"],
      ["BMgoPJkEmfh"]),
    (["cpmn", "cyprominoan"],
      ["EKYyDv"]),
    (["cprt", "cypriot"],
      ["DVZkgcbbBsbcdbcb"]),
    (["cyrillic", "cyrl"],
      ["BNkFdcGnIVojGgbCybGFnBgBTOaDsBHEccDHPgCkBhb"]),
    (["deva", "devanagari"],
      ["DKqDdepcBaCIJgBgBREmk"]),
    (["diak", "divesakuru"],
      ["ECKuhcbcibcbBebccmjk"]),
    (["dogr", "dogra"],
      ["ECAyCi"]),
    (["deseret", "dsrt"],
      ["DUMaDc"]),
    (["dupl", "duployan"],
      ["GMDsEdfndjhkce"]),
    (["egyp", "egyptianhieroglyphs"],
      ["ELDgBQs"]),
    (["elba", "elbasan"],
      ["DUVwBo"]),
    (["elym", "elymaic"],
      ["DYYyx"]),
    (["ethi", "ethiopic"],
      ["GVgCvbechbbbecBpbecBhbechbbbecpbCfbecCpcBgdBaJVaxjhbhbhbhbhbhbhbhBVKcgcgcgjhbhEPYfhbeb",
       "cbp"]),
    (["geor", "georgian"],
      ["GHsBmbbfbcBrbeEJwBrcdGEaBmbbfb"]),
    (["glag", "glagolitic"],
      ["QRgDsGIZghbrchbcbf"]),
    (["gong", "gunjalagondi"],
      ["EEBwgbcbBlbcbghk"]),
    (["gonm", "masaramgondi"],
      ["EDYehbcbBsdbbcbjik"]),
    (["goth", "gothic"],
      ["DUEaBb"]),
    (["gran", "grantha"],
      ["EADsebicccwbhbcbfcjcccdcbgbfhchdf"]),
    (["greek", "grek"],
      ["BHwebdcebbebbbbdbbbubCloqJNqfByfefDgbMiwcgcBmcgcibbbbbbbBfcCbbpbocgbtcdbjLjbCAJebBGNiD",
       "brbDAXrCs"]),
    (["gujarati", "gujr"],
      ["DZldbjbdbwbhbcbfckbdbdcbpecmhh"]),
    (["gurmukhi", "guru"],
      ["DUndbgeccwbhbcbcbccbbfeccddbhebbhr"]),
    (["hang", "hangul"],
      ["GLkJwLLecJxDqEjBfCnBfBTAnBdYtQNsmxeBxPAiBfdgcgcgcd"]),
    (["han", "hani"],
      ["RPwBabDlmIgBvbbbzjoeBLcJToCmBFBkBHSiOccEcBSIicmcCCOkCLFcBgGDugIocINqoLBlEPjUwCFyHHzfGF",
       "g"]),
    (["hano", "hanunoo"],
      ["ITsv"]),
    (["hatr", "hatran"],
      ["DWIatbcff"]),
    (["hebr", "hebrew"],
      ["CCvCdiBbegDOVwBabfbbbcbcbk"]),
    (["hira", "hiragana"],
      ["SHdDigdFPEvLbsbBddYMvb"]),
    (["anatolianhieroglyphs", "hluw"],
      ["ESSeWl"]),
    (["hmng", "pahawhhmong"],
      ["FHMeCskkbhbvft"]),
    (["hmnp", "nyiakengpuachuehmong"],
      ["HAEaBtdockec"]),
    (["hung", "oldhungarian"],
      ["DXRsBznBzhg"]),
    (["ital", "olditalic"],
      ["DUCeBkjd"]),
    (["java", "javanese"],
      ["CMEyDackec"]),
    (["kali", "kayahli"],
      ["CMAaBubb"]),
    (["kana", "katakana"],
      ["SKvDmcdJgqIaBvbDkCZHekbBtCOUcebhbcbbLbdByboe"]),
    (["kawi"],
      ["EERwrbBpdBc"]),
    (["khar", "kharoshthi"],
      ["DWTcebcfibdbBdcdekhj"]),
    (["khmer", "khmr"],
      ["IXkDqckgkSsBg"]),
    (["khoj", "khojki"],
      ["DZTwsbBv"]),
    (["khitansmallscript", "kits"],
      ["FJIibKGxSc"]),
    (["kannada", "knda"],
      ["ETcnbdbxbkbfcjbdbehcgcbeckbd"]),
    (["kaithi", "kthi"],
      ["DZFcCpkb"]),
    (["lana", "taitham"],
      ["JXgClbBdclgkgo"]),
    (["lao", "laoo"],
      ["FMvcbbbfbybbbxcfbbbhbkce"]),
    (["latin", "latn"],
      ["CnBagBaBvbpbfxbBfbRhBnfJXbBmgBxfefnbCsCnJwOfbnbqnFlcgbBbbrBpECtBgBULmDydCmfcbbbfyoBFkB",
       "rbjbeBEDqhBOkBagBaDCfgbBqbjDDNpBfgg"]),
    (["lepc", "lepcha"],
      ["KPsCedpdd"]),
    (["limb", "limbu"],
      ["JMeBfbmemebdm"]),
    (["lina", "lineara"],
      ["DVFsLzjwki"]),
    (["linb", "linearb"],
      ["DSYqmbBabtbcbpcoBiEt"]),
    (["lisu"],
      ["CKKuBwBUMab"]),
    (["lyci", "lycian"],
      ["DTXgBd"]),
    (["lydi", "lydian"],
      ["DWKmBafb"]),
    (["mahajani", "mahj"],
      ["DZNcBn"]),
    (["maka", "makasar"],
      ["EEQqz"]),
    (["mand", "mandaic"],
      ["DDgBccb"]),
    (["mani", "manichaean"],
      ["DXAmBnem"]),
    (["marc", "marchen"],
      ["EDSqBgcwbo"]),
    (["medefaidrin", "medf"],
      ["FISeDn"]),
    (["mend", "mendekikakui"],
      ["HCUyHpcq"]),
    (["merc", "meroiticcursive"],
      ["DWPkyeucBu"]),
    (["mero", "meroitichieroglyphs"],
      ["DWOeBg"]),
    (["malayalam", "mlym"],
      ["EYanbdbBzbdbgeqcBa"]),
    (["modi"],
      ["EBHgCrlk"]),
    (["mong", "mongolian"],
      ["JCiccbbugDlhBrDSCbn"]),
    (["mro", "mroo"],
      ["FHEuBfbkec"]),
    (["meeteimayek", "mtei"],
      ["CMSmxHtBuck"]),
    (["mult", "multani"],
      ["DZYuhbbbebpbl"]),
    (["myanmar", "mymr"],
      ["GBoGeCGAyBfDtBg"]),
    (["nagm", "nagmundari"],
      ["HBPoBq"]),
    (["nand", "nandinagari"],
      ["ECQyicBucl"]),
    (["narb", "oldnortharabian"],
      ["DWYaBg"]),
    (["nabataean", "nbat"],
      ["DWEiBfij"]),
    (["newa"],
      ["EANoDobf"]),
    (["nko", "nkoo"],
      ["CYiChcd"]),
    (["nshu", "nushu"],
      ["FJIfbYVmPg"]),
    (["ogam", "ogham"],
      ["INoBd"]),
    (["olchiki", "olck"],
      ["KSuBw"]),
    (["oldturkic", "orkh"],
      ["DXMuCv"]),
    (["oriya", "orya"],
      ["EEjdbicccwbhbcbfcjcccdhdecbfcs"]),
    (["osage", "osge"],
      ["DUSuBkeBk"]),
    (["osma", "osmanya"],
      ["DUQyBeck"]),
    (["olduyghur", "ougr"],
      ["DYUqBa"]),
    (["palm", "palmyrene"],
      ["DWDcBg"]),
    (["pauc", "paucinhau"],
      ["EDCaCf"]),
    (["oldpermic", "perm"],
      ["DUFgBr"]),
    (["phag", "phagspa"],
      ["CLSqCe"]),
    (["inscriptionalpahlavi", "phli"],
      ["DXGqtfi"]),
    (["phlp", "psalterpahlavi"],
      ["DXHwshemh"]),
    (["phnx", "phoenician"],
      ["DWJgBcdb"]),
    (["miao", "plrd"],
      ["FIZoCxeCfhr"]),
    (["inscriptionalparthian", "prti"],
      ["DXFkwci"]),
    (["rejang", "rjng"],
      ["CMBwBklb"]),
    (["hanifirohingya", "rohg"],
      ["DXWqBoik"]),
    (["runic", "runr"],
      ["IOuCxdl"]),
    (["samaritan", "samr"],
      ["DAuBucp"]),
    (["oldsoutharabian", "sarb"],
      ["DWWuBg"]),
    (["saur", "saurashtra"],
      ["CLVcCsim"]),
    (["sgnw", "signwriting"],
      ["GWTkZcpfbp"]),
    (["shavian", "shaw"],
      ["DUPcBw"]),
    (["sharada", "shrd"],
      ["DZOyDs"]),
    (["sidd", "siddham"],
      ["EBCiCccBm"]),
    (["khudawadi", "sind"],
      ["EAAqChfk"]),
    (["sinh", "sinhala"],
      ["FCzdbsdybjbbchdbegbbbigkcdDULgu"]),
    (["sogd", "sogdian"],
      ["DYSeBq"]),
    (["oldsogdian", "sogo"],
      ["DYQiBo"]),
    (["sora", "sorasompeng"],
      ["DZIezhk"]),
    (["soyo", "soyombo"],
      ["ECXsDf"]),
    (["sund", "sundanese"],
      ["KKuCmJwi"]),
    (["sylo", "sylotinagri"],
      ["CLQeBt"]),
    (["syrc", "syriac"],
      ["CQyobCicdKml"]),
    (["tagb", "tagbanwa"],
      ["IWenbdbc"]),
    (["takr", "takri"],
      ["EBMeCggk"]),
    (["taile", "tale"],
      ["JPgBecf"]),
    (["newtailue", "talu"],
      ["JRcBseBagldc"]),
    (["tamil", "taml"],
      ["EJicbgddbedcbbbcdcdddmefddbecbgbovEALhBynb"]),
    (["tang", "tangut"],
      ["FJIebBfJCaiBDoTsj"]),
    (["taiviet", "tavt"],
      ["CMOuCpyf"]),
    (["telu", "telugu"],
      ["EOenbdbxbqcjbdbehcbdcbceckhj"]),
    (["tfng", "tifinagh"],
      ["RCyCehcob"]),
    (["tagalog", "tglg"],
      ["ISmwjb"]),
    (["thaa", "thaana"],
      ["CVwBy"]),
    (["thai"],
      ["FHxCgfBc"]),
    (["tibetan", "tibt"],
      ["FRsCubBkeBnbBkbpbhec"]),
    (["tirh", "tirhuta"],
      ["EASmCuik"]),
    (["tangsa", "tnsa"],
      ["FHGqDbbk"]),
    (["toto"],
      ["HATkBf"]),
    (["ugar", "ugaritic"],
      ["DUHcBebb"]),
    (["vai", "vaii"],
      ["CKMqLo"]),
    (["vith", "vithkuqi"],
      ["DVAelbpbhbcblbpbhbc"]),
    (["wara", "warangciti"],
      ["ECHcDfmb"]),
    (["wancho", "wcho"],
      ["HAVgCgfb"]),
    (["oldpersian", "xpeo"],
      ["DUIiBkeo"]),
    (["cuneiform", "xsux"],
      ["EFBsBJmDyEhbflHo"]),
    (["yezi", "yezidi"],
      ["DYLkBqbdcc"]),
    (["yi", "yiii"],
      ["CIPkBSvdCd"]),
    (["zanabazarsquare", "zanb"],
      ["ECUqCu"]),
    (["inherited", "qaai", "zinh"],
      ["BDoEiKrcRklBabBCieGOxBfTtdbnbhebgbdcHqCmUecHmBhFTxeEdcCZUjqqoBLnbIsbGFabCTCuBucxUydric",
       "hBeeBTLHiJg"]),
    (["common", "zyyy"],
      ["aCnBagBaBvbpbfxbBfbRhBnffcuEmbjbgbbbYnbgbobdbBgbGabTwbEzcBVtbPpeLebCGldCtcHvcbbBVhbnbh",
       "ebgbdcbBDtmcDjbldlbprBhClBmbdcgbBbbrBpdeZnzlvBJsJwYecBgbEbTsDqPmmefbbbzpieeDncdbDmcFrq",
       "BgBkCiCmBfDdBvbDkGmJToCmBHSiBiDydGjkJkbGebPfbocBEZqcIakwBjbtbeFrbbBgBagBalkbBtcCmhbhkf",
       "JydeBtdjDcnBzBtIuBbCSHweHBwEmCiJmkBncCkdrichBeeCjIfumumDjjzFfDhbCtbccbcccebmbbbhbCnbec",
       "ibhbBcbebfbbdhbNccLgcByHThCqCyCjBBeBseDwmpcpbpbBlkGsCeBabcnBsejhcogFyBLwerdndEpeDrgmeb",
       "pmeCeikgBoiBeccDaNcmocndjhBubhioejhjhFrbCdBlkBSUXbbBeDs"])]

/-- The characters used with each script. -/
def extensions : List (List String × List String) :=
  [
    (["adlam", "adlm"],
      ["CIhbBgbHAVfCyekec"]),
    (["aghb", "caucasianalbanian"],
      ["DUXsCalb"]),
    (["ahom"],
      ["EBRcBbcpex"]),
    (["arab", "arabic"],
      ["CHcfbIhbBiDcBwJgBfbcgCwbBdDNTwElqRdcCchbBgqEifbFfBMhBcEIeBfEwdDGLsebBbbcbbcbbkbebbbbgb",
       "ebbbbbbdbcbbcbbbbbbbbbbcbbcebhbebebbbkbrfdbfbrCac"]),
    (["armi", "imperialaramaic"],
      ["DWBwwbj"]),
    (["armenian", "armn"],
      ["BZdBmcBycdDOZjf"]),
    (["avestan", "avst"],
      ["DXCyCcdh"]),
    (["bali", "balinese"],
      ["KFwCzdBv"]),
    (["bamu", "bamum"],
      ["CLCqDkCVCqVx"]),
    (["bass", "bassavah"],
      ["FHKiBecg"]),
    (["batak", "batk"],
      ["KNgCaie"]),
    (["beng", "bengali"],
      ["DNtcrcBaebicccwbhbbdecjccceibecbfczHDhbbbccbbibibcbebcdCBAfb"]),
    (["bhaiksuki", "bhks"],
      ["EDOijbBtbokBd"]),
    (["bopo", "bopomofo"],
      ["BCscRBxdekbnkecbgbHnbjBrEiBgCZLtcKwf"]),
    (["brah", "brahmi"],
      ["DZAeDaeBkjb"]),
    (["brai", "braille"],
      ["PDwJw"]),
    (["bugi", "buginese"],
      ["JWaBcccCCKtb"]),
    (["buhd", "buhid"],
      ["IUncju"]),
    (["cakm", "chakma"],
      ["DTmkCKekDTFqCbbs"]),
    (["canadianaboriginal", "cans"],
      ["HOyYqVoCsDTPqq"]),
    (["cari", "carian"],
      ["DTYmBx"]),
    (["cham"],
      ["CMJwCdjockce"]),
    (["cher", "cherokee"],
      ["HLgDicgCFJeDc"]),
    (["chorasmian", "chrs"],
      ["DYXcBc"]),
    (["copt", "coptic", "qaac"],
      ["BMgoPJkEmfhDCZwBc"]),
    (["cpmn", "cyprominoan"],
      ["DTImcRQkDv"]),
    (["cprt", "cypriot"],
      ["DTImdeBtdjCOmgcbbBsbcdbcb"]),
    (["cyrillic", "cyrl"],
      ["BNkLsIVojGgbCybExbGApBgCpbBTLkDsBHEccDHPgCkBhb"]),
    (["deva", "devanagari"],
      ["DKqDfcBrHIeBnbcBNabBZFrkGkBgBREmk"]),
    (["diak", "divesakuru"],
      ["ECKuhcbcibcbBebccmjk"]),
    (["dogr", "dogra"],
      ["DOmmCIDckBQIoCi"]),
    (["deseret", "dsrt"],
      ["DUMaDc"]),
    (["dupl", "duployan"],
      ["GMDsEdfndjhkci"]),
    (["egyp", "egyptianhieroglyphs"],
      ["ELDgBQs"]),
    (["elba", "elbasan"],
      ["DUVwBo"]),
    (["elym", "elymaic"],
      ["DYYyx"]),
    (["ethi", "ethiopic"],
      ["GVgCvbechbbbecBpbecBhbechbbbecpbCfbecCpcBgdBaJVaxjhbhbhbhbhbhbhbhBVKcgcgcgjhbhEPYfhbeb",
       "cbp"]),
    (["geor", "georgian"],
      ["GHsBmbbfbcBwEJwBrcdGEaBmbbfb"]),
    (["glag", "glagolitic"],
      ["BSmbcbOYqDsSpbBTNfbEOTkhbrchbcbf"]),
    (["gong", "gunjalagondi"],
      ["DOmcEANigbcbBlbcbghk"]),
    (["gonm", "masaramgondi"],
      ["DOmcEAJqhbcbBsdbbcbjik"]),
    (["goth", "gothic"],
      ["DUEaBb"]),
    (["gran", "grantha"],
      ["DNtcrcYqoGKabbcBeddcBNabDNRjebicccwbhbcbfbkcccdcbgbfhchdfERrcbb"]),
    (["greek", "grek"],
      ["BGcbcbBqebdcebbebbbbdbbbubCloqJNqfByfefDgdMgwcgcBmcgcibbbbbbbBfcCbbpbocgbtcdbjLjbCAJeb",
       "BGNiDbrbDAXrCs"]),
    (["gujarati", "gujr"],
      ["DNtcrcKxdbjbdbwbhbcbfckbdbdcbpecmhhCHNsk"]),
    (["gurmukhi", "guru"],
      ["DNtcrcFzdbgeccwbhbcbcbccbbfeccddbhebbhrCHSzk"]),
    (["hang", "hangul"],
      ["GLkJwLJldekbnodgbHnbCbDqEjBfCnBfBTAnBdYtQNsmxeBxOMzcKwfCgBfdgcgcgcd"]),
    (["han", "hani"],
      ["RPwBabDlmIgBrdbnbnbncbgjHfbFsqBgBkCiBoCeBxpmBzbDkzkfDsBfbJToCmBFBkCQyiBFBcOccEcBHrcKwf",
       "BQPocmcBLRasLRycFEsCLFcBgGDugIocINqoLBlEPjUwCFyHHzfGFg"]),
    (["hano", "hanunoo"],
      ["ITsx"]),
    (["hatr", "hatran"],
      ["DWIatbcff"]),
    (["hebr", "hebrew"],
      ["CCvCdiBbegDOVwBabfbbbcbcbk"]),
    (["hira", "hiragana"],
      ["SErdekbnqgbbecdDiciDmcCZTgcKwfkbBtcCOUrLbsbBddYMvb"]),
    (["anatolianhieroglyphs", "hluw"],
      ["ESSeWl"]),
    (["hmng", "pahawhhmong"],
      ["FHMeCskkbhbvft"]),
    (["hmnp", "nyiakengpuachuehmong"],
      ["HAEaBtdockec"]),
    (["hung", "oldhungarian"],
      ["DXRsBznBzhg"]),
    (["ital", "olditalic"],
      ["DUCeBkjd"]),
    (["java", "javanese"],
      ["CMEyDablec"]),
    (["kali", "kayahli"],
      ["CMAaBw"]),
    (["kana", "katakana"],
      ["SErdekbnqgbbecDnedDsJgqIaBvbDkCYWbcKwClCOUaebhbcbbLbdByboe"]),
    (["kawi"],
      ["EERwrbBpdBc"]),
    (["khar", "kharoshthi"],
      ["DWTcebcfibdbBdcdekhj"]),
    (["khmer", "khmr"],
      ["IXkDqckgkSsBg"]),
    (["khoj", "khojki"],
      ["EDikCHOikBOBmsbBv"]),
    (["khitansmallscript", "kits"],
      ["FJIibKGxSc"]),
    (["kannada", "knda"],
      ["DNtcrcBEonbdbxbkbfcjbdbehcgcbeckbdGAebbbhbxbbbCASxg"]),
    (["kaithi", "kthi"],
      ["DOokCIDckBNMsCpkb"]),
    (["lana", "taitham"],
      ["JXgClbBdclgkgo"]),
    (["lao", "laoo"],
      ["FMvcbbbfbybbbxcfbbbhbkce"]),
    (["latin", "latn"],
      ["CnBagBaBvbpbfxbBfbRhBnfEwnKrcBVecCXkbEOiBmgBxfefnbCsCnJwLrbCnbnbqnDfbCfcgbBbbrBpECtBgB",
       "UKeiBaDydCmfcbbbfyoLqbTtBrbjbeBEDqhBOkBagBaDCfgbBqbjDDNpBfgg"]),
    (["lepc", "lepcha"],
      ["KPsCedpdd"]),
    (["limb", "limbu"],
      ["DOnbFXqBfbmemebdm"]),
    (["lina", "lineara"],
      ["DTItBtBVgLzjwki"]),
    (["linb", "linearb"],
      ["DSYqmbBabtbcbpcoBiEtfdeBtdj"]),
    (["lisu"],
      ["CKKuBwBUMab"]),
    (["lyci", "lycian"],
      ["DTXgBd"]),
    (["lydi", "lydian"],
      ["DWKmBafb"]),
    (["mahajani", "mahj"],
      ["DOmmCIDckBNUsBn"]),
    (["maka", "makasar"],
      ["EEQqz"]),
    (["mand", "mandaic"],
      ["CJobTrBccb"]),
    (["mani", "manichaean"],
      ["CJobDUQxBnem"]),
    (["marc", "marchen"],
      ["EDSqBgcwbo"]),
    (["medefaidrin", "medf"],
      ["FISeDn"]),
    (["mend", "mendekikakui"],
      ["HCUyHpcq"]),
    (["merc", "meroiticcursive"],
      ["DWPkyeucBu"]),
    (["mero", "meroitichieroglyphs"],
      ["DWOeBg"]),
    (["malayalam", "mlym"],
      ["DNtcrcBJmnbdbBzbdbgeqcBaFVebCATxd"]),
    (["modi"],
      ["CLSakBPOwCrlk"]),
    (["mong", "mongolian"],
      ["JCiBagDlhBrCWabDPGan"]),
    (["mro", "mroo"],
      ["FHEuBfbkec"]),
    (["meeteimayek", "mtei"],
      ["CMSmxHtBuck"]),
    (["mult", "multani"],
      ["DYkkDWAahbbbebpbl"]),
    (["myanmar", "mymr"],
      ["GBoGeCFUcbGvBfDtBg"]),
    (["nagm", "nagmundari"],
      ["HBPoBq"]),
    (["nand", "nandinagari"],
      ["DOmcBImkGBhbibhbCASrgBQYsicBucl"]),
    (["narb", "oldnortharabian"],
      ["DWYaBg"]),
    (["nabataean", "nbat"],
      ["DWEiBfij"]),
    (["newa"],
      ["EANoDobf"]),
    (["nko", "nkoo"],
      ["CHobobdbQaChcdDOWsc"]),
    (["nshu", "nushu"],
      ["FJIfbYVmPg"]),
    (["ogam", "ogham"],
      ["INoBd"]),
    (["olchiki", "olck"],
      ["KSuBw"]),
    (["oldturkic", "orkh"],
      ["DXMuCv"]),
    (["oriya", "orya"],
      ["DNtcrcPvdbicccwbhbcbfcjcccdhdecbfcsGPebxb"]),
    (["osage", "osge"],
      ["DUSuBkeBk"]),
    (["osma", "osmanya"],
      ["DUQyBeck"]),
    (["olduyghur", "ougr"],
      ["CJobDUSvbBSfBa"]),
    (["palm", "palmyrene"],
      ["DWDcBg"]),
    (["pauc", "paucinhau"],
      ["EDCaCf"]),
    (["oldpermic", "perm"],
      ["BSlbDSMuBr"]),
    (["phag", "phagspa"],
      ["JCkcbbCCQcCe"]),
    (["inscriptionalpahlavi", "phli"],
      ["DXGqtfi"]),
    (["phlp", "psalterpahlavi"],
      ["CJobDUYhshemh"]),
    (["phnx", "phoenician"],
      ["DWJgBcdb"]),
    (["miao", "plrd"],
      ["FIZoCxeCfhr"]),
    (["inscriptionalparthian", "prti"],
      ["DXFkwci"]),
    (["rejang", "rjng"],
      ["CMBwBklb"]),
    (["hanifirohingya", "rohg"],
      ["CHobobdbBgbFrbDVHjBoik"]),
    (["runic", "runr"],
      ["IOuCxdl"]),
    (["samaritan", "samr"],
      ["DAuBucp"]),
    (["oldsoutharabian", "sarb"],
      ["DWWuBg"]),
    (["saur", "saurashtra"],
      ["CLVcCsim"]),
    (["sgnw", "signwriting"],
      ["GWTkZcpfbp"]),
    (["shavian", "shaw"],
      ["DUPcBw"]),
    (["sharada", "shrd"],
      ["DNtbHKfbbbcccbDOQpDs"]),
    (["sidd", "siddham"],
      ["EBCiCccBm"]),
    (["khudawadi", "sind"],
      ["DOmcCIDmkBOIgChfk"]),
    (["sinh", "sinhala"],
      ["DOmcBOldbsdybjbbchdbegbbbigkcdDULgu"]),
    (["sogd", "sogdian"],
      ["CJobDWIpBq"]),
    (["oldsogdian", "sogo"],
      ["DYQiBo"]),
    (["sora", "sorasompeng"],
      ["DZIezhk"]),
    (["soyo", "soyombo"],
      ["ECXsDf"]),
    (["sund", "sundanese"],
      ["KKuCmJwi"]),
    (["sylo", "sylotinagri"],
      ["DOmcEykCHWiBt"]),
    (["syrc", "syriac"],
      ["CHoboccbBgbklBabFnobCicdKmlIEfbbb"]),
    (["tagb", "tagbanwa"],
      ["IUncBpnbdbc"]),
    (["takr", "takri"],
      ["DOmcCIDmkBPTuCggk"]),
    (["taile", "tale"],
      ["GEakDKwBecf"]),
    (["newtailue", "talu"],
      ["JRcBseBagldc"]),
    (["tamil", "taml"],
      ["DNtcrcUucbgddbedcbbbcdcdddmefddbecbgbovGKdbCBBkbBOEfbbbCdcETfBynb"]),
    (["tang", "tangut"],
      ["FJIebBfJCaiBDoTsj"]),
    (["taiviet", "tavt"],
      ["CMOuCpyf"]),
    (["telu", "telugu"],
      ["DNtcrcZqnbdbxbqcjbdbehcbdcbceckhjGFabxb"]),
    (["tfng", "tifinagh"],
      ["RCyCehcob"]),
    (["tagalog", "tglg"],
      ["ISmwjbvc"]),
    (["thaa", "thaana"],
      ["CHoboccbCmkKsByDPGqbkb"]),
    (["thai"],
      ["FHxCgfBc"]),
    (["tibetan", "tibt"],
      ["FRsCubBkeBnbBkbpbhec"]),
    (["tirh", "tirhuta"],
      ["DNtcrcHKmbCASzkBPAcCuik"]),
    (["tangsa", "tnsa"],
      ["FHGqDbbk"]),
    (["toto"],
      ["HATkBf"]),
    (["ugar", "ugaritic"],
      ["DUHcBebb"]),
    (["vai", "vaii"],
      ["CKMqLo"]),
    (["vith", "vithkuqi"],
      ["DVAelbpbhbcblbpbhbc"]),
    (["wara", "warangciti"],
      ["ECHcDfmb"]),
    (["wancho", "wcho"],
      ["HAVgCgfb"]),
    (["oldpersian", "xpeo"],
      ["DUIiBkeo"]),
    (["cuneiform", "xsux"],
      ["EFBsBJmDyEhbflHo"]),
    (["yezi", "yezidi"],
      ["CHobobdbCmkDWAgBqbdcc"]),
    (["yi", "yiii"],
      ["SErcfkciIpbBQBcBSvdCdBIIcf"]),
    (["zanabazarsquare", "zanb"],
      ["ECUqCu"]),
    (["inherited", "qaai", "zinh"],
      ["BDoCobcbBdCGmcGOxBfBDbCcbbbfUecHmBgDFSqqqoBLnbCZQoBucxUydrichBeeBTLHiJg"]),
    (["common", "zyyy"],
      ["aCnBagBaBvbpbfxbBfbRhBnffcuEmbjbgbbbYnbIhbTwbCAubPpeCRqdDLimcBhbCbbldlbprBhClBmbdcgbBb",
       "brBpdeZnzlvBJsJwYecBgbEbTsCpbBaPmmebdbnbnbvbUjyBfbBxpmeGfkfDsBfbJToCmBHSqBaDydBLobocBF",
       "HskwvcmbtbeFrbbBgBagBagExhbhkfPmnBzBtCZTrEmCiJmkBncCkdrichBeeCjIfumumDjBbhFfDhbCtbccbc",
       "ccebmbbbhbCnbecibhbBcbebfbbdhbNccLgcByHThCqCyCjBBeBseDwmpcpbpbBlkGsCeBabcnBsejxgFyBLwe",
       "rdndEpeDrgmebpmeCeikgBoiBeccDaNcmocndjhBubhioejhjhFrbCdBlkBSUXbbBeDs"])]

end ScriptTable
end Pattern
end LedgerRules
