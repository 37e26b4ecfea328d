/-
# General categories of characters

The general category of every character, one row per category and per group of
categories.

A row holds the loose names of a value and its characters.  The characters are
written as alternating gaps and lengths, each a number to base 26 whose last digit
is a small letter and whose digits before it are capitals; a row may take several
lines.

The values of `\p{gc=…}` in the patterns of `regex`.
-/

namespace LedgerRules
namespace Pattern
namespace CategoryTable

/-- The general categories. -/
def categories : List (List String × List String) :=
  [
    (["c", "other"],
      ["aBgDrBhnbBBmcgehbbbubPhbBmcBycdbCdiBbegrwbHkbBwcChcDxoChcBxcpbBccbblfBfjCwbGfbicccwbhb",
       "bdecjccceibecbfczcdbgeccwbhbcbcbccbbfeccddbhebbhrkdbjbdbwbhbcbfckbdbdcbpecmhhbdbicccwb",
       "hbcbfcjcccdhdecbfcskcbgddbedcbbbcdcdddmefddbecbgbovfnbdbxbqcjbdbehcbdcbceckhwbdbxbkbfc",
       "jbdbehcgcbeckbdmnbdbBzbdbgeqcBabdbsdybjbbchdbegbbbigkcdmCgeBdBlcbbbfbybbbxcfbbbhbkceBg",
       "CubBkeBnbBkbpbnBlHqbbfbcOnbechbbbecBpbecBhbechbbbecpbCfbecCpcBgdBagDicgcZtdDlhwjyjumnb",
       "dbcmDqckgkgoblgDlhBrfCskBfbmemebdBqcflBseBagldCkcCnbBdclgkgocBfBxCzdBvbEmiCidpdCkfBrcl",
       "iBrfUocgcBmcgcibbbbbbbBfcCbbpbocgbtcdbjblfBafBxqccBbbndBhpBhpFkeZnzlvCRscBgbNlfBtbbfbc",
       "CehcoyjhbhbhbhbhbhbhbhbEwBiBabDlmIgBameCmbDicDzfBrbDqbDgmBvbBRIrdCdjNkuHciHyccbbbivChd",
       "kgCeiCsimgEmlBedDableBhbCdjockcDzyBckgcgcgjhbhbCieEwckgQNsmxeBxMNcOccEcBmhmffBabfbbbcb",
       "cbEvqRdcCchbBgBqgBzbtbeefbFfeHidgcgcgcddhbhnccmbBabtbcbpcoBiEtfdeBtdDkbndbBvBuFaBddBxp",
       "BceBkjBefBrfBebBleoBqGcckgBkeBkeBoiCalmbpbhbcblbpbhbcCpLzjwkiygbBqbjCrgcbbBsbcdbcxbCui",
       "jBwtbcfBhdBbfbCmCeeucBybcfibdbBdcdekhjhCmBgBnemjCcdBdcBbfBahemhDcCvCdBznBzhBuikwwkwIkB",
       "fbBqbdccCxBriBqwBaBmBcuxjDaeBkjCkbfnzhkgCbbsiBnjDsbulsbBvCkhbbbebpblgChfkgebicccwbhbcb",
       "fbkcccdcbgbfhchdfFjDobfBeCuikGkCccBmBiCrlkgntCggkCcBbcpexHdCiDwDfmicbcibcbBebccmjkCsic",
       "BuclBbCuiDfnCvhkJmjbBtbokBddBgcwboCvhbcbBsdbbcbjikggbcbBlbcbghkLyzhrbBpdBcDibpBynBJnDy",
       "EhbflHoDXkDvnBPgqwFYgWlMUbVxhBfbkeDdbkgBecgkCskkbhbvftBAmDnDxCxeCfhrCmflcoJCaiBVqBqjNF",
       "rebhbcbLfpbBddcboeiPgDKuEdfndjhkceGYyBucxjEmCiJmkBncCwiEivCsEsumumDjjzFfDhbCtbccbccceb",
       "mbbbhbCnbecibhbBcbebfbbdhbNccLgcBBapfbpBQmBfggIfhbrchbcbffCkBhbEiBtdockecMiBfrCgfbRwBq",
       "BCohbebcbpbHpcqBpCyekecBEfCqCyCjHmebBbbcbbcbbkbebbbbgbebbbbbbdbcbbcbbbbbbbbbbcbbcebhbe",
       "bebbbkbrfdbfbrCacKkBseDwmpcpbpbBlkGsCeBdnBsejhcogFyBLwerdndEpeDrgmebpmeCeikgBoiBeccDaN",
       "cmocndjhBubhioejhjhFrbCdBlkBNqCLFcBgGDugIocINqoLBlEPjUwCFyHHzfGFgBONHgJgLECu"]),
    (["cc", "cntrl", "control"],
      ["aBgDrBh"]),
    (["cf", "format"],
      ["GrbCAkgwbHkbBxbOucDcbFTjbDAqfBafBxfbkDGHjbJpdGIzbpbNKkqBZQueHWxiBTKZmbBeDs"]),
    (["cn", "unassigned"],
      ["BIecgehbbbubPhbBmcBycdbCdiBbeglKkbCicDxoChcBxcpbBccbblfBfbcgJcbicccwbhbbdecjccceibecbf",
       "czcdbgeccwbhbcbcbccbbfeccddbhebbhrkdbjbdbwbhbcbfckbdbdcbpecmhhbdbicccwbhbcbfcjcccdhdec",
       "bfcskcbgddbedcbbbcdcdddmefddbecbgbovfnbdbxbqcjbdbehcbdcbceckhwbdbxbkbfcjbdbehcgcbeckbd",
       "mnbdbBzbdbgeqcBabdbsdybjbbchdbegbbbigkcdmCgeBdBlcbbbfbybbbxcfbbbhbkceBgCubBkeBnbBkbpbn",
       "BlHqbbfbcOnbechbbbecBpbecBhbechbbbecpbCfbecCpcBgdBagDicgcZtdDlhwjyjumnbdbcmDqckgkgBagD",
       "lhBrfCskBfbmemebdBqcflBseBagldCkcCnbBdclgkgocBfBxCzdBvbEmiCidpdCkfBrcliBrfUocgcBmcgcib",
       "bbbbbbBfcCbbpbocgbtcdbjbDxbmcBbbndBhpBhpFkeZnzlvCRscBgbNlfBtbbfbcCehcoyjhbhbhbhbhbhbhb",
       "hbEwBiBabDlmIgBameCmbDicDzfBrbDqbDgmBvbBRIrdCdjNkuHciHyccbbbivChdkgCeiCsimgEmlBedDable",
       "BhbCdjockcDzyBckgcgcgjhbhbCieEwckgQNsmxeBxeNBacEcBmhmffBabfbbbcbcbEvqRdcCchbBgBqgBzbtb",
       "eefbFfcbbHidgcgcgcddhbhkfcmbBabtbcbpcoBiEtfdeBtdDkbndbBvBuFaBddBxpBceBkjBefBrfBebBleoB",
       "qGcckgBkeBkeBoiCalmbpbhbcblbpbhbcCpLzjwkiygbBqbjCrgcbbBsbcdbcxbCuijBwtbcfBhdBbfbCmCeeu",
       "cBybcfibdbBdcdekhjhCmBgBnemjCcdBdcBbfBahemhDcCvCdBznBzhBuikwwkwIkBfbBqbdccCxBriBqwBaBm",
       "BcuxjDaeBkjCqkbczhkgCbbsiBnjDsbulsbBvCkhbbbebpblgChfkgebicccwbhbcbfbkcccdcbgbfhchdfFjD",
       "obfBeCuikGkCccBmBiCrlkgntCggkCcBbcpexHdCiDwDfmicbcibcbBebccmjkCsicBuclBbCuiDfnCvhkJmjb",
       "BtbokBddBgcwboCvhbcbBsdbbcbjikggbcbBlbcbghkLyzhrbBpdBcDibpBynBJnDyEhbflHoDXkDvnBQsFYgW",
       "lMUbVxhBfbkeDdbkgBecgkCskkbhbvftBAmDnDxCxeCfhrCmflcoJCaiBVqBqjNFrebhbcbLfpbBddcboeiPgD",
       "KuEdfndjhkciGYuBucxjEmCiJmkBncHmvCsEsumumDjjzFfDhbCtbccbcccebmbbbhbCnbecibhbBcbebfbbdh",
       "bNccLgcBBapfbpBQmBfggIfhbrchbcbffCkBhbEiBtdockecMiBfrCgfbRwBqBCohbebcbpbHpcqBpCyekecBE",
       "fCqCyCjHmebBbbcbbcbbkbebbbbgbebbbbbbdbcbbcbbbbbbbbbbcbbcebhbebebbbkbrfdbfbrCacKkBseDwm",
       "pcpbpbBlkGsCeBdnBsejhcogFyBLwerdndEpeDrgmebpmeCeikgBoiBeccDaNcmocndjhBubhioejhjhFrbCdB",
       "lkBNqCLFcBgGDugIocINqoLBlEPjUwCFyHHzfGFgBOMXlbBeDsEyJgDSFoDSYocDSYoc"]),
    (["co", "privateuse"],
      ["DGVoJMeCAHXoDSYocDSYo"]),
    (["l", "letter"],
      ["CnBagBaBvbkbebfxbBfbRqemofhbbbEzfbccebbgbbdbbbubDfbFjiGkbBmcbgBpCtBbeeBtBrBjcbDvbbpchc",
       "kdcbqbbBeBdDllbyBhjcebfwebjbdbxzhlfybgrBqCgCcdbsbhkpqeicccwbhbbdedbqbncbdockbigeccwbhb",
       "cbcbcBfebbtdqjbdbwbhbcbfdbsbpcxblicccwbhbcbfdbBecbdpbrbbgddbedcbbbcdcdddmwbCaibdbxbqdb",
       "BadcbccBebeibdbxbkbfdbBfcbcpcrjbdbBpcbqbfdidygfsdybjbbchCgBwbcmhCgcbbbfbybbbkbcjbcfbbv",
       "eBgbClibBkBbfElBrubqgeedbdchdenmbrBmbbfbcBrbMvbechbbbecBpbecBhbechbbbecpbCfbecCpBlqqDi",
       "cgdXwcrbBafCxgihsntosonbdpCaBjbebCpDlhfcBibbfCskBfBxBecflBseBaCcxjCbDebDpBvriCcBenckBs",
       "BaBkBpdkBkclfBrcdBpebgbcdbfHkCmKscgcBmcgcibbbbbbbBfcCbbhbbddbhdecgenfdbhEmbnbqnDxbebck",
       "bbdfgbbbbbbeblceffebCacDZfIvgedcmBmbbfbcCehbqxjhbhbhbhbhbhbhbhDcbSbcBqffceDigdbDmbefBr",
       "bDqrBgBwqTsJToCmBGUfCpBucKjdqkcuBvqBfcCsBxjcDzcCpccbbbivqbdbebxBdCaoByCkgdbbclBckxzBdh",
       "BvBcbqfbkkfbBpxdbiuxdbdBybbdccfcbbbydclhdmgcgcgjhbhbBrbogElBdQNsmxeBxMNcOccEcBmhmffbbk",
       "bnbfbbbcbcbEeBhNzsCmcCcBomEmfbFfBkBagBalDldgcgcgcdBjmbBabtbcbpcoBiEtOzBddBxBvBgnubigBm",
       "kBecBkeiBwGcsBkeBkeBoiCamlbpbhbcblbpbhbcCpLzjwkiygbBqbjCrgcbbBsbcdbcxkxjBfCntbckwkBaCs",
       "CegcCmbpebdbBdBqBddBdBjibBcBbCckwktnsEgCvCdBznBznBkBswkwJqBqgcDaBdkbiwBqsBuvBbxmCbCfcc",
       "bnBtBgzBaBkBdbcbiBjdbmBwoevbbbBjsbztcClhbbbebpbkhBvBmicccwbhbcbfdbsbmfGcCbseudBeBwucbb",
       "HcBvBpeBkBwubChBrnbCtBbBlhHdBsEmCmBficbcibcbypbbbDqicBnqbbbBcbkBohbvblButbsCvKdjbBlrbB",
       "xBeEihbcbBmvbzgbcbBgobMptpbbnbBiEubDbBJmIwHoDXkDtpBPgrgFYvWlMUbVxhBfrDbrBesBwqeBfvftBA",
       "mCmEyCxfbConCmcbbBcJCaiBVqBqjNFrebhbcbLfpbBddcboeiPgDKuEdfndjhkIWkDhbCtbccbcccebmbbbhb",
       "CnbecibhbBcbebfbbdhbNcczbzbBfbzbBfbzbBfbzbBfbzbiCSyBfggKbCkFqBtkhqbMjBesBsSqBcBDchbebc",
       "bpbHpChCqhbBUiebBbbcbbcbbkbebbbbgbebbbbbbdbcbbcbbbbbbbbbbcbbcebhbebebbbkbrfdbfbrGOaCLF",
       "cBgGDugIocINqoLBlEPjUwCFyHHzfGFg"]),
    (["casedletter", "lc"],
      ["CnBagBaCgbkxbBfbHnbeeIabBbHkeccddbbgbbdbbbubDfbFjiGkbBmjBpEFfBmbbfbcBrcdZwDicgDFulfBrc",
       "dCmBsClnbBiDxKscgcBmcgcibbbbbbbBfcCbbhbbddbhdecgenfdbhKbbebckbbdfgbbbbbbebgebceffebCac",
       "DZfEucDzgedcmBmbbfbBTWcBusBcFeDabxdebCkccbbbiycdbBFpBrfjhDcBEAihmfBNtBagBaBTtDcDsBkeBk",
       "EmlbpbhbcblbpbhbcCOpBznBzDpwkwEFiCmBGIqCmBMLkDhbCtbccbcccebmbbbhbCnbecibhbBcbebfbbdhbN",
       "cczbzbBfbzbBfbzbBfbzbBfbzbiCSykbuggDSvCq"]),
    (["ll", "lowercaseletter"],
      ["DtBaCgbBpybibbbbbbbbbbbbbbbbbbbbbbbbbbbbbbbbbbbbbbbbbbbbbbbbbbbbbbbcbbbbbbbbbbbbbbbcbb",
       "bbbbbbbbbbbbbbbbbbbbbbbbbbbbbbbbbbbbbbbbbbbbcbbbbdcbbbcbdcebcbddcbcbbbbbcbbcbbcbdbbbcc",
       "cdgbcbcbbbbbbbbbbbbbbbbcbbbbbbbbbbbbbbbbbccbbbdbbbbbbbbbbbbbbbbbbbbbbbbbbbbbbbbbbbbbbb",
       "bbbbbbbbbbbbbbbbbbbhcbccbbebbbbbbbbCrbBbHlbbbdbddsbBbBjbcddbbbbbbbbbbbbbbbbbbbbbbbfbbc",
       "bccBzBwbbbbbbbbbbbbbbbbbbbbbbbbbbbbbbbbbbjbbbbbbbbbbbbbbbbbbbbbbbbbbbbbbbbbbbbbbbbbbbb",
       "bbbbbbbbbcbbbbbbbbbbbbcbbbbbbbbbbbbbbbbbbbbbbbbbbbbbbbbbbbbbbbbbbbbbbbbbbbbbbbbbbbbbbb",
       "bbbbbbbbbbbbbbbbbbbbbbbbbbbbbbbbbBwBpEHbBrcdBDggDFujbbEnBsClnbBiDybbbbbbbbbbbbbbbbbbbb",
       "bbbbbbbbbbbbbbbbbbbbbbbbbbbbbbbbbbbbbbbbbbbbbbbbbbbbbbbbbbbbbbbbbbbbbbbbbbbbbbbbbbbbbb",
       "bbbbbbbbbbbbbbbbbbbbbbbbbbbbbbbbbbbbbbbbbbjbbbbbbbbbbbbbbbbbbbbbbbbbbbbbbbbbbbbbbbbbbb",
       "bbbbbbbbbbbbbbbbbbbbbbbbbbbbbbbbbbbbbbbbbbbbbbbbbbbbbbjigkiiiigkiiiiociiiiiifbcgbddbci",
       "ecciikdbcKobdcdbBbbebebccieebCbbEBbBwbbdcbbbbbbebbcbgfbbbbbbbbbbbbbbbbbbbbbbbbbbbbbbbb",
       "bbbbbbbbbbbbbbbbbbbbbbbbbbbbbbbbbbbbbbbbbbbbbbbbbbbbbbbbbbbbbbbbbbchbbbebmBmbbfbBTWdbb",
       "bbbbbbbbbbbbbbbbbbbbbbbbbbbbbbbbbbbbbbbbbbbtbbbbbbbbbbbbbbbbbbbbbbbbbbbFfbbbbbbbbbbbbd",
       "bbbbbbbbbbbbbbbbbbbbbbbbbbbbbbbbbbbbbbbbbbbbbbbbbbbbbbbbbbbbbbbibbbbcbbbbbbbbbebbbcbbd",
       "bbbbbbbbbbbbbbbbbbbbfbfbbbbbbbbbbbbbbbebbbcbdbbbbbbbbbbbBabdbBFpBrfjhDcBEAihmfBOzBaBVh",
       "BoFgBkFzlbpbhbcCRbBzEvwEGoBgBGJwBgBMMkBaBahbsBaBaBaebbbhblBaBaBaBaBaBaBaBaBaBaBaBaBaBa",
       "BaBaBaBcBczbgBazbgBazbgBazbgBazbgbbCSykbuggDUdBi"]),
    (["lm", "modifierletter"],
      ["BAmsemofhbbbFdbfbSkbIwbGicKjcebBfbjbdbGebGlbBVobExbVtbCPmbEdbXnbRwgGsClnbBiBlBAnbnbqnE",
       "MxcJhbHjbSbbBrffbDtcDpdBQBubBWcgKkbEkbBccErjDcbxbEbddcSbbwbFhbEebvcDzejbBFVibBtcCZogbB",
       "qbjBLRxeBQlnCmcbbYGqebhbcSGnCkHthBKfbBRbb"]),
    (["lo", "otherletter"],
      ["GobpbJwbeeIabBFvBbeeBtBgbkBjcbDvbbyckdcbqbbBeBdDllbyBhvwBqzhlfybgrBpChCcdbsbhkqpeicccw",
       "bhbbdedbqbncbdockbigeccwbhbcbcbcBfebbtdqjbdbwbhbcbfdbsbpcxblicccwbhbcbfdbBecbdpbrbbgdd",
       "bedcbbbcdcdddmwbCaibdbxbqdbBadcbccBebeibdbxbkbfdbBfcbcpcrjbdbBpcbqbfdidygfsdybjbbchCgB",
       "wbcmgChcbbbfbybbbkbcjbcfxeBgbClibBkBbfElBrubqgeedbdchdenmbEjMrbechbbbecBpbecBhbechbbbe",
       "cpbCfbecCpBlqEjXwcrbBafCxgihsntosonbdpCaBobCpBjbCbhfcBibbfCskBfBxBecflBseBaCcxjCbGuBvr",
       "iCcBenckBsBaBkBpdkBeEjebgbcdbBPqeENvCeyxjhbhbhbhbhbhbhbhVfbCbbeDiibbDmebfBrbDqrBgBwqTs",
       "JToCmBFCfbBRzCpBoiKieqkcCobBxCsGnbDzbdhbdbebxBdCaoByCkgdbbclBckxzBdhBvBtfcjkfbBpxdbiuq",
       "bgdbdBybbdccfcbbbycdlhbogcgcgjhbhFpBjBdQNsmxeBxMNcOccEcCpbbkbnbfbbbcbcbEeBhNzsCmcCcBom",
       "EmfbFfEbkbBtcBfdgcgcgcdBjmbBabtbcbpcoBiEtOzBddBxBvBgnubigBmkBecBkeiEyDaDuBoiCaGaLzjwki",
       "FwgcbbBsbcdbcxkxjBfCntbckwkBaCsCegcCmbpebdbBdBqBddBdBjibBcBbCckwktnsEgCvHbBkNkBqgcDaBd",
       "kbiwBqsBuvBbxmCbCfccbnBtBgzBaBkBdbcbiBjdbmBwoevbbbBjsbztcClhbbbebpbkhBvBmicccwbhbcbfdb",
       "sbmfGcCbseudBeBwucbbHcBvBpeBkBwubChBrnbCtBbBlhHdBsIdicbcibcbypbbbDqicBnqbbbBcbkBohbvbl",
       "ButbsCvKdjbBlrbBxBeEihbcbBmvbzgbcbBgobMptpbbnbBiEubDbBJmIwHoDXkDtpBPgrgFYvWlMUbVxhBfrD",
       "brBesBwBzvftBHwCxfbGtJCaiBVqBqjNGhLfpbBddcboeiPgDKuEdfndjhkNBcbThBtBhbMjBesBsSqBbBDdhb",
       "ebcbpbHpBZnebBbbcbbcbbkbebbbbgbebbbbbbdbcbbcbbbbbbbbbbcbbcebhbebebbbkbrfdbfbrGOaCLFcBg",
       "GDugIocINqoLBlEPjUwCFyHHzfGFg"]),
    (["lt", "titlecaseletter"],
      ["RlbcbcbBmbLFhiiiiimbpbBvb"]),
    (["lu", "uppercaseletter"],
      ["CnBaDxxbhBhbbbbbbbbbbbbbbbbbbbbbbbbbbbbbbbbbbbbbbbbbbbbbbbbbbbbbbbcbbbbbbbbbbbbbbbcbbb",
       "bbbbbbbbbbbbbbbbbbbbbbbbbbbbbbbbbbbbbbbbbbbcbbbbdcbbbcbdcebcbddcbcbbbbbcbbcbbcbdbbbcdb",
       "hbcbcbcbbbbbbbbbbbbbbbcbbbbbbbbbbbbbbbbbcbcbbdbbbbbbbbbbbbbbbbbbbbbbbbbbbbbbbbbbbbbbbb",
       "bbbbbbbbbbbbbbbbbbhcbccbbebbbbbbbbLdbbbdbibgbbdbbbcbrbjBjbcddbbbbbbbbbbbbbbbbbbbbbbbfb",
       "cbbccBzBwbbbbbbbbbbbbbbbbbbbbbbbbbbbbbbbbbjbbbbbbbbbbbbbbbbbbbbbbbbbbbbbbbbbbbbbbbbbbb",
       "bbbbbbbbbbbcbbbbbbbbbbbbcbbbbbbbbbbbbbbbbbbbbbbbbbbbbbbbbbbbbbbbbbbbbbbbbbbbbbbbbbbbbb",
       "bbbbbbbbbbbbbbbbbbbbbbbbbbbbbbbbbbcBmEHdBmbbfbBBuDiDGlbgBrcdMibbbbbbbbbbbbbbbbbbbbbbbb",
       "bbbbbbbbbbbbbbbbbbbbbbbbbbbbbbbbbbbbbbbbbbbbbbbbbbbbbbbbbbbbbbbbbbbbbbbbbbbbbbbbbbbbbb",
       "bbbbbbbbbbbbbbbbbbbbbbbbbbbbbbbbbbbbbbbjbbbbbbbbbbbbbbbbbbbbbbbbbbbbbbbbbbbbbbbbbbbbbb",
       "bbbbbbbbbbbbbbbbbbbbbbbbbbbbbbbbbbbbbbbbbbbbbbbbbbbjiigkiiiiglbbbbbbbiiCuemememfleKcbe",
       "bddcdcbdfgbbbbbbecekcfbCjbDZgBwBwbbdcbbbbbbebbcbidbbbbbbbbbbbbbbbbbbbbbbbbbbbbbbbbbbbb",
       "bbbbbbbbbbbbbbbbbbbbbbbbbbbbbbbbbbbbbbbbbbbbbbbbbbbbbbbbbbbbbbibbbebBTYjbbbbbbbbbbbbbb",
       "bbbbbbbbbbbbbbbbbbbbbbbbbbbbbbbtbbbbbbbbbbbbbbbbbbbbbbbbbbbFfbbbbbbbbbbbbbdbbbbbbbbbbb",
       "bbbbbbbbbbbbbbbbbbbbbbbbbbbbbbbbbbbbbbbbbbbbbbbbbbkbbbbcbbbbbbbbebbbcbbbdbbbbbbbbbbbbb",
       "bbbbbbbfbfbbbbbbbbbbbbbbbebbbcdbfbbbbbbbybBHAhBaBUzBoFgBkGalbpbhbcCQcBzGbwEGoBgBGJwBgB",
       "MMqBaBaBaBaBaBabbccbcccebiBaBaBacbecibhBbcbebfbbdhBbBaBaBaBaBaBaBaBaBaBaBaBezBhzBhzBhz",
       "BhzBhbGNlBi"]),
    (["combiningmark", "m", "mark"],
      ["BDoEiKphKdBtbbbcbcbbCulBwvqbDxhcgccbeBjbBeBbDnlCgjjbyebjbdbfBrdCiiBqybBhCcdbsbhkcBddCe",
       "bbhcccdjbkcBabcdCebbfeccddbBecdbldCebbibdbducwgbdCebbhcccdhdkcBebChfddbejbBofCdbbhbdbe",
       "hclcBddCebbhbdbehclcpbmeCdcbhbdbejbkcBddCsbegbbbiscCjbchmiDubcjlhCvcBbbbbbbecBxubcflbB",
       "kjbDwuxeedbdchdenmbbkeBBbdBKkeBcdBdcBecCmBgjbBtdbbEncBibEomemIlfCfkbBdcbBwBfBxfBvrBmjm",
       "dBenCeoBwuFwdbvebgbcdHqCmBBsBhEOcdFlbDsBgVigEbcBSQeebkBgcDccKmbdbebxfebDfcBysBasnbBmiz",
       "nBseBvoBkbCpombicBtdBybbdccfcbbBpffcJcibcBDZsbBCjqqqBLlbIsbFtfCMgdbcfeBodebGjcWbeOxcDc",
       "dCslBxeEsdCbpBpbcckeBtlhbCjdBkoqcBsbmdBwoiebcDomgbcbGbmveCdcbhcccdjbkcchdfHksxbDduJbhc",
       "jBbcDerEcnDxpJwpJlgbccebbbcFlhchdbBckBohbeibjlBuqPpibiDewboEsgdbbcbhbbCofbcbfNjejcbbBw",
       "hdfHYrbgpURqfChhBOibbCdheDdblcBDAxcGYzBucxUwfdgiichBeeFsdCYdCdeByibobwfbpCAihbrchbcbfD",
       "wbGehOlbCjeToeBMehEfhBTCIvJg"]),
    (["mc", "spacingmark"],
      ["DKtbCdbcdiebcBycCgdgccckbBrbCgdCobCgdibbcCbcCgbbbgccckbDycbcddbdkbBpdCjeCjcCgbbfccbcjc",
       "BcbocCgdfdbdkbBqcCxdgiscMscClbGpcebgbcczckdchvccgcbkdCLsbBebEzbhibcNiecdecbgIqcCgbbbjb",
       "bcigFpbBwbfbbfbcCjbBebeccbCibcdbbdcBwiicGpbvbHHecBTLbccbDkcByqFmcBvbBwceccdEgcccybBtbb",
       "bEfbccfbJdcbcbcbbBLXjbbbExbBtdecElbycChbBwdjcnbDpddcbbGodBfcCgcbecccdjbkcIbdicdbEcdgbb",
       "ecbJddgecbEjdicbbEfbbcgbEbcebKbdjbJngbcebcbbbFmdieebDgbBdcCkbPrbobEcbhbcbIffecbbNmcmbB",
       "wcicbbBEIhCdEacBKXncgg"]),
    (["enclosingmark", "me"],
      ["BSqcIKqbCIgebdBYOxd"]),
    (["mn", "nonspacingmark"],
      ["BDoEiKpfKfBtbbbcbcbbCulBwvqbDxhcgccbeBjbBeBbDnlCgjjbyebjbdbfBrdCiiBqybBgCdbbbeiebdhkcB",
       "dbCgbeeibucBabccCfbececcddbBecdblcCfbefbcebucwgbbCgbcbbeibhclcBebCjbmbBybdbCdbbdfdbehc",
       "lcBdbCgbcbgbfcucBccCfceeibucBdbCubhdbbDmbchmiDubcjlhCvcBbbbbbbCdobfbcflbBkjbDyebgbcccz",
       "cedqenbccgbpbBBbdBKkdBdcBecBecCmcbhibcljbBtdbbEncBibEodecjbgdIlccbCgbbhbbbbcigkcbBwobq",
       "BxeBwbbfbbfbBojmcBgeccbdCebbcdbbdCgiccFwdbnbhebgbdcHqCmBBsnebdmEOcdFlbDsBgVieEdcBSQebe",
       "kBgcDccKmbdbebzcfbFvcBasnbBmizlBudBwbceccBnbCpgccccmbibBvbBzbbdccfcbbBqcibJebcbebBDZsb",
       "BCjqqqBLlbIsbFtfCMgdbcfeBodebGjcWbeOxcDcdCslBxeEtbCcpBpbcckdBxecchbCjdBkfbiCkbmcCajkec",
       "bDrdcbbcgbcbGbbdivcCfcdbBlhdfHnicdbbxbDggbbecbcJeegcbcBbcDhicbbcEcbbbcgbbDxdcebfJzjbcJ",
       "wcbbebFoeccebBgkBogceibjgcdBunbcPqhbgbbDewchbcbcEsgdbbcbhbbCucdbbbNjclcCaffbbbHYrbgpUR",
       "qfChhBOibCleDdbBDBkcGYzBucxUydrichBeeFsdCYdCdeByibobwfbpCAihbrchbcbfDwbGehOlbCjeToeBMe",
       "hEfhBTCIvJg"]),
    (["n", "number"],
      ["BwkEqcfbcdCDlkFekHqkPwkEokegEekEokEokcgEgnElkihDzkEahhtEfkDskEokCsuKikCskBBruBHxdJfkgk",
       "wkLokEylGjkgkHakDikFekgkBOgbdggkHqBzcfBByCiDawYgBeCBhbBDxbzjodNfeFikBeibpBgkBnpBRSakHg",
       "kMigFykBmkHqkwkDikPqkBFMckSzBtmCfrcNdBbBkeBdbibFefHukBKgizhBnjCxfwgGeccqcBuCmjCacBedCx",
       "fEaiyiBphMsgBwkLiBfGckBqeEihFeBeEykCikFokhuJrkNekEokOkkDykDymQetDpkBDeBdItkCskQgkDyvBP",
       "bEhBAMrkDikFekbhBEsxBLYfumuEezBQrByDNckQgkTikBLljEykBElChbdbeCyBtbpBLanEDfk"]),
    (["decimalnumber", "digit", "nd"],
      ["BwkCIokFekHqkPwkEokEokEokEokEokEokEokEokEokDskEokCskKskCskCTqkBmkLokEykGkkgkHakDikFekg",
       "kCAEokBAckBmkHqkwkDikPqkBFMckCCkkDFykBFgkEykCikFokKskNekEokOkkDykDykQgkDykBDekJmkCskQg",
       "kBCKskDikFekBPBwByDNckQgkTikBQskHBak"]),
    (["letternumber", "nl"],
      ["IRudDYtBjceFMsbzjodBSYlkBIFgCbRsbibFefMEsEh"]),
    (["no", "othernumber"],
      ["GwcfbcdDMrgOmgEqdFdhIjhrjQrkBPluBRvkSmbCMvbdggkHqqBpbBByCiDawYgBeCBhbBTceFikBeibpBgkBn",
       "pBSMigBHQnBtCnercNdBbBkeBZgizhBnjCxfwgGeccqcBuCmjCacBedCxfEaiyiBphMsgNoBfGckBqeEihFeuO",
       "puBZxcQojBHntBGtvBCPqhBEsxBLYfumuEezIBujBJtChbdbeCyBtbpBLan"]),
    (["p", "punct", "punctuation"],
      ["BhdbgbekcdcBadbbBbbbbBjbfbdbkcdbdbBBabibRygBpcBzbbbcbcbBscucbcnbbdCweDybBroIzdCcpBfbKb",
       "ckbFkbEqbErbPabmbOdbDmbkcGmpbbBleCtbCwfecEhgGpbXojFvbXxbBscDadCtcGbdbdBllMbcIicEyhbgGq",
       "hBccEveChfCkcCmilbBFwyiubnbmBecocYjeBdcBPtoDbcBfkPnwCleBgcBDjebcEibFnBvbBgcmQddekcmqbm",
       "bDubDmbBRYgcKjdDvbkbElgOqeDicBodbbBxcBvbDtnqcEueEwcqcJpbBEUscIakwBjbobbebbcFtdbgbekcdc",
       "BadbbBbbbbbhPudZsbBwbPybBCpbHrbBfbKmjBmbEihCohDleBEebGlfBseHhhEfcbeEweBwcDbeebnbbdDkgE",
       "dbQbfkcbbEabJqxEbdBcnCybFadJsbKedFzbDoiDfdbfDpkLzfBqcYvcCwnGtbBRsfEJccWDvcFdbCnfibBGse",
       "MpbBDBobLIlfFPyc"]),
    (["connectorpunctuation", "pc"],
      ["DrbMBvctbDGAocydJfb"]),
    (["dashpunctuation", "pd"],
      ["BtbCAubBzbFKjbBNpbDBdgFHxbcbBfcebBcbRebtbEhbCZWacBlbkbGnbFXvb"]),
    (["closepunctuation", "pe"],
      ["BpbBzbBfbFPdbbbCUobDRdbCdbpbYkbbbBebBPubbbbbbbbbbbbbDcbBgbbbbbbbbbPobbbbbbbbbbbbbbbbbb",
       "bbbCmbbbBhbBOvbbbbbbbBsbbbbbbbQmbbbbbbbbbdbbbbbbbccCZRqbIjbBdbbbbbbbbbbbbbbbdbrbbbbbGo",
       "bBzbBfbcbcb"]),
    (["finalpunctuation", "pf"],
      ["HfbLWvbdbBcbFFsbbbebcbpbdb"]),
    (["initialpunctuation", "pi"],
      ["GpbLXkbcccbzbFFsbbbebcbpbdb"]),
    (["otherpunctuation", "po"],
      ["BhdbdcbbbbckcdcBbbCqbfbochbBBabibRygBpbCcbcbcbBscucbcnbbdCweDybBroIzdCcpBfbKbckbFkbEqb",
       "ErbPabmbOdbDmbkcGmpbbEibCwfecEhgGpbXojBDtbEudCtcGbdbdBlgbeMbcIicEyhbgGqhBccEveChfCkcCm",
       "ilbBGcciiijcecddlbbbkEUcebcEibFncedcbcjbcbbcckfbkcebbbncdQmdCfbHhbBRYgcKjdDvbkbElgOqeD",
       "icBodbbBxcBvbDtnqcEueEwcqcJpbBFCuhcbwbucceddbehdgbbcFtdbdcbbbbckcdcBbbBkbccPudZsbBwbPy",
       "bBCpbHrbBfbKmjBmbEihCohDleBKqfBseHhhEfcbeEweBwcDbeebnbbdDkgEdbQbfkcbbEabJqxEbdBcnCybFa",
       "dJsbKedFzbDoiDfdbfDpkLzfBqcYvcCwnGtbBRsfEJccWDvcFdbCnfibBGseMpbBDBobLIlfFPyc"]),
    (["openpunctuation", "ps"],
      ["BobBybBfbFPebbbCUobDPmbdbBmbCdbpbYkbbbBebBPubbbbbbbbbbbbbDcbBgbbbbbbbbbPobbbbbbbbbbbbb",
       "bbbbbbbbCmbbbBhbBOvbbbbbbbzbsbbbbbbbQmbbbbbbbbbdbbbbbbbcbCZRtbIhbBdbbbbbbbbbbbbbbbdbrb",
       "bbbbGobBybBfbdbcb"]),
    (["s", "symbol"],
      ["BkbgbqdBfbbbBbbbbBjfbccbbecbdbBebBfbRqemofhbbbrEnbocEibFjbKgdEodcbccHybkbtcJnbhcFgbNxc",
       "gcJlbEwbFaiFcbHzbBpbHpbHldpbbdcgubbbbbFdibgbcfeHpcBCykBBvbObbNsbGbBiNpkjjBPwbbdldndndn",
       "cCrbnbBndndtBhClcbebckbbdfgbbbbbbeblceffebbCgceOmeBdcJszlDdDawXsBsBxcBfkPnwCleBgcOkcBg",
       "bEbIvgNtcBuBabDlmIgBamibncmbvcgcDncJjcekBgBkBcBflBeibpBgkBnpMiJToCmBGUiCdVxxjcDzcGbeke",
       "WbdIrbocBEFdbFgrOrqExbBseDubbdcbFybgbqdBfbbbBbbbbEzhbhncMbjCfrcdbndbBvBtCLucWtbESsbDGn",
       "BdBCNiefbBEUwbHCdEmCiJmkBncCifdwchBeeCjvCodbHeDjBHqbzbBfbzbBfbzbBfbzbBfbzbCiTsCdeByibo",
       "bcCOubQpbDRgbdbEvbRhcKkBseDwmpcpbpbBlxGfCeBdnBsejhcogFyBLwerdndEpeDrgmebpmeCeikgBoiBec",
       "cDaNcmocndjhBubhioejhjhFrbCd"]),
    (["currencysymbol", "sc"],
      ["BkbEveBWjbEtbTecTechbJlbKdbWjbDQpbDIiBhBZHvbBGMlbEebFybIlcdcMCseCVXebDRkb"]),
    (["modifiersymbol", "sk"],
      ["DqbbbCtbgbebdbUbemofhbbbrEnbocBXibIUmbbdldndndncGHocBSVrxjcDzcBLobocBEKkrBIhbbbGgbDOLj",
       "f"]),
    (["mathsymbol", "sm"],
      ["BrbqdCjbbbBtbebBlbBfbBDmbUhdJYhbnbBndndFjbBnfgbCqffcebcbcbhbBfccbbbBfKiBgcDmbBezBogSbb",
       "jbCciEhbMyfcBfkqJwFbwCleBgcJyBwvcgDASqbBFsbbdGibqdCjbbbFbbgeDDJgbzbBfbzbBfbzbBfbzbBfbz",
       "bIUec"]),
    (["othersymbol", "so"],
      ["GkbcbebbbBLpbKgcExcHybkbtcJnbTvbOjbFagbbFcbHzbBpbPbdpbbdcgubbbbbFdibgbcfeHpcBCykBBvbBB",
       "ubGbBiNpkjjCChcbebckbbcggbbbbbbeblcobbcbbCgcjfcebcbcbhbBfccbbbBfKiieuchcDdbBezBogCrzlD",
       "dDawHbbjbCciEhbJoBsBsCmJwTsBwvcgBncBgbEbIvgNtcBuBabDlmIgBamibncmbvcgcMycekBgBkBcBflBei",
       "bpBgkBnpMiJToCmBGUiCdBHhekcbbWbdBFJaqExbBtdSqbdbecncMbjCfrcdbndbBvBtCLucWtbESsbDGnierB",
       "CNiefbBEUwbHCdEmCiJmkBncCifdwchBeeCjvCodbHeDjBTxTsCdeByibobcCOubEHwbEzbBBtBseDwmpcpbpb",
       "BlxGfCeBdnBsejhcogFyJrfBCaerdndEpeDrgmebpmeCeikgBoiBeccDaNcmocndjhBubhioejhjhFrbCd"]),
    (["separator", "z"],
      ["BgbExbIHjbDPnlBdcfbBvbFXwb"]),
    (["lineseparator", "zl"],
      ["MEqb"]),
    (["paragraphseparator", "zp"],
      ["MErb"]),
    (["spaceseparator", "zs"],
      ["BgbExbIHjbDPnlBkbBvbFXwb"])]

end CategoryTable
end Pattern
end LedgerRules
