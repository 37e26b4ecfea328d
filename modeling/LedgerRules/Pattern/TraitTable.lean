/-
# Traits of characters

The properties that a character has or does not have.

A row holds the loose names of a value and its characters.  The characters are
written as alternating gaps and lengths, each a number to base 26 whose last digit
is a small letter and whose digits before it are capitals; a row may take several
lines.

The traits that `\p{…}` names in the patterns of `regex`.
-/

namespace LedgerRules
namespace Pattern
namespace TraitTable

/-- The traits. -/
def traits : List (List String × List String) :=
  [
    (["ahex", "asciihexdigit"],
      ["BwkhgBag"]),
    (["alpha", "alphabetic"],
      ["CnBagBaBvbkbebfxbBfbRqemofhbbbDibBqfbccebbgbbdbbbubDfbFjiGkbBmcbgBpBnobbbcbcbbiBbeeBdl",
       "fCebhoDybieiedkdcbqBwnDxyBhjcebfycttzhlfybgrBqkmdhgCybqbdepntbicccwbhbbdediccccbbibecb",
       "fmckbedbgeccwbhbcbcbcefecccebhebbrgldbjbdbwbhbcbfdjbdbcdbpeveedbicccwbhbcbfdiccccjcecb",
       "fnbqcbgddbedcbbbcdcdddmefddbddbgbBonbdbxbqdibdbdicbdcbceBcebibdbxbkbfdibdbdicgcbendmnb",
       "dbBpcibdbdbbfehfwgbdbsdybjbbchigbbbiscnCgfhgbBzcbbbfbybbbtbdcfbbgboeBgbClibBketeqbBkCp",
       "CdbbcfqCmkecBmbbfbcBrbMvbechbbbecBpbecBhbechbbbecpbCfbecCpBlqqDicgdXwcrbBafCxdlhulvmum",
       "nbdbcmCactobebCpDlhBrfCskBfbmejxBecflBseBaCcBceClcuBybxcldBxCabpbiBzBqcekBsbloCdwdkBkc",
       "lfBrcdBpebgbcdbfHkBnolKscgcBmcgcibbbbbbbBfcCbbhbbddbhdecgenfdbhEmbnbqnDxbebckbbdfgbbbb",
       "bbeblceffebrBpBFhCaCRuIvgedcmBmbbfbcCehbqxjhbhbhbhbhbhbhbhbBgBvbSbdzjhfcfeDigdbDmbefBr",
       "bDqrBgBwqTsJToCmBGUfCpBucKjdqkcuBvfidEjBnjcDzcCpccbbbivubBhyCamCqbbBsgdbbdkBhfBjnBddBz",
       "bmpbqqkfbCdjosxdCrbbbbydcqcelgcgcgjhbhbBrbogEtvQNsmxeBxMNcOccEcBmhmffmbnbfbbbcbcbEeBhN",
       "zsCmcCcBomEmfbFfBkBagBalDldgcgcgcdBjmbBabtbcbpcoBiEtCrCbKhBddBxBvBgnBefBrfBecBkeibfBqG",
       "csBkeBkeBoiCamlbpbhbcblbpbhbcCpLzjwkiygbBqbjCrgcbbBsbcdbcxkxjBfCntbckwkBaCsCegcCmebcfi",
       "bdbBdBqBddBdBjibBcBbCckwktnsEgCvCdBznBznBoBowkwJqBqbcdcDaBdkbiwBqsBuvBbxjCsBrfkCfjbnzx",
       "BzreiBjdbjCmbejckbbbBjsbBicbgeCkhbbbebpbkhCfxebicccwbhbcbfdiccccdbgbfhGaCobdbeudBeCocc",
       "bbHcCcchzgBiClbbdbChCccbCtBbcovhHdCfDzCmBficbcibcbBebcccceDpicBucgbbbcBbBzckrCufbsCvKd",
       "jbBtbhbbBxBecwboCvhbcbBsdbbcbdbbccygbcbBlbcbebbMpxjrbBpddEhbDbBJmDyEhrHoDXkDtpBPgrgFYv",
       "WlMUbVxhBfrDbrBesBwqeBfvftBAmCmEyCxeCfhrCmcbbmcoJCaiBVqBqjNFrebhbcbLfpbBddcboeiPgDKuEd",
       "fndjhkebIWfDhbCtbccbcccebmbbbhbCnbecibhbBcbebfbbdhbNcczbzbBfbzbBfbzbBfbzbBfbzbiCSyBfgg",
       "IfhbrchbcbffCkBhbEiBtkhqbMjBesBsSqBcBDchbebcbpbHpChCqdbdbBUiebBbbcbbcbbkbebbbbgbebbbbb",
       "bdbcbbcbbbbbbbbbbcbbcebhbebebbbkbrfdbfbrYeBagBagBaFMkCLFcBgGDugIocINqoLBlEPjUwCFyHHzfG",
       "Fg"]),
    (["bidic", "bidicontrol"],
      ["CIebJVlcBafCde"]),
    (["bidim", "bidimirrored"],
      ["BocsbbbBcbbbBdbbbBtbpbFMseCUncDQqckcCccocGvbHkedgdbdcdebebbbbejfbbsfejcbbbicBfcefbjcct",
       "fcjfcceycqieuchcBPtoCwbcebcbdfefddoPnwcgboibhgdbefbccfebbdcckgccmtbecbbbcbbefcgdyclcee",
       "bccceBrcibBofbbbdffdebdfbbJwbTvedcbcocckBriQlkciDACrgfcGgcsbbbBcbbbBdbbbbcbcDDPnbCfbCf",
       "bCfbCfb"]),
    (["caseignorable", "ci"],
      ["BnbgblbBjbbbCtbebbbebccTjHkecebjcbbJrhHzbfbBxBtbbbcbcbbBsblgklbbBjbkvqbDxibkbeBhbbbBeB",
       "bDnlCglebcbyyBrdBsbhcgiBpCgCdbbbeiebdhkcnbpbCgbeeibucBabccCfbececcddbBecdblcCfbefbcebu",
       "cwgbbCgbcbbeibhclcBebCjbmbBybdbCdbbdfdbehclcBdbCgbcbgbfcucBccCfceeibucBdbCubhdbbDmbchl",
       "jDubcjjbbhCvcBbbbbbbCdobfbcflbBkjbDyebgbccczcedqenbccgbpbDqbXkdBKkdBdcBecBecCmcbhibcld",
       "bfbBtfBzbCncBibEodecjbgdIlccbCgbbhbbbbcigkcbBnbiBfBxeBwbbfbbfbBojmcBgeccbdCebbcdbbdCgi",
       "ccCmgDedbnbhebgbdcByClnbBiDxRdbbdldndndncmfickbcbcfBxfbkbbnbqnBzBhEJrcEjdEvbpbDsBgBvbS",
       "bbBkedffbDpgDpdBQBubBWcgKkbDuebkbbBceDccoBiDabxdDzddcibdbebzcfbFvcBasnbBmizlBudBwbcecc",
       "rbvcCogccccmbibBjblbBzbbdccfcbbBbbocfcbbDwfjdErbcbebBDZsbFrrWbqdbmqBibcbGnbhbgblbBjbbb",
       "BvbBtcCpbvdTtbIsbFtfBNpgbBqbjWkdbcfeBodebGjcWbeOxcDcdCslBxeEtbCcpBpbcckdBxecccbebkbByd",
       "BkfbiCkbmcCajkecbDrdcbbcgbcbGbbdivcCfcdbBlhdfHnicdbbxbDggbbecbcJeegcbcBbcDhicbbcEcbbbc",
       "gbbDxdcebfJzjbcJwcbbebFoeccebBgkBogceibjgcdBunbcPqhbgbbDewchbcbcEsgdbbcbhbbCucdbbbNjcl",
       "cCaffbbbHYbrgpURqfChhjeBNvbClrCmcbcYGpebhbcEUgcbeGYuBucxUydjqchBeeFsdCYdCdeByibobwfbpC",
       "AihbrchbcbffCkBhbGeoOebCjeTnfBMehEfiEBffBSXXpbBeDsEyJg"]),
    (["cased"],
      ["CnBagBaBvbkbebfxbBfbHnbeeIabBkhcBefDsbBqecccebbgbbdbbbubDfbFjiGkbBmjBpEFfBmbbfbcBrbeZw",
       "DicgDFulfBrcdCmHkCmKscgcBmcgcibbbbbbbBfcCbbhbbddbhdecgenfdbhEmbnbqnDxbebckbbdfgbbbbbbe",
       "bgebceffebrBgdcBFlCaCRuIvgedcmBmbbfbBTWcBusBeFcDydebCkccbbbivfbdBFpBrbogDcBEAihmfBNtBa",
       "gBaBTtDcDsBkeBkEmlbpbhbcblbpbhbcRjbcdbBqbjBUzBznBzDpwkwEFiCmBGIqCmBMLkDhbCtbccbcccebmb",
       "bbhbCnbecibhbBcbebfbbdhbNcczbzbBfbzbBfbzbBfbzbBfbzbiCSykbuggKbCkDGkCqDAaBagBagBa"]),
    (["changeswhencasefolded", "cwcf"],
      ["CnBaDmbkxbiBgbbbbbbbbbbbbbbbbbbbbbbbbbbbbbbbbbbbbbbbbbbbbbbbbbbbbbbbcbbbbbbbbbbbbbbbbc",
       "bbbbbbbbbbbbbbbbbbbbbbbbbbbbbbbbbbbbbbbbbbbbbcbbbbbbbcbbbcbdcebcbddcbcbbbbbcbbcbbcbdbb",
       "bcdbhcbcbcbbbbbbbbbbbbbbbbcbbbbbbbbbbbbbbbbbccbbbdbbbbbbbbbbbbbbbbbbbbbbbbbbbbbbbbbbbb",
       "bbbbbbbbbbbbbbbbbbbbbbhcbccbbebbbbbbbbJmbBqbbbdbibgbbdbbbcbrbjwbmddcbbbbbbbbbbbbbbbbbb",
       "bbbbbbbcccbbbccBzBwbbbbbbbbbbbbbbbbbbbbbbbbbbbbbbbbbjbbbbbbbbbbbbbbbbbbbbbbbbbbbbbbbbb",
       "bbbbbbbbbbbbbbbbbbbbbcbbbbbbbbbbbbcbbbbbbbbbbbbbbbbbbbbbbbbbbbbbbbbbbbbbbbbbbbbbbbbbbb",
       "bbbbbbbbbbbbbbbbbbbbbbbbbbbbbbbbbbbbbbbbbbbbcBmBwbEFgBmbbfbBFegDFujhBrcdMibbbbbbbbbbbb",
       "bbbbbbbbbbbbbbbbbbbbbbbbbbbbbbbbbbbbbbbbbbbbbbbbbbbbbbbbbbbbbbbbbbbbbbbbbbbbbbbbbbbbbb",
       "bbbbbbbbbbbbbbbbbbbbbbbbbbbbbbbbbbbbbbbbbbbbbbbbbbbfccbbbbbbbbbbbbbbbbbbbbbbbbbbbbbbbb",
       "bbbbbbbbbbbbbbbbbbbbbbbbbbbbbbbbbbbbbbbbbbbbbbbbbbbbbbbbbbbbbbbbbjiigkiiiiglbbbbbbbiiq",
       "BwcdcgfdcglemffdcgLlbdcgbBtqtbBFmBaCSuBwBwbbdcbbbbbbebbcbidbbbbbbbbbbbbbbbbbbbbbbbbbbb",
       "bbbbbbbbbbbbbbbbbbbbbbbbbbbbbbbbbbbbbbbbbbbbbbbbbbbbbbbbbbbbbbbbbbbbbbbibbbebBTYjbbbbb",
       "bbbbbbbbbbbbbbbbbbbbbbbbbbbbbbbbbbbbbbbbtbbbbbbbbbbbbbbbbbbbbbbbbbbbFfbbbbbbbbbbbbbdbb",
       "bbbbbbbbbbbbbbbbbbbbbbbbbbbbbbbbbbbbbbbbbbbbbbbbbbbbbbbbbbbkbbbbcbbbbbbbbebbbcbbbdbbbb",
       "bbbbbbbbbbbbbbbbfbfbbbbbbbbbbbbbbbebbgbfbbbBcbBIgDcBEAihmfBNtBaBUzBoFgBkGalbpbhbcCQcBz",
       "ENlBgBGJwBgBULkBi"]),
    (["changeswhencasemapped", "cwcm"],
      ["CnBagBaCgbkxbBfbCmbDgbnbococcbbeDpbsgBbbcbbbcdcbbbcbfcbbccbhbcbbcdgfbkcGkbBqeccddbbgbb",
       "dbbbubBvdBhbfbFdiGkbBmkBnEFgBmbbfbcBrcdZwDicgDFujhBrcdHdbdbqbEjGacbbEocgcBmcgcibbbbbbb",
       "BfcCbbhbbddbhdecgenfdbhLlbdcgbBbbrBgdcBFlCaCRuEjbcbchDyhedcmBmbbfbBTWcBusBcFeocCkjpddc",
       "fbzbBbfceeBbcBHcbBcDcBEAihmfBNtBagBaBTtDcDsBkeBkEmlbpbhbcblbpbhbcCOpBznBzEKzCmBGIqCmBU",
       "KeCq"]),
    (["changeswhenlowercased", "cwl"],
      ["CnBaDxxbhBhbbbbbbbbbbbbbbbbbbbbbbbbbbbbbbbbbbbbbbbbbbbbbbbbbbbbbbbcbbbbbbbbbbbbbbbcbbb",
       "bbbbbbbbbbbbbbbbbbbbbbbbbbbbbbbbbbbbbbbbbbbcbbbbdcbbbcbdcebcbddcbcbbbbbcbbcbbcbdbbbcdb",
       "hcbcbcbbbbbbbbbbbbbbbbcbbbbbbbbbbbbbbbbbccbbbdbbbbbbbbbbbbbbbbbbbbbbbbbbbbbbbbbbbbbbbb",
       "bbbbbbbbbbbbbbbbbbhcbccbbebbbbbbbbLdbbbdbibgbbdbbbcbrbjBjbibbbbbbbbbbbbbbbbbbbbbbbfbcb",
       "bccBzBwbbbbbbbbbbbbbbbbbbbbbbbbbbbbbbbbbjbbbbbbbbbbbbbbbbbbbbbbbbbbbbbbbbbbbbbbbbbbbbb",
       "bbbbbbbbbcbbbbbbbbbbbbcbbbbbbbbbbbbbbbbbbbbbbbbbbbbbbbbbbbbbbbbbbbbbbbbbbbbbbbbbbbbbbb",
       "bbbbbbbbbbbbbbbbbbbbbbbbbbbbbbbbcBmEHdBmbbfbBBuDiDGsBrcdMibbbbbbbbbbbbbbbbbbbbbbbbbbbb",
       "bbbbbbbbbbbbbbbbbbbbbbbbbbbbbbbbbbbbbbbbbbbbbbbbbbbbbbbbbbbbbbbbbbbbbbbbbbbbbbbbbbbbbb",
       "bbbbbbbbbbbbbbbbbbbbbbbbbbbbbbbbbbbjbbbbbbbbbbbbbbbbbbbbbbbbbbbbbbbbbbbbbbbbbbbbbbbbbb",
       "bbbbbbbbbbbbbbbbbbbbbbbbbbbbbbbbbbbbbbbbbbbbbbbjiigkiiiiglbbbbbbbiiyiiiiiiflflemflfLlb",
       "dcgbBtqtbBFmBaCSuBwBwbbdcbbbbbbebbcbidbbbbbbbbbbbbbbbbbbbbbbbbbbbbbbbbbbbbbbbbbbbbbbbb",
       "bbbbbbbbbbbbbbbbbbbbbbbbbbbbbbbbbbbbbbbbbbbbbbbbbbibbbebBTYjbbbbbbbbbbbbbbbbbbbbbbbbbb",
       "bbbbbbbbbbbbbbbbbbbtbbbbbbbbbbbbbbbbbbbbbbbbbbbFfbbbbbbbbbbbbbdbbbbbbbbbbbbbbbbbbbbbbb",
       "bbbbbbbbbbbbbbbbbbbbbbbbbbbbbbbbbbbbbbkbbbbcbbbbbbbbebbbcbbbdbbbbbbbbbbbbbbbbbbbbfbfbb",
       "bbbbbbbbbbbbbebbgbfbbbBcbBHAhBaBUzBoFgBkGalbpbhbcCQcBzENlBgBGJwBgBULkBi"]),
    (["changeswhentitlecased", "cwt"],
      ["DtBaCgbBpybibbbbbbbbbbbbbbbbbbbbbbbbbbbbbbbbbbbbbbbbbbbbbbbbbbbbbbbbcbbbbbbbbbbbbbbcbb",
       "bbbbbbbbbbbbbbbbbbbbbbbbbbbbbbbbbbbbbbbbbbbbcbbbbdcbbbcbdbfbcbdcdbcbbbbbcbebcbdbbbcbdb",
       "bbebbcbcbbbbbbbbbbbbbbbbbcbbbbbbbbbbbbbbbbbdbbbbdbbbbbbbbbbbbbbbbbbbbbbbbbbbbbbbbbbbbb",
       "bbdbbbbbbbbbbbbbbbbbibccbbebbbbbbbbgbcbbbcdcbbbcbfcbbccbhbcbbcdgfbkcGkbBrbbbdbddsbBbBj",
       "bcddbbbbbbbbbbbbbbbbbbbbbbbfbbcbcbCaBwbbbbbbbbbbbbbbbbbbbbbbbbbbbbbbbbbbjbbbbbbbbbbbbb",
       "bbbbbbbbbbbbbbbbbbbbbbbbbbbbbbbbbbbbbbbbcbbbbbbbbbbbbcbbbbbbbbbbbbbbbbbbbbbbbbbbbbbbbb",
       "bbbbbbbbbbbbbbbbbbbbbbbbbbbbbbbbbbbbbbbbbbbbbbbbbbbbbbbbbbbbbbbbBxBnFMegDFujJgbdbqbEkb",
       "bbbbbbbbbbbbbbbbbbbbbbbbbbbbbbbbbbbbbbbbbbbbbbbbbbbbbbbbbbbbbbbbbbbbbbbbbbbbbbbbbbbbbb",
       "bbbbbbbbbbbbbbbbbbbbbbbbbbbbbbbbbbbbbbbbbbbbbbbbbbbbbbbbbbbbbhfbbbbbbbbbbbbbbbbbbbbbbb",
       "bbbbbbbbbbbbbbbbbbbbbbbbbbbbbbbbbbbbbbbbbbbbbbbbbbbbbbbbbbbbbbbbbbbbbbbjigkiiiigkiiiio",
       "ciiiiiifbcgbddbciecciikdbcNebBhqebBGlBaCTqBwbbdcbbbbbbgbcbkbbbbbbbbbbbbbbbbbbbbbbbbbbb",
       "bbbbbbbbbbbbbbbbbbbbbbbbbbbbbbbbbbbbbbbbbbbbbbbbbbbbbbbbbbbbbbbbbbbbbbbbibbbebmBmbbfbB",
       "TWdbbbbbbbbbbbbbbbbbbbbbbbbbbbbbbbbbbbbbbbbbbbbbtbbbbbbbbbbbbbbbbbbbbbbbbbbbFfbbbbbbbb",
       "bbbbbdbbbbbbbbbbbbbbbbbbbbbbbbbbbbbbbbbbbbbbbbbbbbbbbbbbbbbbbbbbbbbkbbbcbbbbbbbbbebebb",
       "ccbbbbbbbbbbbbbbbbbbblbbbbbbbbbbbbbbbebbbgbfbbbBcbBHcbBcDcBEAihmfBOzBaBVhBoFgBkFzlbpbh",
       "bcCRbBzEMfBgBGJwBgBULmBi"]),
    (["changeswhenuppercased", "cwu"],
      ["DtBaCgbBpybibbbbbbbbbbbbbbbbbbbbbbbbbbbbbbbbbbbbbbbbbbbbbbbbbbbbbbbbcbbbbbbbbbbbbbbcbb",
       "bbbbbbbbbbbbbbbbbbbbbbbbbbbbbbbbbbbbbbbbbbbbcbbbbdcbbbcbdbfbcbdcdbcbbbbbcbebcbdbbbcbdb",
       "bbfcbcbcbbbbbbbbbbbbbbbcbbbbbbbbbbbbbbbbbcbcbbdbbbbbbbbbbbbbbbbbbbbbbbbbbbbbbbbbbbbbbb",
       "dbbbbbbbbbbbbbbbbbibccbbebbbbbbbbgbcbbbcdcbbbcbfcbbccbhbcbbcdgfbkcGkbBrbbbdbddsbBbBjbc",
       "ddbbbbbbbbbbbbbbbbbbbbbbbfbbcbcbCaBwbbbbbbbbbbbbbbbbbbbbbbbbbbbbbbbbbbjbbbbbbbbbbbbbbb",
       "bbbbbbbbbbbbbbbbbbbbbbbbbbbbbbbbbbbbbbcbbbbbbbbbbbbcbbbbbbbbbbbbbbbbbbbbbbbbbbbbbbbbbb",
       "bbbbbbbbbbbbbbbbbbbbbbbbbbbbbbbbbbbbbbbbbbbbbbbbbbbbbbbbbbbbbbBxBnEHcBrcdBDggDFujJgbdb",
       "qbEkbbbbbbbbbbbbbbbbbbbbbbbbbbbbbbbbbbbbbbbbbbbbbbbbbbbbbbbbbbbbbbbbbbbbbbbbbbbbbbbbbb",
       "bbbbbbbbbbbbbbbbbbbbbbbbbbbbbbbbbbbbbbbbbbbbbbbbbbbbbbbbbbbbbbbbbbhfbbbbbbbbbbbbbbbbbb",
       "bbbbbbbbbbbbbbbbbbbbbbbbbbbbbbbbbbbbbbbbbbbbbbbbbbbbbbbbbbbbbbbbbbbbbbbbbbbbjigkiiiigk",
       "iiiiocCbbcebbbddbcebdecciikdbcebMzbBhqebBGlBaCTqBwbbdcbbbbbbgbcbkbbbbbbbbbbbbbbbbbbbbb",
       "bbbbbbbbbbbbbbbbbbbbbbbbbbbbbbbbbbbbbbbbbbbbbbbbbbbbbbbbbbbbbbbbbbbbbbbbbbbbbbibbbebmB",
       "mbbfbBTWdbbbbbbbbbbbbbbbbbbbbbbbbbbbbbbbbbbbbbbbbbbbbbtbbbbbbbbbbbbbbbbbbbbbbbbbbbFfbb",
       "bbbbbbbbbbbdbbbbbbbbbbbbbbbbbbbbbbbbbbbbbbbbbbbbbbbbbbbbbbbbbbbbbbbbbbbbbkbbbcbbbbbbbb",
       "bebebbccbbbbbbbbbbbbbbbbbbblbbbbbbbbbbbbbbbebbbgbfbbbBcbBHcbBcDcBEAihmfBOzBaBVhBoFgBkF",
       "zlbpbhbcCRbBzEMfBgBGJwBgBULmBi"]),
    (["dash"],
      ["BtbCAubBzbFKjbBNpbDBdgCjbBnbpbPabEOibcbBfcebBcbRebtbEhbCZWacBlbkbGnbFXvb"]),
    (["defaultignorablecodepoint", "di"],
      ["GrbZxbBBobEGwcCKhcDhfDApfBafBxqGKybCZMpqJfbGebDbjCTLneHWxiBTKZlGBo"]),
    (["dep", "deprecated"],
      ["MrbBYvbDKtbbbDCjcDIjgBAvcBZRYkb"]),
    (["dia", "diacritic"],
      ["DqbbbCtbgbebccTjGdbifgrcebjcJtfIbbCdrbBbbbbcbbFeiecFececddCpBbDnlCglBicEwiBpkqBcCjbqbd",
       "eBcbCwbqbEgbqbEgbqbBvdCibqbhbEpbEgbqbEgbqbEfcqbEubEugbbEdbnfCxcBbbbbbbecCodbcCkbEibbcB",
       "ocefzhbbkcBBddBKmcGxljbNjdMbicbBwpclEabpbBmjCccFicCmgDezebgbcdByClDlmBllRdbbdldndndncE",
       "XkdMfbTmgEbeDrbBSMkbmcbbBccDecoBiDydEfcHubBbsCfeBkbDrbmbBkbFtdCneBzbDwfjdEycBDZsbBDpqK",
       "kbbbBvbBtcCpbBDkbBTngbBqbjBFecVzgSbdCslBxeHkbBpbCucEqcCkbCybjdEacGwcDdbqbyhdfHxbdbEtcJ",
       "rcEwbEocElbKjcJycebGabDfbsbDdbQfbJybbcDdbIPjpURqfChhBQurDccYGcebhbcLThBucxUyddgiichBee",
       "FMwCkHmhOlbCjeCFwhEfdbd"]),
    (["emoji"],
      ["BjbgbfkEhbebLYrbmbIibwbDmgpcOdcmbGkbzledHrbIxckbjbCgebfjbcbcccbebcbbccbdbdcidfbbbfmlcc",
       "bbcbbsbccsgbbbcdcfbcceclcfccbfcbbbcucfgbecbebcbcgbbcbbbbbgbdbgbkcpbcbebbbedbblcBwdjbob",
       "obOicRvdtcBzbebBVubmbXdbbbGMRqbHubGecmcobckCxBabcxbubcjvcGsBicEiccbdcDfcdbKdbCllgbyhcc",
       "imbcecbecnccbicjbfdmdidcbbbebgbdbgDiBwCsficdekdbbcdbckItmebKxBvbkbHdEindjhBubhioejhj"]),
    (["ecomp", "emojicomponent"],
      ["BjbgbfkMBjbIfbDFTrbDOIwBaTnfCEaeBSVUqDs"]),
    (["emod", "emojimodifier"],
      ["HHIxf"]),
    (["ebase", "emojimodifierbase"],
      ["OLhbIlbqeGSJvbCidcbcdEncclvtdbedbdhbbbybHtcebvbecGsddfDfbqdjblbWdbcbiigbjkcdCebCjcbcbb",
       "rdbnIvdBqj"]),
    (["emojipresentation", "epres"],
      ["NHqcHxedbcbUbcvcBymBrbtbnbicrcfcibfbvbhcbbebcbhbecBcbBjbbbedbbCjdybobBHbcBzbebGPLebHub",
       "HibckCxBabbybubcfbdvcGsBhmjbCsbwmBrefmrdbdCtbbbHfcClnebysbBacnbDiDhBwCsgbddcdeelchjItm",
       "ebKxBvbkbHdEindjhBubhioejhj"]),
    (["extendedpictographic", "extpict"],
      ["GnbebLYrbmbIibwbDmgpcOdcmbDrbCsbzledHrbIxckbjbCgebgbmbEkkEoclbbbbgbdbgbkcpbcbebbbedbbl",
       "fBtdjbobobOicRvdtcBzbebBVubmbXdbbbGMRmJwndBfbCigmcobcksCfBbpkbubcjbejQsfMgiKgBwEyEmmDh",
       "BrmeCeikgBoiBeDemBvbkbQzJwBNi"]),
    (["ext", "extender"],
      ["HbbUqcBHubQzbBHabBCybExbDNfbCebXnbPibCqbHKjbBrfDzcDpdBQBubCGsbBLabwbFhbEebvcBFZvbDBkcE",
       "MsbXsdBVjbBEOfcBTkcbbBQYacDBad"]),
    (["graphemebase", "grbase"],
      ["BgDrBhnbWwEiicgehbbbubIqhGkbBmcBycdBubbbcbcbjBbegrklbbBuvqbDxibgccbeBgcbbBeBdDllboBrjh",
       "dyebjbdbhpbzfbblfBfrBqCfCdbbbeiebdhkcBdbcbicccwbhbbdedbbcgcccbbncbdeyfbbgeccwbhbcbcbce",
       "dyebbhkcdbbmbbjbdbwbhbcbfdeibbcdbpcemhbicbicccwbhbcbfdbcbgcccpcbdeslbbgddbedcbbbcdcddd",
       "mfbbcddbddbvvgdbibdbxbqdbdetdcbccekhkblbdbxbkbfdcbcbcccbcrcbcekbdolbdbBpcbbcfdbdbcedbk",
       "eBaccbsdybjbbchjcghhkcdmBwbcliinBlcbbbfbybbbkbcjbcfbbjkceBgycBbbbbbbobBksbfbcfBxibgbnB",
       "lBtebgbccczcedqenbccgbpbBobbfbcOnbechbbbecBpbecBhbechbbbecpbCfbecCpfBddBagDicgcZtdDlhs",
       "dbjtcdjsonbdpCacbhibcljdkgkglfkgDlhfcBibbfCskBfeecdecbghbdBqcflBseBagldCfccdCebbjbbcig",
       "nkgkgoDiBwhbbfbkdBbjldBgeccbdCebbcdbbdciBwicfpdCkfBrcllbnbhebgbdcbfHkCmKscgcBmcgcibbbb",
       "bbbBfcCbbpbocgbtcdbjblfyhBxqccBbbndBhClFkeZnzlvCRscBgbNgdcfBtbbfbcCehcpxjhbhbhbhbhbhbh",
       "bhBhDqBiBabDlmIgBameBqgqbDieDxfBrbDqbDgmBvbBRIrdCdjNkuBvebkBgcDccgiHyccbbbivqbdbebzcfe",
       "kgCeiCqkmynbBmizlclBegBwbceccqblehbzbBpgcccldbibbckcBgbBzbbdccfcbbbyrcilgcgcgjhbhbCieE",
       "nbcbedkgQNsmxeBxMNcOccEcBmhmffbbybfbbbcbcbEvqRdcCchbBgqqkwBjbtbeefbFfeGbcBfdgcgcgcddhb",
       "hnccmbBabtbcbpcoBiEtfdeBtdDkbndbBvBtFbBddBxqBbeBkjBefBmkBebBleoBqGcckgBkeBkeBoiCalmbpb",
       "hbcblbpbhbcCpLzjwkiygbBqbjCrgcbbBsbcdbcxbCuijBwtbcfBhdBbfbCmCeeucBvpebdbBdkjhjhCmBgBlg",
       "mjCcdBdcBbfBahemhDcCvCdBznBzhBqmkwwkwIkBfbBqdbccDaBoiwljwseeBmBcuxjbbCcpheBebccbmBxecc",
       "cbeozhkjBkfbjsiBjbdlCajkecbqbulsbBcdcbbcgbcClhbbbebpblgBvbdnkicbicccwbhbcbfdbbbbecccdc",
       "bmhGaCeicdbbvbbbdBeBwbcgbbcbbcbceikGkBvbcgecbcBbBkBzicbbcelkgntBrbbbcgbbcgkCcBbfcebjxH",
       "dBvjbcbDwDfmicbcibcbybfbcebbebdjkCsicBqiebeBbbkBogceijbgcdBunbcjnCvhkJmjbBmobbgkBddBgz",
       "bhbcbCxhbcbBmvbjkggbcbBlecbbbbhkLytcejpbBkicbbbxDibpBynBJnDyEhbflHoDXkDvnBPgrgFYvWlMUb",
       "VxhBfbkeDdbkgBehbkBwhpkkbhbvftBAmDnDxCxfCelnCmemcoJCaiBVqBqjNFrebhbcbLfpbBddcboeiPgDKu",
       "EdfndjhkcbcbHCaEmCiJmkBncCibbdevchBeeCjvCodbEsumumDjjzFfDhbCtbccbcccebmbbbhbCnbecibhbB",
       "cbebfbbdhbNccLgcVqCdeByibobhBRwBfggKbCkFqBtkhckecMiBesBsekfbRwBcekBCohbebcbpbHpcjBwCqh",
       "bekecBEfCqCyCjHmebBbbcbbcbbkbebbbbgbebbbbbbdbcbbcbbbbbbbbbbcbbcebhbebebbbkbrfdbfbrCacK",
       "kBseDwmpcpbpbBlkGsCeBdnBsejhcogFyBLwerdndEpeDrgmebpmeCeikgBoiBeccDaNcmocndjhBubhioejhj",
       "hFrbCdBlkBNqCLFcBgGDugIocINqoLBlEPjUwCFyHHzfGFg"]),
    (["graphemeextend", "grext"],
      ["BDoEiKphKdBtbbbcbcbbCulBwvqbDxhcgccbeBjbBeBbDnlCgjjbyebjbdbfBrdCiiBqybBgCdbbbeiebdhkcB",
       "dbCgbbbceibjbkcBabccCfbececcddbBecdblcCfbefbcebucwgbbCgbbcbeibhdkcBebChbbbmbjbBobdbCdb",
       "bdfdbehclcBdbCgbcbcbdbfchclcBccCfcbbceibjbkcBdbCubebcdbbibDdbchmiDubcjlhCvcBbbbbbbCdob",
       "fbcflbBkjbDyebgbccczcedqenbccgbpbBBbdBKkdBdcBecBecCmcbhibcljbBtdbbEncBibEodecjbgdIlccb",
       "CgbbhbbbbcigkcbBwBfBxeBwhbbfbBojmcBgeccbdCebbcdbbdCgiccFwdbnbhebgbdcHqCmUebHnBhEOcdFlb",
       "DsBgVigEbcBSQeebkBgcDccKmbdbebzcfbFvcBasnbBmizlBudBwbceccBnbCpgccccmbibBvbBzbbdccfcbbB",
       "qcibJebcbebBDZsbBCjqqqOccXhbIsbFtfCMgdbcfeBodebGjcWbeOxcDcdCslBxeEtbCcpBpbcckdBxecchbC",
       "jdBkfbiCkbmcCajkecbDrdcbbcgbcbGbbdivcCfcbbbbwbohdfHnicdbbxbDdbcgbbcbbcbcJbbcegcbcBbcDh",
       "icbbcEcbbbcgbbDxdcebfJzjbcJlbkcbbebFoeccebBgkBogceibjgcdBunbcPqhbgbbDewchbcbcEsgdbbcbh",
       "bbCucdbbbNjclcCaffbbbHYrbgpURqfChhBOibCleDdbBDBkcGYzBucxUwbbdefiichBeeFsdCYdCdeByibobw",
       "fbpCAihbrchbcbfDwbGehOlbCjeToeBMehEfhBTCAfDsEyJg"]),
    (["hex", "hexdigit"],
      ["BwkhgBagDSLlkhgBag"]),
    (["hyphen"],
      ["BtbExbBVwbGZzbDBdcFIbbBClbCZUlbGnbDjb"]),
    (["idsb", "idsbinaryoperator"],
      ["SEacci"]),
    (["idst", "idstrinaryoperator"],
      ["SEcc"]),
    (["idc", "idcontinue"],
      ["BwkhBaebbBaBvbkbbbcbfxbBfbRqemofhbbbrEnbccebbgfbbbubDfbFjbfcGkbBmcbgBpiBtbbbcbcbbiBbee",
       "BdlfCweDybickbtcbqChcDxoCcebcbcBusBcelfybgjCwbEzckbtbicccwbhbbdecjccceibecbfcmkbbbcdbg",
       "eccwbhbcbcbccbbfeccddbhebbhqldbjbdbwbhbcbfckbdbdcbpeckjhbdbicccwbhbcbfcjcccdhdecbfckbb",
       "qcbgddbedcbbbcdcdddmefddbecbgbokqnbdbxbqcjbdbehcbdcbceckqebibdbxbkbfcjbdbehcgcbeckbdmn",
       "bdbBzbdbffehfckkgbdbsdybjbbchdbegbbbigkccnCgfpbkBncbbbfbybbbxcfbbbhbkceBgbxcgklbbbbbek",
       "bBkeubsbBkjbCfCwgDacBmbbfbcBrbMvbechbbbecBpbecBhbechbbbecpbCfbecCpcdjjoqqDicgdXwcrbBaf",
       "CxdlhwjwlumnbdbcmDgdbecckBhdblgDlhBrfCskBfbmemkBocflBseBaglBlBceClbBdclgknbiobqBxCzdkr",
       "jmEmmCeikdBxclfBrcdqdbBnfUocgcBmcgcibbbbbbbBfcCbbhbbddbhdecgenfdbhCoctbBcbnbqnBznebdmr",
       "bebckbbcggbbbbbbqceffebrBpDZbIvgjmBmbbfbcCehbpyjhbhbhbhbhbhbhbhbBgTxdzpbfcfeDichbDmbef",
       "BrbDqrBgBwqTsJToCmBGUfCpBucKjdBcuBwekbElBljcDzcCpccbbbivCcebtCamCskkgydbbBxcBkmBddCnol",
       "gBfbCdjockgxdCvydcqcfkgcgcgjhbhbBrbogEtbcckgQNsmxeBxMNcOccEcBmhmffmbnbfbbbcbcbEeBhNzsC",
       "mcCcBomeqqqdcydBgfbFftkhBaebbBalDldgcgcgcdBjmbBabtbcbpcoBiEtCrCbFgbFaBddBxpbBfBgnBefBr",
       "fBecBkeibfBqGcckgBkeBkeBoiCamlbpbhbcblbpbhbcCpLzjwkiygbBqbjCrgcbbBsbcdbcxkxjBfCntbckwk",
       "BaCsCegcCmebcfibdbBdcdebBgBddBdBjibBezCckwktnsEgCvCdBznBznBoikwwkwJqBqbcdcCxBgkbiBhBfw",
       "BqvBbxjCtBfqjCihbnzhkgCbbkeeiBkcbjCreebnbbBjsbBlgeCkhbbbebpbkhChfkgebicccwbhbcbfbkcccd",
       "cbgbfhchdfFjCxfkeeBeCsbbikGkCccjxgBiCndblkBmCfhkCcBbcpekghHdChDxCwvicbcibcbBebccjmkCsi",
       "cBucibcBbClibiCwdbsCvKdjbBtbjpkyBecwboCvhbcbBsdbbcbjikggbcbBlbcbghkLyxjrbBpdfnkDibDbBJ",
       "mDyEhrHoDXkDtpBPgqwFYgWlMUbVxhBfbkgDbbkgBecflCdjemkjvftBAmCmEyCxeCfhrCmcbclcoJCaiBVqBq",
       "jNFrebhbcbLfpbBddcboeiPgDKuEdfndjhkdcGYzBucxUwfdgiichBeeFsdRbDhbCtbccbcccebmbbbhbCnbec",
       "ibhbBcbebfbbdhbNcczbzbBfbzbBfbzbBfbzbBfbzbicByTsCdeByibobwfbpBQmBfggIfhbrchbcbffCkBhbE",
       "iBtdockebMjBfrCgScBqBCohbebcbpbHplhBpCyekBTuebBbbcbbcbbkbebbbbgbebbbbbbdbcbbcbbbbbbbbb",
       "bcbbcebhbebebbbkbrfdbfbrFAakBNqCLFcBgGDugIocINqoLBlEPjUwCFyHHzfGFgBONHgJg"]),
    (["ids", "idstart"],
      ["CnBagBaBvbkbebfxbBfbRqemofhbbbEzfbccebbgbbdbbbubDfbFjiGkbBmcbgBpCtBbeeBtBrBjcbDvbbpchc",
       "kdcbqbbBeBdDllbyBhjcebfwebjbdbxzhlfybgrBqCgCcdbsbhkpqeicccwbhbbdedbqbncbdockbigeccwbhb",
       "cbcbcBfebbtdqjbdbwbhbcbfdbsbpcxblicccwbhbcbfdbBecbdpbrbbgddbedcbbbcdcdddmwbCaibdbxbqdb",
       "BadcbccBebeibdbxbkbfdbBfcbcpcrjbdbBpcbqbfdidygfsdybjbbchCgBwbcmhCgcbbbfbybbbkbcjbcfbbv",
       "eBgbClibBkBbfElBrubqgeedbdchdenmbrBmbbfbcBrbMvbechbbbecBpbecBhbechbbbecpbCfbecCpBlqqDi",
       "cgdXwcrbBafCxdlhsntosonbdpCaBjbebCpDlhBpbbfCskBfBxBecflBseBaCcxjCbDebDpBvriCcBenckBsBa",
       "BkBpdkBkclfBrcdBpebgbcdbfHkCmKscgcBmcgcibbbbbbbBfcCbbhbbddbhdecgenfdbhEmbnbqnDxbebckbb",
       "cggbbbbbbqceffebrBpDZbIvgedcmBmbbfbcCehbqxjhbhbhbhbhbhbhbhVedzjhfcfeDiefbDmbefBrbDqrBg",
       "BwqTsJToCmBGUfCpBucKjdqkcuBvqBfcDcBnjcDzcCpccbbbivqbdbebxBdCaoByCkgdbbclBckxzBdhBvBcbq",
       "fbkkfbBpxdbiuxdbdBybbdccfcbbbydclhdmgcgcgjhbhbBrbogElBdQNsmxeBxMNcOccEcBmhmffbbkbnbfbb",
       "bcbcbEeBhNzsCmcCcBomEmfbFfBkBagBalDldgcgcgcdBjmbBabtbcbpcoBiEtCrCbKhBddBxBvBgnBefBmkBe",
       "cBkeibfBqGcsBkeBkeBoiCamlbpbhbcblbpbhbcCpLzjwkiygbBqbjCrgcbbBsbcdbcxkxjBfCntbckwkBaCsC",
       "egcCmbpebdbBdBqBddBdBjibBcBbCckwktnsEgCvCdBznBznBkBswkwJqBqgcDaBdkbiwBqsBuvBbxmCbCfccb",
       "nBtBgzBaBkBdbcbiBjdbmBwoevbbbBjsbztcClhbbbebpbkhBvBmicccwbhbcbfdbsbmfGcCbseudBeBwucbbH",
       "cBvBpeBkBwubChBrnbCtBbBlhHdBsEmCmBficbcibcbypbbbDqicBnqbbbBcbkBohbvblButbsCvKdjbBlrbBx",
       "BeEihbcbBmvbzgbcbBgobMptpbbnbBiEubDbBJmDyEhrHoDXkDtpBPgrgFYvWlMUbVxhBfrDbrBesBwqeBfvft",
       "BAmCmEyCxfbConCmcbbBcJCaiBVqBqjNFrebhbcbLfpbBddcboeiPgDKuEdfndjhkIWkDhbCtbccbcccebmbbb",
       "hbCnbecibhbBcbebfbbdhbNcczbzbBfbzbBfbzbBfbzbBfbzbiCSyBfggKbCkFqBtkhqbMjBesBsSqBcBDchbe",
       "bcbpbHpChCqhbBUiebBbbcbbcbbkbebbbbgbebbbbbbdbcbbcbbbbbbbbbbcbbcebhbebebbbkbrfdbfbrGOaC",
       "LFcBgGDugIocINqoLBlEPjUwCFyHHzfGFg"]),
    (["ideo", "ideographic"],
      ["SEwczjodBLdJToCmBFBkBHSiOccEcBSIkbBbJCaiBVqBqjNUlPgBDEiCLFcBgGDugIocINqoLBlEPjUwCFyHHz",
       "fGFg"]),
    (["joinc", "joincontrol"],
      ["MDoc"]),
    (["loe", "logicalorderexception"],
      ["FKifEtfEDsdcbCCXmccbbc"]),
    (["lower", "lowercase"],
      ["DtBaBvbkbebBkybibbbbbbbbbbbbbbbbbbbbbbbbbbbbbbbbbbbbbbbbbbbbbbbbbbbbbbbcbbbbbbbbbbbbbb",
       "bcbbbbbbbbbbbbbbbbbbbbbbbbbbbbbbbbbbbbbbbbbbbbbbcbbbbdcbbbcbdcebcbddcbcbbbbbcbbcbbcbdb",
       "bbcccdgbcbcbbbbbbbbbbbbbbbbcbbbbbbbbbbbbbbbbbccbbbdbbbbbbbbbbbbbbbbbbbbbbbbbbbbbbbbbbb",
       "bbbbbbbbbbbbbbbbbbbbbbbhcbccbbebbbbbbbbCrbBkhcBefDsbBrbbbdbcesbBbBjbcddbbbbbbbbbbbbbbb",
       "bbbbbbbbfbbcbccBzBwbbbbbbbbbbbbbbbbbbbbbbbbbbbbbbbbbbjbbbbbbbbbbbbbbbbbbbbbbbbbbbbbbbb",
       "bbbbbbbbbbbbbbbbbbbbbcbbbbbbbbbbbbcbbbbbbbbbbbbbbbbbbbbbbbbbbbbbbbbbbbbbbbbbbbbbbbbbbb",
       "bbbbbbbbbbbbbbbbbbbbbbbbbbbbbbbbbbbbbbbbbbbbbBwBpEHbBrbeBDggDFujbbEnHkCnbbbbbbbbbbbbbb",
       "bbbbbbbbbbbbbbbbbbbbbbbbbbbbbbbbbbbbbbbbbbbbbbbbbbbbbbbbbbbbbbbbbbbbbbbbbbbbbbbbbbbbbb",
       "bbbbbbbbbbbbbbbbbbbbbbbbbbbbbbbbbbbbbbbbbbbbbbbbjbbbbbbbbbbbbbbbbbbbbbbbbbbbbbbbbbbbbb",
       "bbbbbbbbbbbbbbbbbbbbbbbbbbbbbbbbbbbbbbbbbbbbbbbbbbbbbbbbbbbbjigkiiiigkiiiiociiiiiifbcg",
       "bddbciecciikdbcErbnbqnEfbdcdbBbbebebccieebBhqebBGlBaCTqBwbbdcbbbbbbebbcbidbbbbbbbbbbbb",
       "bbbbbbbbbbbbbbbbbbbbbbbbbbbbbbbbbbbbbbbbbbbbbbbbbbbbbbbbbbbbbbbbbbbbbbbbbbbbbbbbbbbbbb",
       "chbbbebmBmbbfbBTWdbbbbbbbbbbbbbbbbbbbbbbbbbbbbbbbbbbbbbbbbbbbbbtbbbbbbbbbbbbbbbbbbbbbb",
       "bbbbdFdbbbbbbbbbbbbdbbbbbbbbbbbbbbbbbbbbbbbbbbbbbbbbbbbbbbbbbbbbbbbbbbbbbbbbbbbbbkbbbb",
       "cbbbbbbbbbebbbcbbdbbbbbbbbbbbbbbbbbbbbfbfbbbbbbbbbbbbbbbebbbcbdbbbbbbbbbbbwdbbbdBFpBrb",
       "ogDcBEAihmfBOzBaBVhBoFgBkFzlbpbhbcRjbcdbBqbjBXlBzEvwEGoBgBGJwBgBMMkBaBahbsBaBaBaebbbhb",
       "lBaBaBaBaBaBaBaBaBaBaBaBaBaBaBaBaBaBcBczbgBazbgBazbgBazbgBazbgbbCSykbuggKbCkDHsBi"]),
    (["math"],
      ["BrbqdBfbBdbbbBtbebBlbBfbBCadcbBaccdUhdJWnbBbdlbdbnboevflfCnnebdcefsbebckbbcggbdcccbdbg",
       "dobbCqybgbceceBgbbgcoKiieucDmbBeBbbbyblhRdcmkegecccdfobbbcglifcCfbbbBdejdMyCmJwTsBwvcg",
       "DASqbBFrgbbGgbqdBdbbbBdbbbFbbgeDCIdDhbCtbccbcccebmbbbhbCnbecibhbBcbebfbbdhbNccLgcByIIq",
       "ebBbbcbbcbbkbebbbbgbebbbbbbdbcbbcbbbbbbbbbbcbbcebhbebebbbkbrfdbfbrCac"]),
    (["nchar", "noncharactercodepoint"],
      ["DSDcBgUgcDSYocDSYocDSYocDSYocDSYocDSYocDSYocDSYocDSYocDSYocDSYocDSYocDSYocDSYocDSYocDS",
       "Yoc"]),
    (["patsyn", "patternsyntax"],
      ["BhpkhBaebbBaeBihbbbcbbbcebebdbxbBfbLUeyipctbkLtBBsGeYgBeBRoTsEyOvdezpbCZQzcKbc"]),
    (["patternwhitespace", "patws"],
      ["jfsbDwbLYmcyc"]),
    (["pcm", "prependedconcatenationmark"],
      ["CHcgIhbBxbOucDcbDVXybpb"]),
    (["qmark", "quotationmark"],
      ["BibebFbbpbLWuizcFIdbRpendDABpeHhbebDmc"]),
    (["radical"],
      ["RPwBabDlmIg"]),
    (["regionalindicator", "ri"],
      ["HGOkBa"]),
    (["sentenceterminal", "sterm"],
      ["BhbmbqbCAbbFrdGybBrdJmbCjbbbdcLhcCPwcBEkbecBDtbHqcHwbfbMccNqeGscccBdcHgcCncBKucjdFGubn",
       "bwcQnbBSHwbKkcItbdbOscDicDrbFwcFrdFocJpbBFFibdcGnbmbqbCnbEDwcBXdfBseHhcEneExdEzcgbqcDk",
       "cbcEebQbcOjcfpEbcJpdTxbbbJrcDjcQecBAqcCwcBCMbcFdbCnclbBGtbBDOgbLImb"]),
    (["sd", "softdotted"],
      ["EbcHobKvbBebCabubMibDubbbJMnbBzbnbdbFcbGbbQfbIgcEGgbGELhcBycBycBycBycBycBycBycBycBycBy",
       "cBycBycDFybLtcBab"]),
    (["term", "terminalpunctuation"],
      ["BhbkbbblcdbBFybibTtbCfbCubobbdGybBrlbbJbcCcpBfbKbcBWucGqbegLzcBEjiBDtbEudCtcGbddbBnecc",
       "MccNqeGscbdBdcHgfCkcBKucjdFGubnbebkbbcdcQmcBSHvcKjdItfOscDicDrbFvdFrdExbqcJpbBFFgdbeGn",
       "bkbbblcdbCnbcbBPqbBwbBSobHrbLycFwgCqgDleBKqfBseHhhEieExdEzcgbqcDkfEebQbdmcNuedpEbcJpdT",
       "xbbbJrcDjcecPydBtbYvcCwcBYxfBAMzcFdbCndkbBGscBDOgbLIle"]),
    (["uideo", "unifiedideograph"],
      ["TSaJToCmBFBkBICscbbbckbbbbccdDVEcCLFcBgGDugIocINqoLBlHQdHHzfGFg"]),
    (["upper", "uppercase"],
      ["CnBaDxxbhBhbbbbbbbbbbbbbbbbbbbbbbbbbbbbbbbbbbbbbbbbbbbbbbbbbbbbbbbcbbbbbbbbbbbbbbbcbbb",
       "bbbbbbbbbbbbbbbbbbbbbbbbbbbbbbbbbbbbbbbbbbbcbbbbdcbbbcbdcebcbddcbcbbbbbcbbcbbcbdbbbcdb",
       "hbcbcbcbbbbbbbbbbbbbbbcbbbbbbbbbbbbbbbbbcbcbbdbbbbbbbbbbbbbbbbbbbbbbbbbbbbbbbbbbbbbbbb",
       "bbbbbbbbbbbbbbbbbbhcbccbbebbbbbbbbLdbbbdbibgbbdbbbcbrbjBjbcddbbbbbbbbbbbbbbbbbbbbbbbfb",
       "cbbccBzBwbbbbbbbbbbbbbbbbbbbbbbbbbbbbbbbbbjbbbbbbbbbbbbbbbbbbbbbbbbbbbbbbbbbbbbbbbbbbb",
       "bbbbbbbbbbbcbbbbbbbbbbbbcbbbbbbbbbbbbbbbbbbbbbbbbbbbbbbbbbbbbbbbbbbbbbbbbbbbbbbbbbbbbb",
       "bbbbbbbbbbbbbbbbbbbbbbbbbbbbbbbbbbcBmEHdBmbbfbBBuDiDGlbgBrcdMibbbbbbbbbbbbbbbbbbbbbbbb",
       "bbbbbbbbbbbbbbbbbbbbbbbbbbbbbbbbbbbbbbbbbbbbbbbbbbbbbbbbbbbbbbbbbbbbbbbbbbbbbbbbbbbbbb",
       "bbbbbbbbbbbbbbbbbbbbbbbbbbbbbbbbbbbbbbbjbbbbbbbbbbbbbbbbbbbbbbbbbbbbbbbbbbbbbbbbbbbbbb",
       "bbbbbbbbbbbbbbbbbbbbbbbbbbbbbbbbbbbbbbbbbbbbbbbbbbbjiigkiiiiglbbbbbbbiiCuemememfleKcbe",
       "bddcdcbdfgbbbbbbecekcfbBaqtbBFmBaCSuBwBwbbdcbbbbbbebbcbidbbbbbbbbbbbbbbbbbbbbbbbbbbbbb",
       "bbbbbbbbbbbbbbbbbbbbbbbbbbbbbbbbbbbbbbbbbbbbbbbbbbbbbbbbbbbbbbbbbbbbbibbbebBTYjbbbbbbb",
       "bbbbbbbbbbbbbbbbbbbbbbbbbbbbbbbbbbbbbbtbbbbbbbbbbbbbbbbbbbbbbbbbbbFfbbbbbbbbbbbbbdbbbb",
       "bbbbbbbbbbbbbbbbbbbbbbbbbbbbbbbbbbbbbbbbbbbbbbbbbbbbbbbbbkbbbbcbbbbbbbbebbbcbbbdbbbbbb",
       "bbbbbbbbbbbbbbfbfbbbbbbbbbbbbbbbebbbcdbfbbbbbbbybBHAhBaBUzBoFgBkGalbpbhbcCQcBzGbwEGoBg",
       "BGJwBgBMMqBaBaBaBaBaBabbccbcccebiBaBaBacbecibhBbcbebfbbdhBbBaBaBaBaBaBaBaBaBaBaBaBezBh",
       "zBhzBhzBhzBhbGNlBiDBiBagBagBa"]),
    (["variationselector", "vs"],
      ["JCtdbbDJCaqBWNKyJg"]),
    (["space", "whitespace", "wspace"],
      ["jfsbDwbBabIHjbDPnlBdcfbBvbFXwb"]),
    (["xidc", "xidcontinue"],
      ["BwkhBaebbBaBvbkbbbcbfxbBfbRqemofhbbbrEnbcddbbgfbbbubDfbFjbfcGkbBmcbgBpiBtbbbcbcbbiBbee",
       "BdlfCweDybickbtcbqChcDxoCcebcbcBusBcelfybgjCwbEzckbtbicccwbhbbdecjccceibecbfcmkbbbcdbg",
       "eccwbhbcbcbccbbfeccddbhebbhqldbjbdbwbhbcbfckbdbdcbpeckjhbdbicccwbhbcbfcjcccdhdecbfckbb",
       "qcbgddbedcbbbcdcdddmefddbecbgbokqnbdbxbqcjbdbehcbdcbceckqebibdbxbkbfcjbdbehcgcbeckbdmn",
       "bdbBzbdbffehfckkgbdbsdybjbbchdbegbbbigkccnCgfpbkBncbbbfbybbbxcfbbbhbkceBgbxcgklbbbbbek",
       "bBkeubsbBkjbCfCwgDacBmbbfbcBrbMvbechbbbecBpbecBhbechbbbecpbCfbecCpcdjjoqqDicgdXwcrbBaf",
       "CxdlhwjwlumnbdbcmDgdbecckBhdblgDlhBrfCskBfbmemkBocflBseBaglBlBceClbBdclgknbiobqBxCzdkr",
       "jmEmmCeikdBxclfBrcdqdbBnfUocgcBmcgcibbbbbbbBfcCbbhbbddbhdecgenfdbhCoctbBcbnbqnBznebdmr",
       "bebckbbcggbbbbbbqceffebrBpDZbIvgjmBmbbfbcCehbpyjhbhbhbhbhbhbhbhbBgTxdzpbfcfeDicccdbDmb",
       "efBrbDqrBgBwqTsJToCmBGUfCpBucKjdBcuBwekbElBljcDzcCpccbbbivCcebtCamCskkgydbbBxcBkmBddCn",
       "olgBfbCdjockgxdCvydcqcfkgcgcgjhbhbBrbogEtbcckgQNsmxeBxMNcOccEcBmhmffmbnbfbbbcbcbEeBhFj",
       "gIksCmcCcBokgqqqdcydBhbbbdbbbbbbbbEwtkhBaebbBalDldgcgcgcdBjmbBabtbcbpcoBiEtCrCbFgbFaBd",
       "dBxpbBfBgnBefBrfBecBkeibfBqGcckgBkeBkeBoiCamlbpbhbcblbpbhbcCpLzjwkiygbBqbjCrgcbbBsbcdb",
       "cxkxjBfCntbckwkBaCsCegcCmebcfibdbBdcdebBgBddBdBjibBezCckwktnsEgCvCdBznBznBoikwwkwJqBqb",
       "cdcCxBgkbiBhBfwBqvBbxjCtBfqjCihbnzhkgCbbkeeiBkcbjCreebnbbBjsbBlgeCkhbbbebpbkhChfkgebic",
       "ccwbhbcbfbkcccdcbgbfhchdfFjCxfkeeBeCsbbikGkCccjxgBiCndblkBmCfhkCcBbcpekghHdChDxCwvicbc",
       "ibcbBebccjmkCsicBucibcBbClibiCwdbsCvKdjbBtbjpkyBecwboCvhbcbBsdbbcbjikggbcbBlbcbghkLyxj",
       "rbBpdfnkDibDbBJmDyEhrHoDXkDtpBPgqwFYgWlMUbVxhBfbkgDbbkgBecflCdjemkjvftBAmCmEyCxeCfhrCm",
       "cbclcoJCaiBVqBqjNFrebhbcbLfpbBddcboeiPgDKuEdfndjhkdcGYzBucxUwfdgiichBeeFsdRbDhbCtbccbc",
       "ccebmbbbhbCnbecibhbBcbebfbbdhbNcczbzbBfbzbBfbzbBfbzbBfbzbicByTsCdeByibobwfbpBQmBfggIfh",
       "brchbcbffCkBhbEiBtdockebMjBfrCgScBqBCohbebcbpbHplhBpCyekBTuebBbbcbbcbbkbebbbbgbebbbbbb",
       "dbcbbcbbbbbbbbbbcbbcebhbebebbbkbrfdbfbrFAakBNqCLFcBgGDugIocINqoLBlEPjUwCFyHHzfGFgBONHg",
       "Jg"]),
    (["xids", "xidstart"],
      ["CnBagBaBvbkbebfxbBfbRqemofhbbbEzfbcddbbgbbdbbbubDfbFjiGkbBmcbgBpCtBbeeBtBrBjcbDvbbpchc",
       "kdcbqbbBeBdDllbyBhjcebfwebjbdbxzhlfybgrBqCgCcdbsbhkpqeicccwbhbbdedbqbncbdockbigeccwbhb",
       "cbcbcBfebbtdqjbdbwbhbcbfdbsbpcxblicccwbhbcbfdbBecbdpbrbbgddbedcbbbcdcdddmwbCaibdbxbqdb",
       "BadcbccBebeibdbxbkbfdbBfcbcpcrjbdbBpcbqbfdidygfsdybjbbchCgBwbbnhCgcbbbfbybbbkbbkbcfbbv",
       "eBgbClibBkBbfElBrubqgeedbdchdenmbrBmbbfbcBrbMvbechbbbecBpbecBhbechbbbecpbCfbecCpBlqqDi",
       "cgdXwcrbBafCxdlhsntosonbdpCaBjbebCpDlhBpbbfCskBfBxBecflBseBaCcxjCbDebDpBvriCcBenckBsBa",
       "BkBpdkBkclfBrcdBpebgbcdbfHkCmKscgcBmcgcibbbbbbbBfcCbbhbbddbhdecgenfdbhEmbnbqnDxbebckbb",
       "cggbbbbbbqceffebrBpDZbIvgedcmBmbbfbcCehbqxjhbhbhbhbhbhbhbhVedzjhfcfeDigdbDmbefBrbDqrBg",
       "BwqTsJToCmBGUfCpBucKjdqkcuBvqBfcDcBnjcDzcCpccbbbivqbdbebxBdCaoByCkgdbbclBckxzBdhBvBcbq",
       "fbkkfbBpxdbiuxdbdBybbdccfcbbbydclhdmgcgcgjhbhbBrbogElBdQNsmxeBxMNcOccEcBmhmffbbkbnbfbb",
       "bcbcbEeBhFjgIksCmcCcBokEpbbbdbbbbbbbbEwBkBagBalCecBfdgcgcgcdBjmbBabtbcbpcoBiEtCrCbKhBd",
       "dBxBvBgnBefBmkBecBkeibfBqGcsBkeBkeBoiCamlbpbhbcblbpbhbcCpLzjwkiygbBqbjCrgcbbBsbcdbcxkx",
       "jBfCntbckwkBaCsCegcCmbpebdbBdBqBddBdBjibBcBbCckwktnsEgCvCdBznBznBkBswkwJqBqgcDaBdkbiwB",
       "qsBuvBbxmCbCfccbnBtBgzBaBkBdbcbiBjdbmBwoevbbbBjsbztcClhbbbebpbkhBvBmicccwbhbcbfdbsbmfG",
       "cCbseudBeBwucbbHcBvBpeBkBwubChBrnbCtBbBlhHdBsEmCmBficbcibcbypbbbDqicBnqbbbBcbkBohbvblB",
       "utbsCvKdjbBlrbBxBeEihbcbBmvbzgbcbBgobMptpbbnbBiEubDbBJmDyEhrHoDXkDtpBPgrgFYvWlMUbVxhBf",
       "rDbrBesBwqeBfvftBAmCmEyCxfbConCmcbbBcJCaiBVqBqjNFrebhbcbLfpbBddcboeiPgDKuEdfndjhkIWkDh",
       "bCtbccbcccebmbbbhbCnbecibhbBcbebfbbdhbNcczbzbBfbzbBfbzbBfbzbBfbzbiCSyBfggKbCkFqBtkhqbM",
       "jBesBsSqBcBDchbebcbpbHpChCqhbBUiebBbbcbbcbbkbebbbbgbebbbbbbdbcbbcbbbbbbbbbbcbbcebhbebe",
       "bbbkbrfdbfbrGOaCLFcBgGDugIocINqoLBlEPjUwCFyHHzfGFg"])]

end TraitTable
end Pattern
end LedgerRules
