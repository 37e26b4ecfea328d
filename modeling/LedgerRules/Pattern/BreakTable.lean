/-
# Break classes of characters

The classes by which text is cut into graphemes, words and sentences.

A row holds the loose names of a value and its characters.  The characters are
written as alternating gaps and lengths, each a number to base 26 whose last digit
is a small letter and whose digits before it are capitals; a row may take several
lines.

The values of `\p{gcb=…}`, `\p{wb=…}` and `\p{sb=…}` in the patterns of `regex`.
-/

namespace LedgerRules
namespace Pattern
namespace BreakTable

/-- The classes of grapheme breaks. -/
def graphemes : List (List String × List String) :=
  [
    (["cn", "control"],
      ["akbcbsDrBhnbCBmbGUrbDAqbccyhBxqDGHjbJgmTUaqBZQueHWxiBTKZlBgDsEyJgFIm"]),
    (["cr"],
      ["nb"]),
    (["ex", "extend"],
      ["BDoEiKphKdBtbbbcbcbbCulBwvqbDxhcgccbeBjbBeBbDnlCgjjbyebjbdbfBrdCiiBqybBgCdbbbeiebdhkcB",
       "dbCgbbbceibjbkcBabccCfbececcddbBecdblcCfbefbcebucwgbbCgbbcbeibhdkcBebChbbbmbjbBobdbCdb",
       "bdfdbehclcBdbCgbcbcbdbfchclcBccCfcbbceibjbkcBdbCubebcdbbibDdbchmiDubcjlhCvcBbbbbbbCdob",
       "fbcflbBkjbDyebgbccczcedqenbccgbpbBBbdBKkdBdcBecBecCmcbhibcljbBtdbbEncBibEodecjbgdIlccb",
       "CgbbhbbbbcigkcbBwBfBxeBwhbbfbBojmcBgeccbdCebbcdbbdCgiccFwdbnbhebgbdcHqCmUebHnBhEOcdFlb",
       "DsBgVigEbcBSQeebkBgcDccKmbdbebzcfbFvcBasnbBmizlBudBwbceccBnbCpgccccmbibBvbBzbbdccfcbbB",
       "qcibJebcbebBDZsbBCjqqqOccXhbIsbFtfCMgdbcfeBodebGjcWbeOxcDcdCslBxeEtbCcpBpbcckdBxecchbC",
       "jdBkfbiCkbmcCajkecbDrdcbbcgbcbGbbdivcCfcbbbbwbohdfHnicdbbxbDdbcgbbcbbcbcJbbcegcbcBbcDh",
       "icbbcEcbbbcgbbDxdcebfJzjbcJlbkcbbebFoeccebBgkBogceibjgcdBunbcPqhbgbbDewchbcbcEsgdbbcbh",
       "bbCucdbbbNjclcCaffbbbHYrbgpURqfChhBOibCleDdbBDBkcGYzBucxUwbbdefiichBeeFsdCYdCdeByibobw",
       "fbpCAihbrchbcbfDwbGehOlbCjeToeBMehEfhEBgfBSXYuDsEyJg"]),
    (["l"],
      ["GLkDsCFOqBd"]),
    (["lf"],
      ["kb"]),
    (["lv"],
      ["CNDobBbbBbbBbbBbbBbbBbbBbbBbbBbbBbbBbbBbbBbbBbbBbbBbbBbbBbbBbbBbbBbbBbbBbbBbbBbbBbbBbb",
       "BbbBbbBbbBbbBbbBbbBbbBbbBbbBbbBbbBbbBbbBbbBbbBbbBbbBbbBbbBbbBbbBbbBbbBbbBbbBbbBbbBbbBb",
       "bBbbBbbBbbBbbBbbBbbBbbBbbBbbBbbBbbBbbBbbBbbBbbBbbBbbBbbBbbBbbBbbBbbBbbBbbBbbBbbBbbBbbB",
       "bbBbbBbbBbbBbbBbbBbbBbbBbbBbbBbbBbbBbbBbbBbbBbbBbbBbbBbbBbbBbbBbbBbbBbbBbbBbbBbbBbbBbb",
       "BbbBbbBbbBbbBbbBbbBbbBbbBbbBbbBbbBbbBbbBbbBbbBbbBbbBbbBbbBbbBbbBbbBbbBbbBbbBbbBbbBbbBb",
       "bBbbBbbBbbBbbBbbBbbBbbBbbBbbBbbBbbBbbBbbBbbBbbBbbBbbBbbBbbBbbBbbBbbBbbBbbBbbBbbBbbBbbB",
       "bbBbbBbbBbbBbbBbbBbbBbbBbbBbbBbbBbbBbbBbbBbbBbbBbbBbbBbbBbbBbbBbbBbbBbbBbbBbbBbbBbbBbb",
       "BbbBbbBbbBbbBbbBbbBbbBbbBbbBbbBbbBbbBbbBbbBbbBbbBbbBbbBbbBbbBbbBbbBbbBbbBbbBbbBbbBbbBb",
       "bBbbBbbBbbBbbBbbBbbBbbBbbBbbBbbBbbBbbBbbBbbBbbBbbBbbBbbBbbBbbBbbBbbBbbBbbBbbBbbBbbBbbB",
       "bbBbbBbbBbbBbbBbbBbbBbbBbbBbbBbbBbbBbbBbbBbbBbbBbbBbbBbbBbbBbbBbbBbbBbbBbbBbbBbbBbbBbb",
       "BbbBbbBbbBbbBbbBbbBbbBbbBbbBbbBbbBbbBbbBbbBbbBbbBbbBbbBbbBbbBbbBbbBbbBbbBbbBbbBbbBbbBb",
       "bBbbBbbBbbBbbBbbBbbBbbBbbBbbBbbBbbBbbBbbBbbBbbBbbBbbBbbBbbBbbBbbBbbBbbBbbBbbBbbBbbBbbB",
       "bbBbbBbbBbbBbbBbbBbbBbbBbbBbbBbbBbbBbbBbbBbbBbbBbbBbbBbbBbbBbbBbbBbbBbbBbbBbbBbbBbbBbb",
       "BbbBbbBbbBbbBbbBbbBbbBbbBbbBbbBbbBbbBbbBbbBbbBbbBbbBbbBbbBbbBbbBbbBbbBbbBbbBbbBbb"]),
    (["lvt"],
      ["CNDpBbbBbbBbbBbbBbbBbbBbbBbbBbbBbbBbbBbbBbbBbbBbbBbbBbbBbbBbbBbbBbbBbbBbbBbbBbbBbbBbbB",
       "bbBbbBbbBbbBbbBbbBbbBbbBbbBbbBbbBbbBbbBbbBbbBbbBbbBbbBbbBbbBbbBbbBbbBbbBbbBbbBbbBbbBbb",
       "BbbBbbBbbBbbBbbBbbBbbBbbBbbBbbBbbBbbBbbBbbBbbBbbBbbBbbBbbBbbBbbBbbBbbBbbBbbBbbBbbBbbBb",
       "bBbbBbbBbbBbbBbbBbbBbbBbbBbbBbbBbbBbbBbbBbbBbbBbbBbbBbbBbbBbbBbbBbbBbbBbbBbbBbbBbbBbbB",
       "bbBbbBbbBbbBbbBbbBbbBbbBbbBbbBbbBbbBbbBbbBbbBbbBbbBbbBbbBbbBbbBbbBbbBbbBbbBbbBbbBbbBbb",
       "BbbBbbBbbBbbBbbBbbBbbBbbBbbBbbBbbBbbBbbBbbBbbBbbBbbBbbBbbBbbBbbBbbBbbBbbBbbBbbBbbBbbBb",
       "bBbbBbbBbbBbbBbbBbbBbbBbbBbbBbbBbbBbbBbbBbbBbbBbbBbbBbbBbbBbbBbbBbbBbbBbbBbbBbbBbbBbbB",
       "bbBbbBbbBbbBbbBbbBbbBbbBbbBbbBbbBbbBbbBbbBbbBbbBbbBbbBbbBbbBbbBbbBbbBbbBbbBbbBbbBbbBbb",
       "BbbBbbBbbBbbBbbBbbBbbBbbBbbBbbBbbBbbBbbBbbBbbBbbBbbBbbBbbBbbBbbBbbBbbBbbBbbBbbBbbBbbBb",
       "bBbbBbbBbbBbbBbbBbbBbbBbbBbbBbbBbbBbbBbbBbbBbbBbbBbbBbbBbbBbbBbbBbbBbbBbbBbbBbbBbbBbbB",
       "bbBbbBbbBbbBbbBbbBbbBbbBbbBbbBbbBbbBbbBbbBbbBbbBbbBbbBbbBbbBbbBbbBbbBbbBbbBbbBbbBbbBbb",
       "BbbBbbBbbBbbBbbBbbBbbBbbBbbBbbBbbBbbBbbBbbBbbBbbBbbBbbBbbBbbBbbBbbBbbBbbBbbBbbBbbBbbBb",
       "bBbbBbbBbbBbbBbbBbbBbbBbbBbbBbbBbbBbbBbbBbbBbbBbbBbbBbbBbbBbbBbbBbbBbbBbbBbbBbbBbbBbbB",
       "bbBbbBbbBbbBbbBbbBbbBbbBbbBbbBbbBbbBbbBbbBbbBbbBbbBbbBbbBbbBbbBbbBbbBbbBbbBbbBbbBb"]),
    (["pp", "prepend"],
      ["CHcgIhbBxbOucDcbBRnbDUGkbpbJkcCVrbbbJobCvgBAybRbb"]),
    (["regionalindicator", "ri"],
      ["HGOkBa"]),
    (["sm", "spacingmark"],
      ["DKtbCdbcdiebcBycChcgcccCcbCgdCobCgdibbcCbcCibgcccEkbbcddbdCadCjeCjcCgbbcbcccbcBnbocChc",
       "fdbdCbcCycghtcClbExbFicClbGvbjczcBsbCMqbBebEzbhibcNiecdecbgIqcCgbbbvgFpbCcbbfbcCjbBebe",
       "ccbCibcdbbdcBwiicGpbvbCAShccbDkcByqFmcBvbBwceccdEgcccybGbbccfbJdcbcbcbbBLXjbbbExbBtdec",
       "ElbycChbBwdjcnbDpddcbbGodBfcChbbecccducIbdicdbEdcgbbcbbcbJecgecbEjdicbbEfbbcgbEhbKbdjb",
       "JofbcebcbbbFmdieebDgbBdcCkbPrbobEcbhbcbIffecbbNmcmbBwcicbbBEIhCdEacBKXobgb"]),
    (["t"],
      ["GRwDkCWXnBx"]),
    (["v"],
      ["GPcCuCWZwx"]),
    (["zwj"],
      ["MDpb"])]

/-- The classes of word breaks. -/
def words : List (List String × List String) :=
  [
    (["cr"],
      ["nb"]),
    (["doublequote", "dq"],
      ["Bib"]),
    (["ex", "extendnumlet"],
      ["DrbMBfbpctbDGAocydJfb"]),
    (["extend"],
      ["BDoEiKphKdBtbbbcbcbbCulBwvqbDxhcgccbeBjbBeBbDnlCgjjbyebjbdbfBrdCiiBqybBhCcdbsbhkcBddCe",
       "bbhcccdjbkcBabcdCebbfeccddbBecdbldCebbibdbducwgbdCebbhcccdhdkcBebChfddbejbBofCdbbhbdbe",
       "hclcBddCebbhbdbehclcpbmeCdcbhbdbejbkcBddCsbegbbbiscCjbchmiDubcjlhCvcBbbbbbbecBxubcflbB",
       "kjbDwuxeedbdchdenmbbkeBBbdBKkeBcdBdcBecCmBgjbBtdbbEncBibEomemIlfCfkbBdcbBwBfBxfBvrBmjm",
       "dBenCeoBwuFwdbvebgbcdHqCmUebHnBhEOcdFlbDsBgVigEbcBSQeebkBgcDccKmbdbebxfebDfcBysBasnbBm",
       "iznBseBvoBkbCpombicBtdBybbdccfcbbBpffcJcibcBDZsbBCjqqqOccXhbIsbFtfCMgdbcfeBodebGjcWbeO",
       "xcDcdCslBxeEsdCbpBpbcckeBtlhbCjdBkoqcBsbmdBwoiebcDomgbcbGbmveCdcbhcccdjbkcchdfHksxbDdu",
       "JbhcjBbcDerEcnDxpJwpJlgbccebbbcFlhchdbBckBohbeibjlBuqPpibiDewboEsgdbbcbhbbCofbcbfNjejc",
       "bbBwhdfHYrbgpURqfChhBOibbCdheDdblcBDAxcGYzBucxUwfdgiichBeeFsdCYdCdeByibobwfbpCAihbrchb",
       "cbfDwbGehOlbCjeToeBMehEfhEBgfBSXYuDsEyJg"]),
    (["fo", "format"],
      ["GrbCAkgwbHkbBxbOucDcbFTjbDAtcBafBxfbkDGHjbJpdGIzbpbNKkqBZQueHWxiBTKZmb"]),
    (["hebrewletter", "hl"],
      ["CFgBbeeDOVybbkbnbfbbbcbcbk"]),
    (["ka", "katakana"],
      ["SGnfDxcdDnbeJgqIaBvbDkCZHeCeCOUcebhbcbbLbdByboe"]),
    (["aletter", "le"],
      ["CnBagBaBvbkbebfxbBfbSmgBiEifbccebbgbbdbbbubDfbFjiGkbBmcebbbBpbbEabBsBrBjcbDvbbpchckdcb",
       "qbbBeBdDllbyBhjcebfwebjbdbxzhlfybgrBqCgCcdbsbhkpqeicccwbhbbdedbqbncbdockbigeccwbhbcbcb",
       "cBfebbtdqjbdbwbhbcbfdbsbpcxblicccwbhbcbfdbBecbdpbrbbgddbedcbbbcdcdddmwbCaibdbxbqdbBadc",
       "bccBebeibdbxbkbfdbBfcbcpcrjbdbBpcbqbfdidygfsdybjbbchMbbClibBkBbfKpBmbbfbcBrbMvbechbbbe",
       "cBpbecBhbechbbbecpbCfbecCpBlqqDicgdXwcrbBafCxdlhsntosonbdGtDlhfcBibbfCskBfIrxJeBvriCcB",
       "enckBsBaBkBpdkBkcjhBrcdBpebgbcdbfHkCmKscgcBmcgcibbbbbbbBfcCbbhbbddbhdecgenfdbhEmbnbqnD",
       "xbebckbbdfgbbbbbbeblceffebrBpBFhCaCRuIvgedcmBmbbfbcCehbqxjhbhbhbhbhbhbhbhDcbSbbCbcHsBr",
       "bDqrBgBPToBSvCpBucKjdqkcuBvqBfcDcyHnfcbbbfyqbdbebxBdCaoByCkgdbbclBckxzBdhBvBcbBwBpxdbi",
       "FslhdmgcgcgjhbhbCggElBdQNsmxeBxNGuhmfCeDuBhNzsCmcCcBomEmfbFfBkBagBaCrBfdgcgcgcdBjmbBab",
       "tbcbpcoBiEtCrCbKhBddBxBvBgnBefBmkBecBkeibfBqGcsBkeBkeBoiCamlbpbhbcblbpbhbcCpLzjwkiygbB",
       "qbjCrgcbbBsbcdbcxkxjBfCntbckwkBaCsCegcCmbpebdbBdBqBddBdBjibBcBbCckwktnsEgCvCdBznBznBkN",
       "kBqgcDaBdkbiwBqsBuvBbxmCbCfccbnBtBgzBaBkBdbcbiBjdbmBwoevbbbBjsbztcClhbbbebpbkhBvBmiccc",
       "wbhbcbfdbsbmfGcCbseudBeBwucbbHcBvBpeBkBwubChBrnbMpBsEmCmBficbcibcbypbbbDqicBnqbbbBcbkB",
       "ohbvblButbsCvKdjbBlrbBxBeEihbcbBmvbzgbcbBgobMptpbbnbBiEubDbBJmDyEhrHoDXkDtpBPgrgFYvWlM",
       "UbVxhBfrDbrBesBwqeBfvftBAmCmEyCxfbConCmcbbBCVkEdfndjhkIWkDhbCtbccbcccebmbbbhbCnbecibhb",
       "BcbebfbbdhbNcczbzbBfbzbBfbzbBfbzbBfbzbiCSyBfggKbCkFqBtkhqbMjBesBsSqBcBDchbebcbpbHpChCq",
       "hbBUiebBbbcbbcbbkbebbbbgbebbbbbbdbcbbcbbbbbbbbbbcbbcebhbebebbbkbrfdbfbrYeBagBagBa"]),
    (["lf"],
      ["kb"]),
    (["mb", "midnumlet"],
      ["BubMCfckbDGDpbGybgb"]),
    (["midletter", "ml"],
      ["CgbEubBBrbSdbFsbJXybDGBbbCnbHob"]),
    (["midnum", "mn"],
      ["BsbobBGcbUcbFacDqbPfbJFfbDFZvbdbChbdbHbbob"]),
    (["newline", "nl"],
      ["lcEqbLZmc"]),
    (["nu", "numeric"],
      ["BwkCIokbbFckHqkPwkEokEokEokEokEokEokEokEokEokDskEokCskKskCskCTqkBmkLokEykGkkgkHakDikFe",
       "kgkCAEokBAckBmkHqkwkDikPqkBFMckCCkkDFykBFgkEykCikFokKskNekEokOkkDykDykQgkDykBDekJmkCsk",
       "QgkBCKskDikFekBPBwByDNckQgkTikBQskHBak"]),
    (["regionalindicator", "ri"],
      ["HGOkBa"]),
    (["singlequote", "sq"],
      ["Bnb"]),
    (["wsegspace"],
      ["BgbIMhbDPnhbdDgbFXwb"]),
    (["zwj"],
      ["MDpb"])]

/-- The classes of sentence breaks. -/
def sentences : List (List String × List String) :=
  [
    (["at", "aterm"],
      ["BubMCrbDGDpbHfb"]),
    (["cl", "close"],
      ["BibedBxbbbBdbbbBtbpbFMseCUncDPjizckcCccocYjeBdcBPgghoDbcBfkPnwCleBgcBNmoocckybsiQlkcib",
       "dCZRqcIhcBcqccqgGncBxbbbBdbbbbcbcDPOsd"]),
    (["cr"],
      ["nb"]),
    (["ex", "extend"],
      ["BDoEiKphKdBtbbbcbcbbCulBwvqbDxhcgccbeBjbBeBbDnlCgjjbyebjbdbfBrdCiiBqybBhCcdbsbhkcBddCe",
       "bbhcccdjbkcBabcdCebbfeccddbBecdbldCebbibdbducwgbdCebbhcccdhdkcBebChfddbejbBofCdbbhbdbe",
       "hclcBddCebbhbdbehclcpbmeCdcbhbdbejbkcBddCsbegbbbiscCjbchmiDubcjlhCvcBbbbbbbecBxubcflbB",
       "kjbDwuxeedbdchdenmbbkeBBbdBKkeBcdBdcBecCmBgjbBtdbbEncBibEomemIlfCfkbBdcbBwBfBxfBvrBmjm",
       "dBenCeoBwuFwdbvebgbcdHqCmUecHmBhEOcdFlbDsBgVigEbcBSQeebkBgcDccKmbdbebxfebDfcBysBasnbBm",
       "iznBseBvoBkbCpombicBtdBybbdccfcbbBpffcJcibcBDZsbBCjqqqOccXhbIsbFtfCMgdbcfeBodebGjcWbeO",
       "xcDcdCslBxeEsdCbpBpbcckeBtlhbCjdBkoqcBsbmdBwoiebcDomgbcbGbmveCdcbhcccdjbkcchdfHksxbDdu",
       "JbhcjBbcDerEcnDxpJwpJlgbccebbbcFlhchdbBckBohbeibjlBuqPpibiDewboEsgdbbcbhbbCofbcbfNjejc",
       "bbBwhdfHYrbgpURqfChhBOibbCdheDdblcBDAxcGYzBucxUwfdgiichBeeFsdCYdCdeByibobwfbpCAihbrchb",
       "cbfDwbGehOlbCjeToeBMehEfhBTCAfDsEyJg"]),
    (["fo", "format"],
      ["GrbCAkgwbHkbBxbOucDcbFTjbDAqbccBafBxfbkDGHjbJpdGIzbpbNKkqBZQueHWxiBTKZmb"]),
    (["le", "oletter"],
      ["RbbeeIabBkhgmBabbbFdbSqbEoBbefBsBrBjcbDvbbpchckdcbqbbBeBdDllbyBhjcebfwebjbdbxzhlfybgrB",
       "qCgCcdbsbhkpqeicccwbhbbdedbqbncbdockbigeccwbhbcbcbcBfebbtdqjbdbwbhbcbfdbsbpcxblicccwbh",
       "bcbfdbBecbdpbrbbgddbedcbbbcdcdddmwbCaibdbxbqdbBadcbccBebeibdbxbkbfdbBfcbcpcrjbdbBpcbqb",
       "fdidygfsdybjbbchCgBwbcmhCgcbbbfbybbbkbcjbcfbbveBgbClibBkBbfElBrubqgeedbdchdenmbCnBrcMu",
       "bechbbbecBpbecBhbechbbbecpbCfbecCpBlqEjXwcrbBafCxdlhsntosonbdpCaBjbebCpDlhfcBibbfCskBf",
       "BxBecflBseBaCcxjCbDebDpBvriCcBenckBsBaBkBpdkBksBrcdBpebgbcdbBPqeCtdceEKtCehbqxjhbhbhbh",
       "bhbhbhbhDcbSbdzjhfcfeDigdbDmbefBrbDqrBgBwqTsJToCmBGUfCpBucKjdqkcCobqbBgDcBnjEabgbDzbdh",
       "bdbebxBdCaoByCkgdbbclBckxzBdhBvBcbqfbkkfbBpxdbiuxdbdBybbdccfcbbbydclhdmgcgcgjhbhFpBjBd",
       "QNsmxeBxMNcOccEcCpbbkbnbfbbbcbcbEeBhNzsCmcCcBomEmfbFfEbCecBfdgcgcgcdBjmbBabtbcbpcoBiEt",
       "CrCbKhBddBxBvBgnBefBmkBecBkeibfEsDaDuBoiCaGaLzjwkizcEvgcbbBsbcdbcxkxjBfCntbckwkBaCsCeg",
       "cCmbpebdbBdBqBddBdBjibBcBbCckwktnsEgCvHbBkNkBqgcDaBdkbiwBqsBuvBbxmCbCfccbnBtBgzBaBkBdb",
       "cbiBjdbmBwoevbbbBjsbztcClhbbbebpbkhBvBmicccwbhbcbfdbsbmfGcCbseudBeBwucbbHcBvBpeBkBwubC",
       "hBrnbCtBbBlhHdBsIdicbcibcbypbbbDqicBnqbbbBcbkBohbvblButbsCvKdjbBlrbBxBeEihbcbBmvbzgbcb",
       "BgobMptpbbnbBiEubDbBJmDyEhrHoDXkDtpBPgrgFYvWlMUbVxhBfrDbrBesBwqeBfvftBHwCxfbConCmcbbBc",
       "JCaiBVqBqjNFrebhbcbLfpbBddcboeiPgDKuEdfndjhkNBcbThBtkhqbMjBesBsSqBcBDchbebcbpbHpFebBUi",
       "ebBbbcbbcbbkbebbbbgbebbbbbbdbcbbcbbbbbbbbbbcbbcebhbebebbbkbrfdbfbrGOaCLFcBgGDugIocINqo",
       "LBlEPjUwCFyHHzfGFg"]),
    (["lf"],
      ["kb"]),
    (["lo", "lower"],
      ["DtBaBvbkbebBkybibbbbbbbbbbbbbbbbbbbbbbbbbbbbbbbbbbbbbbbbbbbbbbbbbbbbbbbcbbbbbbbbbbbbbb",
       "bcbbbbbbbbbbbbbbbbbbbbbbbbbbbbbbbbbbbbbbbbbbbbbbcbbbbdcbbbcbdcebcbddcbcbbbbbcbbcbbcbdb",
       "bbcccdgbcbcbbbbbbbbbbbbbbbbcbbbbbbbbbbbbbbbbbccbbbdbbbbbbbbbbbbbbbbbbbbbbbbbbbbbbbbbbb",
       "bbbbbbbbbbbbbbbbbbbbbbbhcbccbbebbbbbbbbCrbBkhcBefFkbbbdbcesbBbBjbcddbbbbbbbbbbbbbbbbbb",
       "bbbbbfbbcbccBzBwbbbbbbbbbbbbbbbbbbbbbbbbbbbbbbbbbbjbbbbbbbbbbbbbbbbbbbbbbbbbbbbbbbbbbb",
       "bbbbbbbbbbbbbbbbbbcbbbbbbbbbbbbcbbbbbbbbbbbbbbbbbbbbbbbbbbbbbbbbbbbbbbbbbbbbbbbbbbbbbb",
       "bbbbbbbbbbbbbbbbbbbbbbbbbbbbbbbbbbbbbbbbbbBwBpEItbBDjgDFujEpHkCnbbbbbbbbbbbbbbbbbbbbbb",
       "bbbbbbbbbbbbbbbbbbbbbbbbbbbbbbbbbbbbbbbbbbbbbbbbbbbbbbbbbbbbbbbbbbbbbbbbbbbbbbbbbbbbbb",
       "bbbbbbbbbbbbbbbbbbbbbbbbbbbbbbbbbbbbbbbbjbbbbbbbbbbbbbbbbbbbbbbbbbbbbbbbbbbbbbbbbbbbbb",
       "bbbbbbbbbbbbbbbbbbbbbbbbbbbbbbbbbbbbbbbbbbbbbbbbbbbbjigkiiiigkiiiiociiiiiifbcgbddbciec",
       "ciikdbcErbnbqnEfbdcdbBbbebebccieebBhqebBGlBaCTqBwbbdcbbbbbbebbcbidbbbbbbbbbbbbbbbbbbbb",
       "bbbbbbbbbbbbbbbbbbbbbbbbbbbbbbbbbbbbbbbbbbbbbbbbbbbbbbbbbbbbbbbbbbbbbbbbbbbbbbchbbbebm",
       "BmbbfbBTWdbbbbbbbbbbbbbbbbbbbbbbbbbbbbbbbbbbbbbbbbbbbbbtbbbbbbbbbbbbbbbbbbbbbbbbbbdFdb",
       "bbbbbbbbbbbdbbbbbbbbbbbbbbbbbbbbbbbbbbbbbbbbbbbbbbbbbbbbbbbbbbbbbbbbbbbbbkbbbbcbbbbbbb",
       "bbebbbcbbdbbbbbbbbbbbbbbbbbbbbfbfbbbbbbbbbbbbbbbebbbgbbbbbbbbbydbbbdBFpBrbogDcBEAihmfB",
       "OzBaBVhBoFgBkFzlbpbhbcRjbcdbBqbjBXlBzEMfBgBGJwBgBMMkBaBahbsBaBaBaebbbhblBaBaBaBaBaBaBa",
       "BaBaBaBaBaBaBaBaBaBaBcBczbgBazbgBazbgBazbgBazbgbbCSykbuggKbCkDHsBi"]),
    (["nu", "numeric"],
      ["BwkCIokbcFbkHqkPwkEokEokEokEokEokEokEokEokEokDskEokCskKskCskCTqkBmkLokEykGkkgkHakDikFe",
       "kgkCAEokBAckBmkHqkwkDikPqkBFMckCCkkDFykBFgkEykCikFokKskNekEokOkkDykDykQgkDykBDekJmkCsk",
       "QgkBCKskDikFekBPBwByDNckQgkTikBQskHBak"]),
    (["sc", "scontinue"],
      ["BscmbBYobGscSwbGBxbfbDBecGAubDAAwcbbBdcBdcdbcbkbGmcmbCvb"]),
    (["se", "sep"],
      ["FdbLZmc"]),
    (["sp"],
      ["jbbctbExbIHjbDPnlBkbBvbFXwb"]),
    (["st", "sterm"],
      ["BhbBdbCAbbFrdGybBrdJmbCjbbbdcLhcCPwcBEkbecBDtbHqcHwbfbMccNqeGscccBdcHgcCncBKucjdFGubnb",
       "wcQnbBSHwbKkcItbdbOscDicDrbFwcFrdFocJpbBFFmcGnbBdbCnbEDwcBXdfBseHhcEneExdEzcgbqcDkcbcE",
       "ebQbcOjcfpEbcJpdTxbbbJrcDjcQecBAqcCwcBCMbcFdbCnclbBGtbBDOgbLImb"]),
    (["up", "upper"],
      ["CnBaDxxbhBhbbbbbbbbbbbbbbbbbbbbbbbbbbbbbbbbbbbbbbbbbbbbbbbbbbbbbbbcbbbbbbbbbbbbbbbcbbb",
       "bbbbbbbbbbbbbbbbbbbbbbbbbbbbbbbbbbbbbbbbbbbcbbbbdcbbbcbdcebcbddcbcbbbbbcbbcbbcbdbbbcdb",
       "hcbcbcbbbbbbbbbbbbbbbbcbbbbbbbbbbbbbbbbbccbbbdbbbbbbbbbbbbbbbbbbbbbbbbbbbbbbbbbbbbbbbb",
       "bbbbbbbbbbbbbbbbbbhcbccbbebbbbbbbbLdbbbdbibgbbdbbbcbrbjBjbcddbbbbbbbbbbbbbbbbbbbbbbbfb",
       "cbbccBzBwbbbbbbbbbbbbbbbbbbbbbbbbbbbbbbbbbjbbbbbbbbbbbbbbbbbbbbbbbbbbbbbbbbbbbbbbbbbbb",
       "bbbbbbbbbbbcbbbbbbbbbbbbcbbbbbbbbbbbbbbbbbbbbbbbbbbbbbbbbbbbbbbbbbbbbbbbbbbbbbbbbbbbbb",
       "bbbbbbbbbbbbbbbbbbbbbbbbbbbbbbbbbbcBmEHdBmbbfbBBuDiDUwbbbbbbbbbbbbbbbbbbbbbbbbbbbbbbbb",
       "bbbbbbbbbbbbbbbbbbbbbbbbbbbbbbbbbbbbbbbbbbbbbbbbbbbbbbbbbbbbbbbbbbbbbbbbbbbbbbbbbbbbbb",
       "bbbbbbbbbbbbbbbbbbbbbbbbbbbbbbbjbbbbbbbbbbbbbbbbbbbbbbbbbbbbbbbbbbbbbbbbbbbbbbbbbbbbbb",
       "bbbbbbbbbbbbbbbbbbbbbbbbbbbbbbbbbbbbbbbbbbbjiigkiiiiglbbbbbbbiiyiiiiiiflflemflfKbbebdd",
       "cdcbdfgbbbbbbecekcfbBaqtbBFmBaCSuBwBwbbdcbbbbbbebbcbidbbbbbbbbbbbbbbbbbbbbbbbbbbbbbbbb",
       "bbbbbbbbbbbbbbbbbbbbbbbbbbbbbbbbbbbbbbbbbbbbbbbbbbbbbbbbbbbbbbbbbbibbbebBTYjbbbbbbbbbb",
       "bbbbbbbbbbbbbbbbbbbbbbbbbbbbbbbbbbbtbbbbbbbbbbbbbbbbbbbbbbbbbbbFfbbbbbbbbbbbbbdbbbbbbb",
       "bbbbbbbbbbbbbbbbbbbbbbbbbbbbbbbbbbbbbbbbbbbbbbbbbbbbbbkbbbbcbbbbbbbbebbbcbbbdbbbbbbbbb",
       "bbbbbbbbbbbfbfbbbbbbbbbbbbbbbebbgbfbbbBcbBHAhBaBUzBoFgBkGalbpbhbcCQcBzENlBgBGJwBgBMMqB",
       "aBaBaBaBaBabbccbcccebiBaBaBacbecibhBbcbebfbbdhBbBaBaBaBaBaBaBaBaBaBaBaBezBhzBhzBhzBhzB",
       "hbGNlBiDBiBagBagBa"])]

end BreakTable
end Pattern
end LedgerRules
