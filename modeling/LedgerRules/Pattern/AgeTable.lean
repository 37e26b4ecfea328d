/-
# Ages of characters

The version of the standard in which a character was added, oldest first.

A row holds the loose names of a value and its characters.  The characters are
written as alternating gaps and lengths, each a number to base 26 whose last digit
is a small letter and whose digits before it are capitals; a row may take several
lines.

The values of `\p{Age=…}` in the patterns of `regex`.
-/

namespace LedgerRules
namespace Pattern
namespace AgeTable

/-- The characters each version added. -/
def ages : List (List String × List String) :=
  [
    (["1.1", "v11"],
      ["aTieBeCeDlhBvbkwCsBacscebdbfhbbbubBsbhdbbbbbbbbsnmbCobmbBpjCbccccdBcciccCdBmchbBnbbBmk",
       "bjmBbffxbobdbbBaftnocCucfbpbBeckTzdbCbcscfdzqdbicccwbhbbdecbbhcccdjbecbfcvhbcgeccwbhbc",
       "bcbccbbfeccdlebbhpmdbhbbbdbwbhbcbfckbdbdcbpbfkrdbicccwbhbccecidccdicecbdelrcbgddbedcbb",
       "bcdcdddibdefddbejbpmodbibdbxbkbfehbdbehcjcekscbibdbxbkbfehbdbehchbbcekscbibdbxbqegcdbe",
       "jbicekFpCgeBdBlcbbccbbcbgebhbdbbbbccbnbdcfbbbgckccRiBmkBnebeDmfCqfDeEOkFzfDmgwcgcBmcgc",
       "ibbbbbbbBfcCbbpbocgbtcdbjbBvbxBjhdBbrlBlsBeCfBaBwnDnvJiobbErFdBlBblvFjvFukDcqugDiFpebe",
       "cBcbBjbbbedbbhchoBfdyboDDhCehbbDgegcDqgBoeDqbqDsBddBkBcBcdBypmeBvbEpeDvcBfJWbBEXyYJqJX",
       "uIchmfgzbfbbbcbcbEeBhObqCmcCcBomBkemvekbtbeedbbbFfcbbDqcDqdgcgcgcddhbhod"]),
    (["2.0", "v20"],
      ["CCvrbnubDMxCubBhhBbegbbbvdhbbFQnbUhbCATwQNsDoDAuEFBqcDSYocDSYocDSYocDSYocDSYocDSYocDSY",
       "ocDSYocDSYocDSYocDSYocDSYocDSYoHLXi"]),
    (["2.1", "v21"],
      ["MJsbDGOtb"]),
    (["3.0", "v30"],
      ["TieBeicsEnfBxbkfDjjtbEmbdbbbbbbbBebmbCobmbBqcceDocGabHsdDucfbpbBqfbobBedBbCbBxCFhcbsdy",
       "bjbbchdbegbbbisdOjbBrbxdhbbdbpcbBwBibfbcbhdegBaQghbClbbbechbbbecBnbbbecBfbbbechbbbechb",
       "hbxbBfbbbechbBnbtgBcBjDhmYgjBddDdFnDpdkwpbkgDkiBqCWbbygDrdBycDhcCubDzjKjbErbbBeFicRpiB",
       "hbDicPiJwCCeBabDlmIgBamCiddbNpyWmJTeBFEgBSvdscqbmbdbbBGScbBVvd"]),
    (["3.1", "v31"],
      ["BMycDQQcBgBXwBfbemBbGzBmcBmCZDqJmkBndGyVaDhbCtbccbcccebmbbbebcbCnbecibhbBcbebfbbdhbNae",
       "LeeByPDwCLEtBETdUwBPCQtbBeDs"]),
    (["3.2", "v32"],
      ["UybLqbtnEacBcbFrcCfcccccBxqNmcMjbDNhcCHjnbhlxjumnbdbcDIxbgfebhfnbCkcByhDepGmmJioEubBeC",
       "aKyuFvkDkiwcDmmckIooDmBceqJwTsBZndDjcicDqbJgqDdpDdpBRDicqbmbdbBGJaChBJdbdqCbcBsbJbc"]),
    (["4.0", "v40"],
      ["UzbsdEpcClrDcifdFvfTwejjCmdFtcpbBtdBddQubHcbCpbbbFgbDgdnbCpbChbEziHlcEFnbskKcBddmemebd",
       "BqcfEdBgBDoEeBCpcIwbZjcLqbKqcEmiocBRaoCRncBxbBrcDaeGleDvcBfbJToCmCOQvbCvcQxmbBabtbcbpc",
       "oBiEtfdeBtdjWeBebbFecBmDcckBGwgcbbBsbcdbcbCYUiDjNybBTKDaJg"]),
    (["4.1", "v41"],
      ["VvlKsfGdeJmcGobBidCpbsbCggJhBeUhbDcbStbBvbBMncLjcbbKgbClbClbBnbBfbBfbBfbpbBnbxcBfBaCGc",
       "BqgBagkecBgBcccBGmDkZhcbhBxfBdeCbbDcbpbYulWabDxcslfqKkhBGhgJcBvbBvBhEdoBtkCcjbqxjhbhbh",
       "bhbhbhbhbhBhyecBJuqGsbBPItwCToxIzBsBFEaEcBFqkBFaCxUnBkeoCIsebcfibdbBbedejijCXPvCsBRac"]),
    (["5.0", "v50"],
      ["WgoLndMzbBqgqeGkbTxChOucbcBHicncFIjCyeBtWlhBzcBCueDpcCbbXbmBBmbKqeBGjhfeMenheBULjefcLa",
       "CeBKOmBafbIRgBHvFpDvneCOGisBQuc"]),
    (["5.1", "v51"],
      ["BHweccDjbHbbFkqIsflfBgfLqsTdcIobBjbHybBdcEebEebBacicuiHhbgbBdcmgdhSxcDtbddCzbfbcbhdegB",
       "aCmecDBebBBxBrdmCsCedpdBzMtBcGzeDmgNsbFjbDqbCbeBYabvkdeKebBfeBFffeBpdfKudbdegNqBgyectB",
       "DkbGguBPPoiBZoLouBgcsiBcFbfcEdEgfEyCrjmBmDglbGeCdjockceBFSudBHpmCaBuFaBddBxCKdBafbCXSj",
       "bLRqBseDw"]),
    (["5.2", "v52"],
      ["BYqcBCcBucpHlbCzbgbBjcEybCFpeHleHgfCqfDegTsbYgjVoCsGycBubCrClbBdclgkgoVaBjKgbBAudFvdCc",
       "bXibBArcBddekbtbbeyDjbBNhfKsbncEdhMhbBOcmBPLsiBXkBwQaDkMakGkBcDwBddDablecEyBceCpyfIqBu",
       "ckQOkxeBxNBbdFGcwbjHecMmBgEyCcdBdcBbfiEyCvUpBfTtCoLVqBPfCTNdlfBfcblbbbcbdbdfibhbzbbccb",
       "kecbEhbpBiojCQLjGDp"]),
    (["6.0", "v60"],
      ["BYscJobCkbSmBccbIlctbgcBbfTmgQrbqbtbWbeCvcBIocDEnCaieTobZoiBcbBFjlBCcbtbbeBdbecBcbBjbb",
       "bedjcCadybobocCDkbobBPodBSEncLncbcokDcbBDugcgcgjhbhBEMtqHRiDaeBeBHEeVxBALbcYMgpcocpbpD",
       "cbblbbbcbdbdfibhbkgjbbccbkecbkCxBabcBvjvcGsBhpgbCsdumBlbfvrpClbbbHabedCksyFrfbqbdbbbbb",
       "bbdbgcebbcebmelBwCsCgEmCUQmIo"]),
    (["6.1", "v61"],
      ["CCtbEmbZrbblCdBbTdbBMrcStbfbBvdEBbdmgJwiBreECqbbbBYqcBzbfbCecHukBRAebCNniBjbJicwbCzcBC",
       "oxBDZzcFUuCegcCRozhkgCbboCiCvhkBTuCeikBHKoCrlBvqrBVWiebBbbcbbcbbkbebbbbgbebbbbbbdbcbbc",
       "bbbbbbbbbbcbbcebhbebebbbkbrfdbfbrCacYicBLseHgbqbdbbbbbbbdbgcebbceb"]),
    (["6.2", "v62"],
      ["MKgb"]),
    (["6.3", "v63"],
      ["CIebJYve"]),
    (["7.0", "v70"],
      ["BIlbQiiDpcEobZrblgCybEqbhbYpbBzbCybExbIukDKriVccPlpVxcJdpBBhdBFqhBDtbBQidkBacBgcBidmbi",
       "XuhBTOvgJmmldccCrbSuBfEveGuBwecBFIvhBHdctbMhBcBjbBwBrOzBoiCalbFoLzjwkiJoClijRwBgBgBnem",
       "FhshemhBVjbIaBnDibmbgulsbBrEkChfkhdbicccwbhbcbfcjcccdjbfhchdfKhCuikGkCccsCcCrlkWkDfmbR",
       "gCfDFiBqHumfbBALfBfbkecDsBecgkCskkbhbvftBEMaEdfndjhkciQKyHpcqCZwbBgwvcUmmjbCsbwmBlbfef",
       "mrhCtbbbHabecClcehBdsbBpbDiCscnBwCskqndeFkDhBrmeCeikgBoiBe"]),
    (["8.0", "v80"],
      ["DHrcBubUnbNobKabCMvbcgEVobHvcDYeeBRWvjCOubJgbBigMmcXmemDcBFFqcEBgtbcffHgccqcBuYqBznBzh",
       "gBVdeofGehbbbebpblDibDbbYjuLeBadpeqERpbIwHoLQqWlCAWllCHzZcpfbpJHddDacDbfBkiJvbCxfJjcFj",
       "bWdjDzfChbCUClINq"]),
    (["9.0", "v90"],
      ["DHuiwpBJpbHybedbhxdFRzjOgbCHbeDXccBTZlbKsbBHQdcBEvBkeBkFAobRhDmbbbbTunCCxjbBtbokBddBgc",
       "wboBFMvbBfJBptBDbBGFlhbrchbcbfDIzCxfkecDDbsFmbBFybBpbLocBhdVagbiibcmbmepBmn"]),
    (["10.0", "v100"],
      ["DEmlPlcJsgTsbCgcFYwbJueBBhbBFzbCZabYcfBCmbBPXnvBLPidIQqCuiCacxbfXhhbcbBsdbbcbjikBFGpbY",
       "HkKzDdPgYAegBRpcBicTzmtbiibczbsnBmgCexDCPdLBl"]),
    (["11.0", "v110"],
      ["CAybBnbDybUfdIdbLmbEpbPhbExbENrbBOhBrcdFRmdwzepWpfBCibBPYhfCYhbicMmcBKVccsbBAtBoikRmBo",
       "iBqOhbEodTgbLebBAxbIvCiXlbBBegbcbBlbcbghkLyzBEApDnJPifBCJuuEwhJLwCqBScbCEzbIleOidBcfce",
       "dbbeylnkhcBkzDso"]),
    (["12.0", "v120"],
      ["EStbUgbcbcbbgebhbhccbnbFKhbFPubCbbWtbBTZmgcfBJrcBMBgxBRkbXcbBCpicBuclGdcBZmBynbHQujWJk",
       "gebBvjDmcJCwgPRcdreSAqBtdockecOeCgfbCJzbBKnCjBPebCBgbBkbIvmLddBvbBxbjbBpgdckgdicdBwDgB",
       "ceedfdng"]),
    (["12.1", "v121"],
      ["TIdb"]),
    (["13.0", "v130"],
      ["DIckZdbQobEubFAjcGJubBAudBHofKPikBFDgnCYseBqcCbbBFveBGQqbEWxBqbdccJuBcOpbFecZabfcBTmhc",
       "bcibcbBebccmjkCKkbBEJrblcKFxSpBqjBLWudDpdCjbBYucBjcQtcDmbDxbecBqcgdBdbGmboepthhjdnhBpF",
       "rbCdBlkCMSjhBHTqHHz"]),
    (["14.0", "v140"],
      ["CIfbWwBfbcgivbslBHpbBgbExbDWhbhbjbJfbBAnoEvbBwcYlbBBhbEIobBvbTflBRAtdCYicocbbbfydBFTdb",
       "OrqExbBucCVglbpbhbcblbpbhbcRjgbBqbjCXxBaIwgCybCGsbFehBHpqHWyDvWDxDbbkBAEwebhbcLceLIbBu",
       "cxjEmVdcEYvBfBHxBfBZdhbebcbpFQkdKmbPcbDebGscBsekeidrdgiihCNCpcGEve"]),
    (["15.0", "v150"],
      ["EXnbSgbDTAkdBFzdDIckBNarbBpdBcHXdbjBdBVHkbBibMRauERhgKbCkBhbBPwBqGUcbFvdefDlbZrdpcBkdl",
       "dbbockcmbocCTHobBIWsGFg"])]

end AgeTable
end Pattern
end LedgerRules
