/-!
# Ages

The characters that each version of Unicode added, from the first version to 16.0, as runs outside and
inside.
-/
namespace RecordService.Regex.Property

/-- Versions as numbers. -/
def ageAliases : List (String × String) := [
  ("1.1", "v11"), ("10.0", "v100"), ("11.0", "v110"), ("12.0", "v120"), ("12.1", "v121"),
  ("13.0", "v130"), ("14.0", "v140"), ("15.0", "v150"), ("15.1", "v151"), ("16.0", "v160"),
  ("2.0", "v20"), ("2.1", "v21"), ("3.0", "v30"), ("3.1", "v31"), ("3.2", "v32"), ("4.0", "v40"),
  ("4.1", "v41"), ("5.0", "v50"), ("5.1", "v51"), ("5.2", "v52"), ("6.0", "v60"), ("6.1", "v61"),
  ("6.2", "v62"), ("6.3", "v63"), ("7.0", "v70"), ("8.0", "v80"), ("9.0", "v90")]

def ageRuns : List (String × List String) := [
   ("v11", ["aTIeBEceDLhBVbKwCSbaCsCeBdBfHbBbUbBSbHdBbBbBbBbSnMbCObMbBPjCBcCcCdBCcIcCcdBMcHbBNb",
     "BbmKbJmBBfFxBoBdBbBAfTnOcCUcFbPbBEcKtzDbCBcScFdZqDbIcCcWbHbBdEcBbHcCcDjBeCbFcVhBcGeCcWbHb",
     "CbCbCcBbFeCcDlEbBhPmDbHbBbDbWbHbCbFcKbDbDcBpBfKrDbIcCcWbHbCcEcIdCcDiCeCbDeLrCbGdDbEdCbBbC",
     "dCdDdIbDeFdDbEjBpMoDbIbDbXbKbFeHbDbEhCjCeKsCbIbDbXbKbFeHbDbEhChBbCeKsCbIbDbXbQeGcDbEjBiCe",
     "KfpCGeBDblCbBcCbBcBgEbHbDbBbBcCbNbDcFbBbGcKcCriBMkBNeBeDMfCQfDEeokFZfDMgWcGcBMcGcIbBbBbBb",
     "BFcCBbPbOcGbTcDbJbBVbXbjHdBBrLblSbeCFbaBWnDNvJIoBbERfdBLbbLvFJvFUkDCqUgDIfpEbEcBCbBJbBbEd",
     "BbHcHoBFdYbOddhCEhBbDGeGcDQgBOeDQbQdsBDdBKbcBCdBYpMeBVbEPeDVcBFjwbBEXYyjqJXUicHmFgZbFbBbC",
     "bCbEEbhOBqCMcCCboMbkEmVeKbTbEeDbBbFFcBbDQcDQdGcGcGcDdHbHoD"]),
   ("v20", ["ccvRbNuBdmxCUbBHhBBeGbBbVdHbBfqnBuhBcatwQNSeifyCdsyoCdsyoCdsyoCdsyoCdsyoCdsyoCdsyo",
     "CdsyoCdsyoCdsyoCdsyoCdsyoCdsyoHLXI"]),
   ("v21", ["mjsBdgotB"]),
   ("v30", ["tiEbeIcSenFbxBkFdjJtBemBdBbBbBbBbeBmBcoBmBbqCcEdoCgaBhsDduCfBpBbqFbObBEdBBcbBXcfhC",
     "bSdYbJbBcHdBeGbBbIsDojBbrBxDhBbDbPcBbwBIbFbCbHdEgBAqgHbCLbBbEcHbBbEcBNbBbEcBFbBbEcHbBbEcH",
     "bHbXbBFbBbEcHbBNbTgBCbjDHmYGjBDdDDfnDPdKwPbKgDKiBQcwbByGdrDbyCdhCcuBdzJkjBerBbBEfiCrpIbhB",
     "diCpiJWcceBAbDLmIGbaMciDdBnpYwmJTEbfegBSVdScQbMbDbBbgscBbvvD"]),
   ("v31", ["bmyCdqqcBGbxwBFbEmBBgzBMcBMczdqJMkBNdGYvaDHbCTbCcBcCcEbMbBbEbCbCNbEcIbHbBCbEbFbBdH",
     "bNAeLEeBYpdwCLETbetdUWbpcqtBbeDS"]),
   ("v32", ["uyBlqBtNeaCbcBfrCcfCcCcCbxQnmCmjBdnhCchjNbHlXjUmNbDbCdixBgFeBhFnBckCbyHdePgmMjiOeu",
     "BbeCAkyUfvKdkIwCdmMcKioOdmBCeQjwTSbznDdjCiCdqBjgQddPddPbrdiCqBmBdBbgjaCHbjdBdQcbCbsBjbC"]),
   ("v40", ["uzBsDepCclRdcIfDfvFtwEjJcmDftCpBbtDbdDquBhcBcpBbBfgBdgDnBcpBchBezIhlCefnBsKkcBDdMe",
     "MeBdBQcFedBGbdoEEbcpCiwBzjClqBkqCemIoCbraOcrnCbxBbrCdaEglEdvCbfBjtoCMcoqvBcvCqxMbBAbTbCbP",
     "cObiETfDeBTdJweBEbBfeCbmDCcKbgwGcBbBSbCdBcBcyuiDJnyBbtkdaJG"]),
   ("v41", ["vvLksFgdEjmCgoBbiDcpBsBcgGjhBEuhBdcBstBbvBbmnCljCbBkgBclBclBbnBbfBbfBbfBpBbnBxCbfB",
     "AcgcBQgBAgKeCbgBCcCbgmDKzhCbHbxFbdEcbBdcBpByuLwaBdxCsLfQkkHbghGjcBVbBVbhEDoBTkCCjBqXjHbHb",
     "HbHbHbHbHbHbhYeCbjuQgsBbpitWctoXizBSbfeaECbfqKbfaCXunBKeOcisEbCfIbDbBBeDeJiJcxpvCSbraC"]),
   ("v50", ["wgOlnDmzBbqGqEgkBtxCHouCbCbhiCnCfijCYeBTwlHbzCbcuEdpCcbBxbMbbmBkqEbgjHfEmeNhEbuljE",
     "fClaCEbkomBAfBirgBHVfpDVnEcogiSbquC"]),
   ("v51", ["bhwEcCdjBhbBfkQisFlFbgFlqStdCioBbjBhyBbdCeeBeeBbaCiCuIhhBgBbdCmGdHsxCdtBdDczBfBcBh",
     "DeGbaCMeCdbeBbbxBRdMcsCEdPdBZmtBCgzEdmGnsBfjBdqBcbEbyaBvKdEkeBbfEbffFeBPdFkuDbDeGnqBGyEcT",
     "bdkBggUbppoIbzoLOuBGcSiBCfbFcEDegFeyCRjMbmDGlBgeCDjOcKcEbfsuDbhpMcaBUfaBDdBXckdBAfBcxsjBl",
     "rqBSeDW"]),
   ("v52", ["byqCbccBUcPhlBczBgBbjCeyBcfpEhlEhgFcqFdeGtsBygJvoCSgyCbuBcrCLbBDcLgKgOvaBJkgBbauDf",
     "vDccBxiBbarCbdDeKbTbBeYdjBbnhFksBnCedHmhBbocMbplsIbxkBWqaDKmaKgkBCdwBDdDAbLeCeyBCeCPyFiqB",
     "UcKqokXeBXnbbDfgcWbJheCmmBGeyCCdBDcBBfIeyCVupBFttCOlvqBPFctndLfBFcBlBbBcBdBdFiBhBzBbCcBkE",
     "cBehBpBIoJcqljGDP"]),
   ("v60", ["bysCjoBckBsmBCcBilCtBgCbbFtmGqrBqBtBwbEcvCbioCdenCAiEtoBzoIbcBbfjLbccBtBbEbdBeCbcB",
     "bjBbBeDjCcaDyBoBoCcdkBoBbpoDbsenClnCbCoKdcBbduGcGcGjHbHbemtQhriDAeBEbheeVXbalbCymgPcOcPbP",
     "dcBbLbBbCbDbDfIbHbKgJbBcCbKeCbKcxBAbCbvJvCgsBHpGbCSdUmBLbFvRpCLbBbHAbEdCKsYfrFbQbDbBbBbBb",
     "DbGcEbBcEbMeLbwCScgEMcuqmIO"]),
   ("v61", ["cctBemBzrBbLcdBBtdBbmrCstBfBbvDebbDmGjwIbrEecqBbBbyqCbzBfBceChuKbraeBcnnIbjBjiCwBc",
     "zCbcoXbdzzCfuuCEgCcroZhKgCBbOciCVhKbtuCEiKbhkoCRlBVqRbvwiEbBBbCbBcBbKbEbBbBgBeBbBbBbDbCbB",
     "cBbBbBbBbBbCbBcEbHbEbEbBbKbRfDbFbRcaCyiCblsEhgBqBdBbBbBbBdBgCeBbCeB"]),
   ("v62", ["mkgB"]),
   ("v63", ["cieBjyvE"]),
   ("v70", ["bilBqiIdpCeoBzrBlGcyBeqBhBypBbzBcyBexBiuKdkrIvcCplPvxCjdPbbhDbfqHbdtBbqiDkBAcBGcBI",
     "dMbIxuHbtovGjmMlDcCcrBsuBFevEguBWeCbfivHbhdCtBmhBCbjBbwBRozBOiCAlBfoLZjWkIjoCLiJrwBGbgBNe",
     "MfhShEmHbvjBiaBNdiBmBgUlSbBRekCHfKhDbIcCcWbHbCbFcJcCcDjBfHcHdFkhCUiKgkCCcSccCRlKwkDFmBrgC",
     "FdfiBQhuMfBbalfBFbKeCdsBEcGkCSkKbHbVfTbemaEDfNdJhKcIqkyHPcQczwBbgWvCumMjBcsBwMblBfEfMrHct",
     "BbBhaBeCclCeHbdSbBPbDIcsCnBWcsKqNdEfkDHbrMeCEiKgBOiBE"]),
   ("v80", ["dhrCbuBunBnoBkaBcmvBcGevoBhvCdyeEbrwvJcouBjgBbiGmmCxmEmDCbffqCebgTbCfFhgCcQcBUyqBZ",
     "nBZhGbvdEoFgeHbBbEbPbLdiBdbByjUleBAdPeQerpBiwHOlqqWLcawlLchzZCpFbPjhdDdaCdbFbkIjvBcxFjjCf",
     "jBwdJdzFchBcuclINQ"]),
   ("v90", ["dhuIwPbjpBhyBeDbHxDfrzJogBchbEdxcCbtzlBksBbhqdCbevBKeBKfaoBrhDMbBbBtuNccxJbBTbOkBD",
     "dBGcWbObfmvBbfJBPtBDBbgflHbRcHbCbFdizCXfKeCddbSfmBbfyBbpBloCbhDvaGbIiBcMbMePbmN"]),
   ("v100", ["demLplCjsGtsBcgCfywBjuEbbhBbfzBczaBycFbcmBbpxnVblpiDiqqCUiCAcXbFxhHbCbBSdBbCbJiKb",
     "fgpByhkKZddPGyaeGbrpCbiCtzMtBiIbCzBsNbmGceXdcpdLBL"]),
   ("v110", ["cayBbnBdyBufDidBlmBepBphBexBenrBbohBRcDfrmDwZePwpFbciBbpyhFcyhBiCmmCbkvcCsBbatBOi",
     "KrmBOiBQohBeoDtgBleBbaxBivCIxlBbbeGbCbBLbCbGhKlyZbeapDNjpiFbcjuUewHjlwCQbscBcezBilEoiDbcF",
     "cEdBbEyLnKhCbkZdsO"]),
   ("v120", ["estBugBcBcBbGeBhBhCcBnBfkhBfpuBcbBwtBbtzmGcFbjrCbmbgXbrkBxcBbcpIcBUcLgdCbzmBYnBhq",
     "uJwjkGeBbvJdmCjcwGprcDrEsaqBTdOcKeCoeCGfBcjzBbknCJbpeBcbgBbkBivMldDbvBbxBjBbpGdCkGdIcDbwD",
     "GbcEeDfDnG"]),
   ("v121", ["tidB"]),
   ("v130", ["dicKzdBqoBeuBfajCgjuBbauDbhoFkpiKbfdgNcysEbqCcbBbfvEbgqqBewxBQbDcCjuBCopBfeCzaBfC",
     "btmHcBcIbCbBEbCcMjKckkBbejrBlCkfxSPbqJblwuDdpDcjBbyuCbjCqtCdmBdxBeCbqCgDbdBgmBoEpThHjDnHb",
     "pFRbCDblKcmsjHbhtqHHZ"]),
   ("v140", ["cifBwwBFbCgIvBsLbhpBbgBexBdwhBhBjBjfBbanOevBbwCylBbbhBeioBbvBtfLbratDcyiCoCbBbFyD",
     "bftdBorQexBbuCcvgLbPbHbCbLbPbHbCrjGbBQbJcxxBAiwGcyBcgsBfeHbhpQhwyDVwdxDBbKbaewEbHbClcElib",
     "BUcXjEMvdCeyvBFbhxBFbzdHbEbCbPfqkDkmBpcBdeBgsCbsEkEiDrDgIiHcncpCgevE"]),
   ("v150", ["exnBsgBdtakDbfzDdicKbnaRbBPdBChxdBjBDbvhkBbiBmraUerhGkbCKbhBbpwBQgucBfvDeFdlBzrDp",
     "CbkDlDbBoCkCmBoCcthoBbiwsGFG"]),
   ("v151", ["semEtbBkeiqXY"]),
   ("v160", ["dgpBhcgCbvBkfCcwyDffeCbsqvDmDbjolCActwBMdBDiCluDcdBbslKbBcBbBMbKbBcBbEbKbCiCbcvUb",
     "vwBIoKbhgBhyzFXRkztCGeokCGlyjBxwiJQgQUitoBReBhccKeCrnBfBbuBhBvBcBjBirBL"])]

end RecordService.Regex.Property
