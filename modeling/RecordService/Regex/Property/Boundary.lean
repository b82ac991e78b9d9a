/-!
# Boundary properties

The characters of each class of Unicode 16.0 for the boundaries of graphemes, words and sentences, as runs
outside and inside.
-/
namespace RecordService.Regex.Property

/-! ## Graphemes -/

/-- Short names. -/
def graphemeAliases : List (String × String) := [
  ("cn", "control"), ("ex", "extend"), ("pp", "prepend"), ("ri", "regionalindicator"),
  ("sm", "spacingmark")]

def graphemeRuns : List (String × List String) := [
   ("control", ["aKbCbSdrBHnBcbmBgurBdaqBcCyHbxQdghjBjgMtuaQbzquEhwxIbtkzlBGdsEYjgFIM"]),
   ("cr", ["nB"]),
   ("extend", ["bdoEIkpHkdBTbBbCbCbBcuLbwVqBdxHcGcCbEbjBbeBBdnLcgJjByEbJbDbFbrDchJbqYbBGcdBbBeI",
     "eBdHkCbdBcgBbBcEiBjBkCbaBcCcfBeCeCcDdBbeCdBlCcfBeFbCeBuCwGbBcgBbCbEiBhDkCbeBchBbBmBjBboBd",
     "BcdBbDfDbEhClCbdBcgBcCbBdDbEhClCbcCcfCbBcEiBjBkCbdBcuBeBcDbBiBddBcHmIduBcJlHcvCbbBbBbBcdO",
     "bFbCfLbBKjBdyEbGbCcCzCeDqEnBcCgBpBbbbDbkkEbcDbdCbeCcmCbHiBcLjBbtDbBenCbiBeoDeCjBgDilCcBcg",
     "BbHbBbBcIgKcBbwBFbxEbwKeDbmJmCbgEcGceBbCdBbFceIcCfwDbNbHeBgBdChqCMueBhnBHeocDflBdsBGviGeb",
     "CbsqeEbKbgCdcCkmBdBeBzCfBfvCbaSnBbmIzLbBbsDbwBcEcCcBbkBcpGcCcCmBiBbvBbzBbDcCfCbBbqCiBjeBc",
     "BeBbdzsBbcjQqQocCxhBisBftFcmgDbCfEboDeBgjCwbEcnFmfCdbEcsLbxEetBccPbpBcCkDbxEcChBcjDbkFbIc",
     "kBmCcaJbBiEcBdrDcEgBcBgbBdIvCcfCbBbBmBjBoHdFcpBcGbBcBbDeDbBoCdhIcDbBxBddBcGbBcBbCbCjbBcEg",
     "CbCbbCdhIcBbCecBbBcIdxBbBcEbFjzJbCjlBkEeBfoEcCeBbgKboGcEiBjGcDbuNbCpqHbGbBdeWcHbCbCesGdBb",
     "CbHbBcuCdBbBnjClCcaFfDxBhxtBgPqyyMdDdsaFchHboiBclEddBlCbdaxCgyzBUcXuwFdGiIcHbeEfsDcydCDeB",
     "YiBoBwFbPcaiHbRcHbCbFdwBgeHolBcjEtoEjuCbciHefHebgFbsxyuDSeyJG"]),
   ("l", ["glkDScfoqBD"]),
   ("lf", ["kB"]),
   ("lv", ["cndoBbbBbbBbbBbbBbbBbbBbbBbbBbbBbbBbbBbbBbbBbbBbbBbbBbbBbbBbbBbbBbbBbbBbbBbbBbbBbbB",
     "bbBbbBbbBbbBbbBbbBbbBbbBbbBbbBbbBbbBbbBbbBbbBbbBbbBbbBbbBbbBbbBbbBbbBbbBbbBbbBbbBbbBbbBbb",
     "BbbBbbBbbBbbBbbBbbBbbBbbBbbBbbBbbBbbBbbBbbBbbBbbBbbBbbBbbBbbBbbBbbBbbBbbBbbBbbBbbBbbBbbBb",
     "bBbbBbbBbbBbbBbbBbbBbbBbbBbbBbbBbbBbbBbbBbbBbbBbbBbbBbbBbbBbbBbbBbbBbbBbbBbbBbbBbbBbbBbbB",
     "bbBbbBbbBbbBbbBbbBbbBbbBbbBbbBbbBbbBbbBbbBbbBbbBbbBbbBbbBbbBbbBbbBbbBbbBbbBbbBbbBbbBbbBbb",
     "BbbBbbBbbBbbBbbBbbBbbBbbBbbBbbBbbBbbBbbBbbBbbBbbBbbBbbBbbBbbBbbBbbBbbBbbBbbBbbBbbBbbBbbBb",
     "bBbbBbbBbbBbbBbbBbbBbbBbbBbbBbbBbbBbbBbbBbbBbbBbbBbbBbbBbbBbbBbbBbbBbbBbbBbbBbbBbbBbbBbbB",
     "bbBbbBbbBbbBbbBbbBbbBbbBbbBbbBbbBbbBbbBbbBbbBbbBbbBbbBbbBbbBbbBbbBbbBbbBbbBbbBbbBbbBbbBbb",
     "BbbBbbBbbBbbBbbBbbBbbBbbBbbBbbBbbBbbBbbBbbBbbBbbBbbBbbBbbBbbBbbBbbBbbBbbBbbBbbBbbBbbBbbBb",
     "bBbbBbbBbbBbbBbbBbbBbbBbbBbbBbbBbbBbbBbbBbbBbbBbbBbbBbbBbbBbbBbbBbbBbbBbbBbbBbbBbbBbbBbbB",
     "bbBbbBbbBbbBbbBbbBbbBbbBbbBbbBbbBbbBbbBbbBbbBbbBbbBbbBbbBbbBbbBbbBbbBbbBbbBbbBbbBbbBbbBbb",
     "BbbBbbBbbBbbBbbBbbBbbBbbBbbBbbBbbBbbBbbBbbBbbBbbBbbBbbBbbBbbBbbBbbBbbBbbBbbBbbBbbBbbBbbBb",
     "bBbbBbbBbbBbbBbbBbbBbbBbbBbbBbbBbbBbbBbbBbbBbbBbbBbbBbbBbbBbbBbbBbbBbbBbbBbbBbbBbbBbbBbbB",
     "bbBbbBbbBbbBbbBbbBbbBbbBbbBbbBbbBbbBbbBbbBbbBbbB"]),
   ("lvt", ["cndpBBbBBbBBbBBbBBbBBbBBbBBbBBbBBbBBbBBbBBbBBbBBbBBbBBbBBbBBbBBbBBbBBbBBbBBbBBbBBb",
     "BBbBBbBBbBBbBBbBBbBBbBBbBBbBBbBBbBBbBBbBBbBBbBBbBBbBBbBBbBBbBBbBBbBBbBBbBBbBBbBBbBBbBBbBB",
     "bBBbBBbBBbBBbBBbBBbBBbBBbBBbBBbBBbBBbBBbBBbBBbBBbBBbBBbBBbBBbBBbBBbBBbBBbBBbBBbBBbBBbBBbB",
     "BbBBbBBbBBbBBbBBbBBbBBbBBbBBbBBbBBbBBbBBbBBbBBbBBbBBbBBbBBbBBbBBbBBbBBbBBbBBbBBbBBbBBbBBb",
     "BBbBBbBBbBBbBBbBBbBBbBBbBBbBBbBBbBBbBBbBBbBBbBBbBBbBBbBBbBBbBBbBBbBBbBBbBBbBBbBBbBBbBBbBB",
     "bBBbBBbBBbBBbBBbBBbBBbBBbBBbBBbBBbBBbBBbBBbBBbBBbBBbBBbBBbBBbBBbBBbBBbBBbBBbBBbBBbBBbBBbB",
     "BbBBbBBbBBbBBbBBbBBbBBbBBbBBbBBbBBbBBbBBbBBbBBbBBbBBbBBbBBbBBbBBbBBbBBbBBbBBbBBbBBbBBbBBb",
     "BBbBBbBBbBBbBBbBBbBBbBBbBBbBBbBBbBBbBBbBBbBBbBBbBBbBBbBBbBBbBBbBBbBBbBBbBBbBBbBBbBBbBBbBB",
     "bBBbBBbBBbBBbBBbBBbBBbBBbBBbBBbBBbBBbBBbBBbBBbBBbBBbBBbBBbBBbBBbBBbBBbBBbBBbBBbBBbBBbBBbB",
     "BbBBbBBbBBbBBbBBbBBbBBbBBbBBbBBbBBbBBbBBbBBbBBbBBbBBbBBbBBbBBbBBbBBbBBbBBbBBbBBbBBbBBbBBb",
     "BBbBBbBBbBBbBBbBBbBBbBBbBBbBBbBBbBBbBBbBBbBBbBBbBBbBBbBBbBBbBBbBBbBBbBBbBBbBBbBBbBBbBBbBB",
     "bBBbBBbBBbBBbBBbBBbBBbBBbBBbBBbBBbBBbBBbBBbBBbBBbBBbBBbBBbBBbBBbBBbBBbBBbBBbBBbBBbBBbBBbB",
     "BbBBbBBbBBbBBbBBbBBbBBbBBbBBbBBbBBbBBbBBbBBbBBbBBbBBbBBbBBbBBbBBbBBbBBbBBbBBbBBbBBbBBbBBb",
     "BBbBBbBBbBBbBBbBBbBBbBBbBBbBBbBBbBBbBBbBBbBBbBBbBB"]),
   ("prepend", ["chcGihBbxBouCdcBbrnBdugkBpBjkCufBcblBbBjoBcvGbayBrbB"]),
   ("regionalindicator", ["hgokBA"]),
   ("spacingmark", ["dktBcdBcDiEbCbyCchCgCcCccBcgDcoBcgDiBbCcbCciBgCcCekBbCdDbDcaDcjEcjCcgBcBbC",
     "buBoCchCfDbDcbCcyCgHtCclBexBfiCclBgvBjCzCbsBcsvBhIbCniEcDeCbGiqCcgBbBvGfpBcfEcmBbeBeCclBc",
     "DbBcbIiCgpBvBcashCcBdkCbyQfmBbwBbwCeCcCehCcCyBgbBcCfBjdCbCbCbBblxjBbBexBbtDeCelByCchBbwDj",
     "BoBdpDdCgqDbfCchBbEcCcCvCdhCpBbCdzDiCdBedCgBbCbBcBjeCgEcBejDiCbBefBbCegBhBkbDjBjoFbChBbBf",
     "mDiEeBdgBbdCckBprBoBecBhBcBifFeCbBnmCmBbwCiCyzaDfjgCD"]),
   ("t", ["grwDKcwxnBX"]),
   ("v", ["gpcCUcwzwXcercBdE"]),
   ("zwj", ["mdpB"])]

/-! ## Words -/

/-- Short names. -/
def wordAliases : List (String × String) := [
  ("dq", "doublequote"), ("ex", "extendnumlet"), ("fo", "format"), ("hl", "hebrewletter"),
  ("ka", "katakana"), ("le", "aletter"), ("mb", "midnumlet"), ("ml", "midletter"),
  ("mn", "midnum"), ("nl", "newline"), ("nu", "numeric"), ("ri", "regionalindicator"),
  ("sq", "singlequote")]

def wordRuns : List (String × List String) := [
   ("aletter", ["cnBAgBAbvBkBeBfXbBFbSMgBIeiFbCcEbBgBbDbBbUbDFbFJiGKbBMcEbBbBPbBeaBbsBRbjCbDVbB",
     "pChCkDcBpCbBEbdDLlByBHjCeBfWeBjBdBxZhLfYbGrBQcgCCdBsBhKpQeIcCcWbHbBdEdBqBnCbDoCkBiGeCcWbH",
     "bCbCbCbfEbBtDqJbDbWbHbCbFdBsBpCxBlIcCcWbHbCbFdBbeCbDpBrBbGdDbEdCbBbCdCdDdMwBcaIbDbXbQdBba",
     "DcBcCbeBeIbDbXbKbFdBbfCbCpCrJbDbBPcBqBfDiDyGfSdYbJbBcHmbBclIbBKbbFkpBMbBfBcBRbMVbEcHbBbEc",
     "BPbEcBHbEcHbBbEcPbCFbEcCPblQqDIcGdXWcRbBAfCXdLhSnToSoNbDgtDLhFcBIbBfCSkBFirXjeBVrIccBEnCk",
     "BSbaBKbpDkBKcLfBRcDbpEbGbCdBfHKcmKScGcBMcGcIbBbBbBbBFcCBbHbBdDbHdEcGeNfDbHemBnBqNdxBeBcKb",
     "BdFgBbBbBbEbLcEfFeBrBPbfhCAcruIVgEdCmBMbBfBcCEhBqXjHbHbHbHbHbHbHbHdcBsbBcbChsBRbDQrBGbpto",
     "BSVcpBUcKJdQkCuBVqBFcDCyHQcCbBbIvQbDbEbXbdCAoBYckGdBbClBCkXzBDhBVbcBbwBPxDbIfsLhDmGcGcGjH",
     "bHbCGgELbdQNSmXeBXnguHmFceDUbhNZsCMcCCboMemFbFFbkBAgBAcrBFdGcGcGcDbjMbBAbTbCbPcObiETcrCBk",
     "hBDdBXbvBGnBEfBMkBEcBKeIbFbqGCsBKeBKeBOiCAmLbPbHbCbLbPbHbCdCAmLZjWkIyGbBQbJcrGcBbBSbCdBcX",
     "kXjBFcnTbCkWkBAcsCEgCcmBpEbDbBDbqBDdBDbjIbBCbbCCkWkTnSegCVcdBZnBZnBKbmBCjXjqBQgCqDchBDkBi",
     "WbqSbuVbbXmCBcfCcBnBTbgZbaBKbdBcBiBJdBmBWoEvBbBbjSbZtCclHbBbEbPbKhBVbmIcCcWbHbCbFdBsBmFbe",
     "KbBcBbBMbBzBbBbsCBsEuDbeBWuCbBhcBVbpEbkBWuBchBRnBmpBSemCMbfIcBcIbCbYpBbBdqIcBNqBbBbcBkBOh",
     "BvBlBUtBsCVhrBHbfJbBLrBbxBEeiHbCbBMvBzGbCbBGoBmpTpBbNbBIeuBdbBJMdyEHrHOdxkDTpBPGrGzFXRfWL",
     "kddBEcpuVXhBFrDBrBEsBWqEbfVfTqqBTidCMeyCXfBcoNcmCbBbcvkEDfNdJhKiwkDHbCTbCcBcCcEbMbBbHbCNb",
     "EcIbHbBCbEbFbBdHbNCcZbZbBFbZbBFbZbBFbZbBFbZbIcsyBFgGkbCKfqBTkHqBmjBEsBSsqBCiuBEcBtbHbEbCb",
     "PbHPchCQhBbuiEbBBbCbBcBbKbEbBbBgBeBbBbBbDbCbBcBbBbBbBbBbCbBcEbHbEbEbBbKbRfDbFbRyeBAgBAgBA"]),
   ("cr", ["nB"]),
   ("doublequote", ["biB"]),
   ("extend", ["bdoEIkpHkdBTbBbCbCbBcuLbwVqBdxHcGcCbEbjBbeBBdnLcgJjByEbJbDbFbrDchJbqYbBHccDbSbH",
     "kCbdDceBbHcCcDjBkCbaBcDceBbFeCcDdBbeCdBlDceBbIbDbDuCwGbDceBbHcCcDhDkCbeBchFdDbEjBboFcdBbH",
     "bDbEhClCbdDceBbHbDbEhClCpBmEcdCbHbDbEjBkCbdDcsBeGbBbIsCcjBcHmIduBcJlHcvCbbBbBbBeCbxUbCfLb",
     "BKjBdwUxEeDbDcHdEnMbBkEbbbDbkkEbcDbdCbeCcmBGjBbtDbBenCbiBeoMeMilFcfKbBDcBbwBFbxFbvRbmJmDb",
     "eNceObwUfwDbVeBgBcDhqCMueBhnBHeocDflBdsBGviGebCbsqeEbKbgCdcCkmBdBeBxFeBdfCbySbaSnBbmIzNbs",
     "EbvObkBcpOmBiCbtDbyBbDcCfCbBbpFfCjcIbCbdzsBbcjQqQocCxhBisBftFcmgDbCfEboDeBgjCwbEcnFmfCdbE",
     "csLbxEesDcbPbpBcCkEbtLhBcjDbkOqCbsBmDbwOiEbCdoMgBcBgbMvEcdCbHcCcDjBkCcHdFcpJbBcBbEbFbBoCd",
     "eSxBddUjbHcJbbCdeRecNdxPjwPjlGbCcEbBbCflHcHdBbcKboHbEiBjLbuQppIbIdeWbOesGdBbCbHbBcoFbCbFn",
     "jEjCbBbwHdFxBhxtBgPqyySdsaFchHboiBbCDhEddBlCbdaxCgyzBUcXuwFdGiIcHbeEfsDcydCDeBYiBoBwFbPca",
     "iHbRcHbCbFdwBgeHolBcjEtoEjuCbciHefHebgFbsxyuDSeyJG"]),
   ("extendnumlet", ["drBmbfBpCtBdgaoCyDjfB"]),
   ("format", ["grBcbmBgurBdatCbaFbxFbKdghjBjpDtuaQbzquEhwxIbtkzmB"]),
   ("hebrewletter", ["cfgBBeEdovyBbKbNbFbBbCbCbK"]),
   ("katakana", ["sgnFdxCdDNbEjgQiaBVbDKczheCEcoucEbHbCbBlbDbyBoE"]),
   ("lf", ["kB"]),
   ("midletter", ["cgBeuBbbrBsdBfsBjxyBdgbbBcnBhoB"]),
   ("midnum", ["bsBoBbgcBucBfaCdqBpfBjffBdgchBdBhbBoB"]),
   ("midnumlet", ["buBmcfCkBdgdpBgyBgB"]),
   ("newline", ["lCeqBlzmC"]),
   ("numeric", ["bwKcewGdmKbBejBsKhqKhqCdcBfbKeoKeoKeoKeoKeoKeoKeoKeoKeoKdsKeoKcsKksKcsKctqKbmK",
     "loKeyLgjKgKhaKdiKfeKgKcaeoKbacKbmKhqKwKdiKpqKbfmcKcckKdfyKgKbeqKczBpBbiKciKfoKksKneKeoKok",
     "KdyKgUcyKqgKdyKzmKdiKjmKcsKqgKyygKdmcKdiKfeKuoKbkdyKecqBYdncKqgKtiKjnKbgvKhbaK"]),
   ("regionalindicator", ["hgokBA"]),
   ("singlequote", ["bnB"]),
   ("wsegspace", ["bgBimhBdpnHbDdgBfxwB"]),
   ("zwj", ["mdpB"])]

/-! ## Sentences -/

/-- Short names. -/
def sentenceAliases : List (String × String) := [
  ("at", "aterm"), ("cl", "close"), ("ex", "extend"), ("fo", "format"), ("le", "oletter"),
  ("lo", "lower"), ("nu", "numeric"), ("sc", "scontinue"), ("se", "sep"), ("st", "sterm"),
  ("up", "upper")]

def sentenceRuns : List (String × List String) := [
   ("aterm", ["buBmcrBdgdpBhfB"]),
   ("close", ["biBeDbxBbBbdBbBbtBpBfmsEcunCdpjIzCkCccCoCyjEbdCbpgGhOdbCbfKpnWclEbgCbnmOoCcKyBsI",
     "qlKcIbDczrqCihCbcQcCqGgnCbxBbBbdBbBbCbCdposD"]),
   ("cr", ["nB"]),
   ("extend", ["bdoEIkpHkdBTbBbCbCbBcuLbwVqBdxHcGcCbEbjBbeBBdnLcgJjByEbJbDbFbrDchJbqYbBHccDbSbH",
     "kCbdDceBbHcCcDjBkCbaBcDceBbFeCcDdBbeCdBlDceBbIbDbDuCwGbDceBbHcCcDhDkCbeBchFdDbEjBboFcdBbH",
     "bDbEhClCbdDceBbHbDbEhClCpBmEcdCbHbDbEjBkCbdDcsBeGbBbIsCcjBcHmIduBcJlHcvCbbBbBbBeCbxUbCfLb",
     "BKjBdwUxEeDbDcHdEnMbBkEbbbDbkkEbcDbdCbeCcmBGjBbtDbBenCbiBeoMeMilFcfKbBDcBbwBFbxFbvRbmJmDb",
     "eNceObwUfwDbVeBgBcDhqCMueChmBHeocDflBdsBGviGebCbsqeEbKbgCdcCkmBdBeBxFeBdfCbySbaSnBbmIzNbs",
     "EbvObkBcpOmBiCbtDbyBbDcCfCbBbpFfCjcIbCbdzsBbcjQqQocCxhBisBftFcmgDbCfEboDeBgjCwbEcnFmfCdbE",
     "csLbxEesDcbPbpBcCkEbtLhBcjDbkOqCbsBmDbwOiEbCdoMgBcBgbMvEcdCbHcCcDjBkCcHdFcpJbBcBbEbFbBoCd",
     "eSxBddUjbHcJbbCdeRecNdxPjwPjlGbCcEbBbCflHcHdBbcKboHbEiBjLbuQppIbIdeWbOesGdBbCbHbBcoFbCbFn",
     "jEjCbBbwHdFxBhxtBgPqyySdsaFchHboiBbCDhEddBlCbdaxCgyzBUcXuwFdGiIcHbeEfsDcydCDeBYiBoBwFbPca",
     "iHbRcHbCbFdwBgeHolBcjEtoEjuCbciHefHbtcafDSeyJG"]),
   ("format", ["grBcbmBjiBgliBdaqBcCbaFbxFbKdghjBjpDtuaQbzquEhwxIbtkzmB"]),
   ("lf", ["kB"]),
   ("lower", ["dtBAbvBkBeBbkYbIbBbBbBbBbBbBbBbBbBbBbBbBbBbBbBbBbBbBbBbBbBbBbBbBbBbBbBbCbBbBbBbB",
     "bBbBbBbCbBbBbBbBbBbBbBbBbBbBbBbBbBbBbBbBbBbBbBbBbBbBbBcBbBbDcBbBcBdCeBcBdDcBcBbBbBcBbCbBc",
     "BdBbBcCcDgBcBcBbBbBbBbBbBbBbBbCbBbBbBbBbBbBbBbBbCcBbBdBbBbBbBbBbBbBbBbBbBbBbBbBbBbBbBbBbB",
     "bBbBbBbBbBbBbBbBbBbBbBbHcBcCbBeBbBbBbBbCRbBKhCbeFfkBbBdBcEsBbbBJbCdDbBbBbBbBbBbBbBbBbBbBb",
     "BbFbBcBcCbzBWbBbBbBbBbBbBbBbBbBbBbBbBbBbBbBbBbBjBbBbBbBbBbBbBbBbBbBbBbBbBbBbBbBbBbBbBbBbB",
     "bBbBbBbBbBbBcBbBbBbBbBbBbCbBbBbBbBbBbBbBbBbBbBbBbBbBbBbBbBbBbBbBbBbBbBbBbBbBbBbBbBbBbBbBb",
     "BbBbBbBbBbBbBbBbBbBbBbBbBbBbBbBbBbwBPeitBbdjGdfuJbBenHKcnBbBbBbBbBbBbBbBbBbBbBbBbBbBbBbBb",
     "BbBbBbBbBbBbBbBbBbBbBbBbBbBbBbBbBbBbBbBbBbBbBbBbBbBbBbBbBbBbBbBbBbBbBbBbBbBbBbBbBbBbBbBbB",
     "bBbBbBbBbBbBbBbBbBbBbBbBbBbJbBbBbBbBbBbBbBbBbBbBbBbBbBbBbBbBbBbBbBbBbBbBbBbBbBbBbBbBbBbBb",
     "BbBbBbBbBbBbBbBbBbBbBbBbBbBbBbBbBbBbJiGkIiIiGkIiIiOcIiIiIiFbCgBdDbCiEcCiIkDbCerBnBqNefBdC",
     "dBbbBeBeBcCiEeBbhQeBbglBActqBWbBdCbBbBbBeBbCbIdBbBbBbBbBbBbBbBbBbBbBbBbBbBbBbBbBbBbBbBbBb",
     "BbBbBbBbBbBbBbBbBbBbBbBbBbBbBbBbBbBbBbBbBbBbBbBbBbBbBbBbChBbBeBmBMbBfBbtwdBbBbBbBbBbBbBbB",
     "bBbBbBbBbBbBbBbBbBbBbBbBbBbBbBtBbBbBbBbBbBbBbBbBbBbBbBbBbDfdBbBbBbBbBbBbDbBbBbBbBbBbBbBbB",
     "bBbBbBbBbBbBbBbBbBbBbBbBbBbBbBbBbBbBbBbBbBbBbKbBbBcBbBbBbBbBeBbBcBbDbBbBbBbBbBbBbBbBbBbBf",
     "BfBbBbBbBbBbBbBbBeBbBcBdBbBbBbBbBbBwDbBbDbfpBRbOgDCbeaiHmFbozBAbvhBOfgBKfzLbPbHbCrjBcDbBQ",
     "bJbxlBZevWegoBGbgjwBGbmmkBAbaHbSbaBAbaEbBbHbLbaBAbaBAbaBAbaBAbaBAbaBAbaBAbaBAbaBCbcZbGbaZ",
     "bGbaZbGbaZbGbaZbGbBcsyKbUgGkbCKdhsBI"]),
   ("numeric", ["bwKcewGdmKbCeiBsKhqKhqCdcBfbKeoKeoKeoKeoKeoKeoKeoKeoKeoKdsKeoKcsKksKcsKctqKbmK",
     "loKeyLgjKgKhaKdiKfeKgKcaeoKbacKbmKhqKwKdiKpqKbfmcKcckKdfyKgKbeqKczBpBbiKciKfoKksKneKeoKok",
     "KdyKgUcyKqgKdyKzmKdiKjmKcsKqgKyygKdmcKdiKfeKuoKbkdyKecqBYdncKqgKtiKjnKbgvKhbaK"]),
   ("oletter", ["rbBeEiaBbkHgMbaBbBfdBsqBeoBBeFbsBRbjCbDVbBpChCkDcBqBbBEbdDLlByBHjCeBfWeBjBdBxZ",
     "hLfYbGrBQcgCCdBsBhKpQeIcCcWbHbBdEdBqBnCbDoCkBiGeCcWbHbCbCbCbfEbBtDqJbDbWbHbCbFdBsBpCxBlIc",
     "CcWbHbCbFdBbeCbDpBrBbGdDbEdCbBbCdCdDdMwBcaIbDbXbQdBbaDcBcCbeBeIbDbXbKbFdBbfCbCpCrJbDbBPcB",
     "qBfDiDyGfSdYbJbBcHcgBWbCmHcgCbBbFbYbBbKbCjBcFbBvEbgBclIbBKbbFelBRuBqGeEdBdChDeNmBcnBRcMUb",
     "EcHbBbEcBPbEcBHbEcHbBbEcPbCFbEcCPblQejXWcRbBAfCXdLhSnToSoNbDpCAbjBeBcpDLhFcBIbBfCSkBFbxBE",
     "cFlBSeBAccXjCBdeBdpBVrIccBEnCkBSbaBKbpDkBKsBRcDbpEbGbCdBbpqEctDcEektCEhBqXjHbHbHbHbHbHbHb",
     "HdcBsbDzJhFcFeDIgDbDMbEfBRbDQrBGbwQtsJTOcmBGUFcpBUcKJdQkCcoBqBbgDCbnJeaBgBdzBdHbDbEbXbdCA",
     "oBYckGdBbClBCkXzBDhBVbcBqFbKkFbBPxDbIuXdBdBYbBdCcFcBbByDcLhDmGcGcGjHbHfpBJbdQNSmXeBXmncOC",
     "cECcpBbKbNbFbBbCbCbEEbhNZsCMcCCboMemFbFFebCEcBFdGcGcGcDbjMbBAbTbCbPcObiETcrCBkhBDdBXbvBGn",
     "BEfBMkBEcBKeIbFesDAduBOiCAdoCAmLZjWkIzCevGcBbBSbCdBcXkXjBFcnTbCkWkBAcsCEgCcmBpEbDbBDbqBDd",
     "BDbjIbBCbbCCkWkTnSegCVhbBKbmGbfBkmBQgCqDchBDkBiWbqSbuVbbXmCBcfCcBnBTbgZbaBKbdBcBiBJdBmBWo",
     "EvBbBbjSbZtCclHbBbEbPbKhBVbmIcCcWbHbCbFdBsBmFbeKbBcBbBMbBzBbBbsCBsEuDbeBWuCbBhcBVbpEbkBWu",
     "BchBRnBctBBblHhdBSidIcBcIbCbYpBbBdqIcBNqBbBbcBkBOhBvBlBUtBsCVhrBHbfJbBLrBbxBEeiHbCbBMvBzG",
     "bCbBGoBmpTpBbNbBIeuBdbBJMdyEHrHOdxkDTpBPGrGzFXRfWLkddBEcpuVXhBFrDBrBEsBWqEbfVfTqqBTpnCXfB",
     "coNcmCbBbcJCAiBVQbpKnfrEbHbCbLFpBbdDcBoEiPGdkuEDfNdJhKnbcBthBTkHqBmjBEsBSsqBCiuBEcBtbHbEb",
     "CbPbHPfeBbuiEbBBbCbBcBbKbEbBbBgBeBbBbBbDbCbBcBbBbBbBbBbCbBcEbHbEbEbBbKbRfDbFbRgoaCLFCbgGD",
     "UgIOcINQoLBLpXYdqwUWcfyHHZfGFG"]),
   ("scontinue", ["bsCmCbgcBskBgsCswBgbxBfBdbeCgauBdaawCbCbcCbdCcCcBkBgmCmCcuB"]),
   ("sep", ["fdBlzmC"]),
   ("sp", ["jBbCtBexBihjBdpnLbkBbvBfxwB"]),
   ("sterm", ["bhBbdBcabBfrDgyBbrDjmBcjBbBdClhCcpwCbekBeCbdtBhqCgbCbtBfBmcCnqEggCkCcCbdDhfCcnCb",
     "kuCjDeuxDluBnBwCqnBbshwBkkCitBdBosCdiCdrBfwCfrDfoCjpBbfcwBcCclCgnBbdBcnBedwCbxdFbsEhhCenE",
     "exDezCgBqCdkCbCeeBlmCenCojCfPebCjpDtxBbBjrCdjCqeCbaqCcwCbcmbCfdBcnClBvhClkBbdogBlimB"]),
   ("upper", ["cnBAdxXbHbhBbBbBbBbBbBbBbBbBbBbBbBbBbBbBbBbBbBbBbBbBbBbBbBbBbBbBbBcBbBbBbBbBbBbB",
     "bBcBbBbBbBbBbBbBbBbBbBbBbBbBbBbBbBbBbBbBbBbBbBbBbCbBbBdCbBbCbDcEbCbDdCbCbBbBbCbBcBbCbDbBb",
     "CdBhCbCbCbBbBbBbBbBbBbBbBcBbBbBbBbBbBbBbBbBcCbBbDbBbBbBbBbBbBbBbBbBbBbBbBbBbBbBbBbBbBbBbB",
     "bBbBbBbBbBbBbBbBbBhCbCcBbEbBbBbBbBldBbBdBiBgBbDbBbCbRbJbjBcDdBbBbBbBbBbBbBbBbBbBbBbBfBcBb",
     "CcBZbwBbBbBbBbBbBbBbBbBbBbBbBbBbBbBbBbBjBbBbBbBbBbBbBbBbBbBbBbBbBbBbBbBbBbBbBbBbBbBbBbBbB",
     "bBbBbCbBbBbBbBbBbBcBbBbBbBbBbBbBbBbBbBbBbBbBbBbBbBbBbBbBbBbBbBbBbBbBbBbBbBbBbBbBbBbBbBbBb",
     "BbBbBbBbBbBbBbBbBbBbBbBbBcBMehdBMbBfBbbuDIdglBokBbBbBbBbBbBbBbBbBbBbBbBbBbBbBbBbBbBbBbBbB",
     "bBbBbBbBbBbBbBbBbBbBbBbBbBbBbBbBbBbBbBbBbBbBbBbBbBbBbBbBbBbBbBbBbBbBbBbBbBbBbBbBbBbBbBbBb",
     "BbBbBbBbBbBbBbBbBbBjBbBbBbBbBbBbBbBbBbBbBbBbBbBbBbBbBbBbBbBbBbBbBbBbBbBbBbBbBbBbBbBbBbBbB",
     "bBbBbBbBbBbBbBbBbBbBbBbBbBbBjIiGkIiIiGlBbBbBbBiIyIiIiIiFlFlEmFlFkbBeBdDcDcBdFgBbBbBbEcEkC",
     "fBbaQtBbfmBAcsuBWbwBbDcBbBbBbEbBcBiDbBbBbBbBbBbBbBbBbBbBbBbBbBbBbBbBbBbBbBbBbBbBbBbBbBbBb",
     "BbBbBbBbBbBbBbBbBbBbBbBbBbBbBbBbBbBbBbBbBbBbBiBbBeBbtyjBbBbBbBbBbBbBbBbBbBbBbBbBbBbBbBbBb",
     "BbBbBbBbBbBtBbBbBbBbBbBbBbBbBbBbBbBbBbBffBbBbBbBbBbBbBdBbBbBbBbBbBbBbBbBbBbBbBbBbBbBbBbBb",
     "BbBbBbBbBbBbBbBbBbBbBbBbBbBkBbBbCbBbBbBbBeBbBcBbBdBbBbBbBbBbBbBbBbBbBbFbFbBbBbBbBbBbBbBbE",
     "bBbCdBfBbBbBbByBbhahBAbuzBOfgBKgaLbPbHbCcqcBZgbWegoBGbgjwBGbmmqBAbaBAbaBAbaBbCcBcCcEbIbaB",
     "AbaCbEcIbHbbCbEbFbBdHbbBAbaBAbaBAbaBAbaBAbaBAbeZbhZbhZbhZbhZbhBgnlBIdbiBAgBAgBA"])]

end RecordService.Regex.Property
