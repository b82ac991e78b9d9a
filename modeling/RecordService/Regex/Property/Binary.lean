/-!
# Binary properties

The characters of Unicode 16.0 that have each of its binary properties, as runs outside and inside.
-/
namespace RecordService.Regex.Property

/-- Short names. -/
def binaryAliases : List (String × String) := [
  ("ahex", "asciihexdigit"), ("alpha", "alphabetic"), ("bidic", "bidicontrol"),
  ("bidim", "bidimirrored"), ("ci", "caseignorable"), ("cwcf", "changeswhencasefolded"),
  ("cwcm", "changeswhencasemapped"), ("cwl", "changeswhenlowercased"),
  ("cwt", "changeswhentitlecased"), ("cwu", "changeswhenuppercased"), ("dep", "deprecated"),
  ("di", "defaultignorablecodepoint"), ("dia", "diacritic"), ("ebase", "emojimodifierbase"),
  ("ecomp", "emojicomponent"), ("emod", "emojimodifier"), ("epres", "emojipresentation"),
  ("ext", "extender"), ("extpict", "extendedpictographic"), ("grbase", "graphemebase"),
  ("grext", "graphemeextend"), ("grlink", "graphemelink"), ("hex", "hexdigit"),
  ("idc", "idcontinue"), ("ideo", "ideographic"), ("ids", "idstart"),
  ("idsb", "idsbinaryoperator"), ("idst", "idstrinaryoperator"), ("idsu", "idsunaryoperator"),
  ("joinc", "joincontrol"), ("loe", "logicalorderexception"), ("lower", "lowercase"),
  ("mcm", "modifiercombiningmark"), ("nchar", "noncharactercodepoint"),
  ("oalpha", "otheralphabetic"), ("odi", "otherdefaultignorablecodepoint"),
  ("ogrext", "othergraphemeextend"), ("oidc", "otheridcontinue"), ("oids", "otheridstart"),
  ("olower", "otherlowercase"), ("omath", "othermath"), ("oupper", "otheruppercase"),
  ("patsyn", "patternsyntax"), ("patws", "patternwhitespace"),
  ("pcm", "prependedconcatenationmark"), ("qmark", "quotationmark"), ("ri", "regionalindicator"),
  ("sd", "softdotted"), ("space", "whitespace"), ("sterm", "sentenceterminal"),
  ("term", "terminalpunctuation"), ("uideo", "unifiedideograph"), ("upper", "uppercase"),
  ("vs", "variationselector"), ("wspace", "whitespace"), ("xidc", "xidcontinue"),
  ("xids", "xidstart")]

def binaryRuns : List (String × List String) := [
   ("alphabetic", ["cnBAgBAbvBkBeBfXbBFbRQeMoFhBbBdiBbdSbCcEbBgBbDbBbUbDFbFJiGKbBMcBgBPbnObBbCb",
     "CbBiBBeEbdLfCEbHoDYbIeIeDkDcBqBWnDXyBHjCeBfYcTtZhLfYbGiBiBQkMdHgCYbQbDePnTbIcCcWbHbBdEdIc",
     "CcCbBiBeCbFmCkBeDbGeCcWbHbCbCbCeFeCcCeBhEbBrGlDbJbDbWbHbCbFdJbDbCdBpEvEeDbIcCcWbHbCbFdIcC",
     "cCjCeCbFnBqCbGdDbEdCbBbCdCdDdMeFdDbDdBgBboNbDbXbQdIbDbDiCbDcBcEbcEbIbDbXbKbFdIbDbDiCgCbEn",
     "DmNbDbBPcIbDbDbBfEhFwGbDbSdYbJbBcHiGbBbIsCnCGfHgBbzCbBbFbYbBbTbDcFbBgBoEbgBclIbBKeTeQbBKc",
     "pCDbBcFqCMkEcBMbBfBcBRbMVbEcHbBbEcBPbEcBHbEcHbBbEcPbCFbEcCPblQqDIcGdXWcRbBAfCXdLhUlVmUmNb",
     "DbCmCAcToBeBcpDLhBRfCSkBFbMeJxBEcFlBSeBAccBCeCLcUbyBxClDbxCAbPbIbzBQcEkBSbLoCDwDkBKcLfBRc",
     "DbpEbGbCdBfHKtBIlKScGcBMcGcIbBbBbBbBFcCBbHbBdDbHdEcGeNfDbHemBnBqNdxBeBcKbBdFgBbBbBbEbLcEf",
     "FeBrBPbfhCAcruIVgEdCmBMbBfBcCEhBqXjHbHbHbHbHbHbHbHbBGbvBsbDzJhFcFeDIgDbDMbEfBRbDQrBGbwQts",
     "JTOcmBGUFcpBUcKJdQkCuBVfIdEJbnJcDZcCPcCbBbIvUbBHyCAmCQbBbsGdBbDkBHfBJnBDdBZbMpBqQkFbCDjOs",
     "XdCRbBbByDcQcElGcGcGjHbHbBRbOgETvQNSmXeBXmncOCcECbmHmFfMbNbFbBbCbCbEEbhNZsCMcCCboMemFbFFb",
     "kBAgBAlDLdGcGcGcDbjMbBAbTbCbPcObiETcrCBkhBDdBXbvBGnBEfBRfBEcBKeIbFbqGCsBKeBKeBOiCAmLbPbHb",
     "CbLbPbHbCdCAmLZjWkIyGbBQbJcrGcBbBSbCdBcXkXjBFcnTbCkWkBAcsCEgCcmEbCfIbDbBDbqBDdBDbjIbBCbbC",
     "CkWkTnSegCVcdBZnBZnBObiBCdBfXjqBQbCdCqDcdBdBDkBiWbqSbuVbbXjCSbrFkCFjBnZxBZrEiBJdBjCMbEjCk",
     "BbBbjSbBIcBgEckHbBbEbPbKhCFxEbIcCcWbHbCbFdIcCcCdBgBfHbcKbBcBbBMbKbBcBbEbCdBbBbsCObDbEuDbe",
     "COcCbBhcCCcHzGbiCLbBdBchCCcBctBBcOvHhdCFdzCMbfIcBcIbCbBEbCcCcEdpIcBUcGbBbCbbBZcKrCUfBsCVh",
     "rBHbfJbBTbHbBbxBEcWbOcvHbCbBSdBbCbDbBcCyGbCbBLbCbEbBmpXjRbBPdDehBdbBJMdyEHrHOdxkDTpBPGrGz",
     "FXRfWLkddBVcpdVXhBFrDBrBEsBWqEbfVfTqqBTidCMeyCXeCFhRcmCbBmCoJCAiBVQbpKnfrEbHbCbLFpBbdDcBo",
     "EiPGdkuEDfNdJhKeBiwfDHbCTbCcBcCcEbMbBbHbCNbEcIbHbBCbEbFbBdHbNCcZbZbBFbZbBFbZbBFbZbBFbZbIc",
     "syBFgGifHbRcHbCbFfCKbhBeiBTkHqBmjBEsBSsqBCiuBEcBtbHbEbCbPbHPchCQdBdBbuiEbBBbCbBcBbKbEbBbB",
     "gBeBbBbBbDbCbBcBbBbBbBbBbCbBcEbHbEbEbBbKbRfDbFbRyeBAgBAgBAfmkCLFCbgGDUgIOcINQoLBLpXYdqwUW",
     "cfyHHZfGFG"]),
   ("asciihexdigit", ["bwKhGbaG"]),
   ("bidicontrol", ["cieBjvlCbaFcdE"]),
   ("bidimirrored", ["boCsBbBbcBbBbdBbBbtBpBfmsEcunCdqqCkCccCoCgvBhkEdGdBdCdEbEbBbBeJfBbSfEjCbB",
     "bIbBGcEfBjCcTfCjFcCeYcQiEuChCbptOcwBcEbCbDfEfDdOpnWcGbOiBhGdBeFbCcFeBbDcCkGcCmTbEcBbBcBbE",
     "fCgDyClCeEbCcCeBRcIbBOfBbBdFfDeBdFbBjwBtvEdCbCoCcKbrIqlKcIdacrGfCggCsBbBbcBbBbdBbBbCbCddp",
     "nBcfBcfBcfBcfB"]),
   ("cased", ["cnBAgBAbvBkBeBfXbBFbHNbEeIAbBKhCbeFdsBbqEcCcEbBgBbDbBbUbDFbFJiGKbBMjBPeffBMbBfBc",
     "BRbEzwDIcGdfuLfBRcDcmHKcmKScGcBMcGcIbBbBbBbBFcCBbHbBdDbHdEcGeNfDbHemBnBqNdxBeBcKbBdFgBbBb",
     "BbEbGeBcEfFeBrBGdCbflCAcruIVgEdCmBMbBfBbtwcBUsBEfcDYdEbCKcCbBbIvFbDbfpBRbOgDCbeaiHmFbntBA",
     "gBAbttDCdsBKeBKemLbPbHbCbLbPbHbCrjBcDbBQbJbuzBZnBZdpWkWefiCMbgiqCMbmlkDHbCTbCcBcCcEbMbBbH",
     "bCNbEcIbHbBCbEbFbBdHbNCcZbZbBFbZbBFbZbBFbZbBFbZbIcsyKbUgGkbCKdgkCQdaaBAgBAgBA"]),
   ("caseignorable", ["bnBgBlBbjBbBctBeBbBeBcCtjHKeCeBjCbBjrHhzBfBbxBTbBbCbCbBbsBlGkLbBbjBkVqBd",
     "xIbKbEbhBbBbeBBdnLcgLeBcByYbrDbsBhCfJbpCGcdBbBeIeBdHkCnBpBcgBeEiBuCbaBcCcfBeCeCcDdBbeCdBl",
     "CcfBeFbCeBuCwGbBcgBcBbEiBhClCbeBcjBmBbyBdBcdBbDfDbEhClCbdBcgBcBgBfCuCbcCcfCeEiBuCbdBcuBhD",
     "bBdmBcHlJduBcJjBbHcvCbbBbBbBcdObFbCfLbBKjBdyEbGbCcCzCeDqEnBcCgBpBdqBxkDbkkDbdCbeCbeCcmCbH",
     "iBcLdBfBbtFbzBcnCbiBeoDeCjBgDilCcBcgBbHbBbBcIgKcBbnBiBFbxEbwBbFbBfBboJmCbgEcCbDceBbCdBbDc",
     "gIcCcmGdeDbNbHeBgBdCbyCLnBbiDXrdBbDlDnDnDnCmFiCkBcBcFbxFbKbBnBqNbzBHejrCejDevBpBdsBGbvBsb",
     "BbkEdFfBdpGdpDbqbuBbwcGkkBduEbKbBbcEdcCoBIdaBxDdzDdCiBdBeBzCfBfvCbaSnBbmIzLbuDbwBcEcCrBvC",
     "coGcCcCmBiBbjBlBbzBbDcCfCbBbbBoCfCbBdwFjDerBcBeBbdzsBfrRwbQdBmQbiBcBgnBhBgBlBbjBbBbvBbtCc",
     "pBvDttBisBftFbnpGbBQbJwkDbCfEboDeBgjCwbEbmBbaFbBmdCdbEcsLbxEetBccPbpBcCkDbxEcCcBeBkBbyDbk",
     "FbIckBmCcaJkEcBdrDcBbCgBcBgbBdIvCcfCdBblHdFcsGnBbBbBoCdhIcDbBxBdgGbBeCbCjeEgCbCbbCdhIcBbC",
     "ecBbBcGbBdxBbBcEbFjzJbCjwCbBeBfoEcCeBbgKboGcEiBjGcDbuNbCpqHbGbBdeWcHbCbCesGdBbCbHbBcuCdBb",
     "BnjClCcaFfBbBxBhxdRgPqyyMdDdsaFchHjEtoDboCsoBclRcmCbCygpEbHbCeugCbEgyuBUcXuyDjQcHbeEfsDcy",
     "dCDeBYiBoBwFbPcaiHbRcHbCbFfCKbhBgeOoeBcjEtnFjuCbciHefIebfFbsxxpBbeDSeyJG"]),
   ("changeswhencasefolded", ["cnBAdmBkXbIbgBbBbBbBbBbBbBbBbBbBbBbBbBbBbBbBbBbBbBbBbBbBbBbBbBbB",
     "bBbBcBbBbBbBbBbBbBbBbCbBbBbBbBbBbBbBbBbBbBbBbBbBbBbBbBbBbBbBbBbBbBbCbBbBbBbCbBbCbDcEbCbDd",
     "CbCbBbBbCbBcBbCbDbBbCdBhCbCbCbBbBbBbBbBbBbBbBcBbBbBbBbBbBbBbBbBcCbBbDbBbBbBbBbBbBbBbBbBbB",
     "bBbBbBbBbBbBbBbBbBbBbBbBbBbBbBbBbBbBbBhCbCcBbEbBbBbBbBjmBbqBbBdBiBgBbDbBbCbRbJwBmDdCbBbBb",
     "BbBbBbBbBbBbBbBbBbBbCcCbBbCcBZbwBbBbBbBbBbBbBbBbBbBbBbBbBbBbBbBbBjBbBbBbBbBbBbBbBbBbBbBbB",
     "bBbBbBbBbBbBbBbBbBbBbBbBbBbBbBbCbBbBbBbBbBbBcBbBbBbBbBbBbBbBbBbBbBbBbBbBbBbBbBbBbBbBbBbBb",
     "BbBbBbBbBbBbBbBbBbBbBbBbBbBbBbBbBbBbBbBbBbBbBbBbBbBcBMbwBefgBMbBfBbfeGdfuKgBRcDmiBbBbBbBb",
     "BbBbBbBbBbBbBbBbBbBbBbBbBbBbBbBbBbBbBbBbBbBbBbBbBbBbBbBbBbBbBbBbBbBbBbBbBbBbBbBbBbBbBbBbB",
     "bBbBbBbBbBbBbBbBbBbBbBbBbBbBbBbBbBbBbBbBbBbBbBbBbBbBfCcBbBbBbBbBbBbBbBbBbBbBbBbBbBbBbBbBb",
     "BbBbBbBbBbBbBbBbBbBbBbBbBbBbBbBbBbBbBbBbBbBbBbBbBbBbBbBbBbBbBbBjIiGkIiIiGlBbBbBbBiIqBWcDc",
     "GfDcGlEmFfDcGllBdCgBbtQtBbfmBAcsuBWbwBbDcBbBbBbEbBcBiDbBbBbBbBbBbBbBbBbBbBbBbBbBbBbBbBbBb",
     "BbBbBbBbBbBbBbBbBbBbBbBbBbBbBbBbBbBbBbBbBbBbBbBbBbBbBbBbBbBbBbBiBbBeBbtyjBbBbBbBbBbBbBbBb",
     "BbBbBbBbBbBbBbBbBbBbBbBbBbBbBtBbBbBbBbBbBbBbBbBbBbBbBbBbBffBbBbBbBbBbBbBdBbBbBbBbBbBbBbBb",
     "BbBbBbBbBbBbBbBbBbBbBbBbBbBbBbBbBbBbBbBbBbBbBkBbBbCbBbBbBbBeBbBcBbBdBbBbBbBbBbBbBbBbBbBbF",
     "bFbBbBbBbBbBbBbBbEbBbCdBfBbBbBbByBbigDCbeaiHmFbntBAbuzBOfgBKgaLbPbHbCcqcBZgbWegoBGbgjwBGb",
     "ulkBI"]),
   ("changeswhencasemapped", ["cnBAgBAcgBkXbBFbCMbDGbBCcOcCbBeDPbSgBBbCbBbCdCbEbFcBbCcBhBcBbCdG",
     "fBkCgkBbqEcCdDbBgBbDbBbUbBVdBHbFbFDiGKbBMkBNefgBMbBfBcBRcDzwDIcGdfuLfBRcDhdBdBqBejGAcBbEO",
     "cGcBMcGcIbBbBbBbBFcCBbHbBdDbHdEcGeNfDbHllBdCgBbbBrBGdCbflCAcruEJbCbChDYhEdCmBMbBfBbtwcBUs",
     "BCfeOcCKjPdDcFbZbBEcCeHyCbhcBbcDCbeaiHmFbntBAgBAbttDCdsBKeBKemLbPbHbCbLbPbHbCcopBZnBZdpWk",
     "WefiCMbgiqCMbukeCQ"]),
   ("changeswhenlowercased", ["cnBAdxXbHbhBbBbBbBbBbBbBbBbBbBbBbBbBbBbBbBbBbBbBbBbBbBbBbBbBbBbB",
     "bBcBbBbBbBbBbBbBbBcBbBbBbBbBbBbBbBbBbBbBbBbBbBbBbBbBbBbBbBbBbBbBbCbBbBdCbBbCbDcEbCbDdCbCb",
     "BbBbCbBcBbCbDbBbCdBhCbCbCbBbBbBbBbBbBbBbBcBbBbBbBbBbBbBbBbBcCbBbDbBbBbBbBbBbBbBbBbBbBbBbB",
     "bBbBbBbBbBbBbBbBbBbBbBbBbBbBbBbBbBhCbCcBbEbBbBbBbBldBbBdBiBgBbDbBbCbRbJbjBiBbBbBbBbBbBbBb",
     "BbBbBbBbBfBcBbCcBZbwBbBbBbBbBbBbBbBbBbBbBbBbBbBbBbBbBjBbBbBbBbBbBbBbBbBbBbBbBbBbBbBbBbBbB",
     "bBbBbBbBbBbBbBbBbBbCbBbBbBbBbBbBcBbBbBbBbBbBbBbBbBbBbBbBbBbBbBbBbBbBbBbBbBbBbBbBbBbBbBbBb",
     "BbBbBbBbBbBbBbBbBbBbBbBbBbBbBbBbBbBbBbBcBMehdBMbBfBbbuDIdglBgBRcDmiBbBbBbBbBbBbBbBbBbBbBb",
     "BbBbBbBbBbBbBbBbBbBbBbBbBbBbBbBbBbBbBbBbBbBbBbBbBbBbBbBbBbBbBbBbBbBbBbBbBbBbBbBbBbBbBbBbB",
     "bBbBbBbBbBbBbBbBbBbBbBbBbBbBbBbBbBbBbBjBbBbBbBbBbBbBbBbBbBbBbBbBbBbBbBbBbBbBbBbBbBbBbBbBb",
     "BbBbBbBbBbBbBbBbBbBbBbBbBbBbBbBbBbBbBbBbBbBbBbBjIiGkIiIiGlBbBbBbBiIyIiIiIiFlFlEmFlFllBdCg",
     "BbtQtBbfmBAcsuBWbwBbDcBbBbBbEbBcBiDbBbBbBbBbBbBbBbBbBbBbBbBbBbBbBbBbBbBbBbBbBbBbBbBbBbBbB",
     "bBbBbBbBbBbBbBbBbBbBbBbBbBbBbBbBbBbBbBbBbBbBiBbBeBbtyjBbBbBbBbBbBbBbBbBbBbBbBbBbBbBbBbBbB",
     "bBbBbBbBbBtBbBbBbBbBbBbBbBbBbBbBbBbBbBffBbBbBbBbBbBbBdBbBbBbBbBbBbBbBbBbBbBbBbBbBbBbBbBbB",
     "bBbBbBbBbBbBbBbBbBbBbBbBbBkBbBbCbBbBbBbBeBbBcBbBdBbBbBbBbBbBbBbBbBbBbFbFbBbBbBbBbBbBbBbEb",
     "BbCdBfBbBbBbByBbhahBAbuzBOfgBKgaLbPbHbCcqcBZgbWegoBGbgjwBGbulkBI"]),
   ("changeswhentitlecased", ["dtBAcgBbpYbIbBbBbBbBbBbBbBbBbBbBbBbBbBbBbBbBbBbBbBbBbBbBbBbBbBbB",
     "bBbBcBbBbBbBbBbBbBbCbBbBbBbBbBbBbBbBbBbBbBbBbBbBbBbBbBbBbBbBbBbBbBcBbBbDcBbBcBdBfBcBdDcBc",
     "BbBbBcBeBcBdBbBcBdBbBeBbCbCbBbBbBbBbBbBbBbBbCbBbBbBbBbBbBbBbBbDbBbBdBbBbBbBbBbBbBbBbBbBbB",
     "bBbBbBbBbBbBbBbBbBdBbBbBbBbBbBbBbBbBiBcCbBeBbBbBbBbGbCbBbCdCbEbFcBbCcBhBcBbCdGfBkCgkBbrBb",
     "BdBdDsBbbBJbCdDbBbBbBbBbBbBbBbBbBbBbBbFbBcBcBcaBWbBbBbBbBbBbBbBbBbBbBbBbBbBbBbBbBbBjBbBbB",
     "bBbBbBbBbBbBbBbBbBbBbBbBbBbBbBbBbBbBbBbBbBbBbBbBcBbBbBbBbBbBbCbBbBbBbBbBbBbBbBbBbBbBbBbBb",
     "BbBbBbBbBbBbBbBbBbBbBbBbBbBbBbBbBbBbBbBbBbBbBbBbBbBbBbBbBbBbBbBbBbBbBbxBNfmeGdfuJbBjeBdBq",
     "BekBbBbBbBbBbBbBbBbBbBbBbBbBbBbBbBbBbBbBbBbBbBbBbBbBbBbBbBbBbBbBbBbBbBbBbBbBbBbBbBbBbBbBb",
     "BbBbBbBbBbBbBbBbBbBbBbBbBbBbBbBbBbBbBbBbBbBbBbBbBbBbBbBbBbBbBbHfBbBbBbBbBbBbBbBbBbBbBbBbB",
     "bBbBbBbBbBbBbBbBbBbBbBbBbBbBbBbBbBbBbBbBbBbBbBbBbBbBbBbBbBbBbBbBbBbBbJiGkIiIiGkIiIiOcIiIi",
     "IiFbCgBdDbCiEcCiIkDbCneBbhQeBbglBActqBWbBdCbBbBbBgBcBkBbBbBbBbBbBbBbBbBbBbBbBbBbBbBbBbBbB",
     "bBbBbBbBbBbBbBbBbBbBbBbBbBbBbBbBbBbBbBbBbBbBbBbBbBbBbBbBbBbBbBbBiBbBeBmBMbBfBbtwdBbBbBbBb",
     "BbBbBbBbBbBbBbBbBbBbBbBbBbBbBbBbBbBbBtBbBbBbBbBbBbBbBbBbBbBbBbBbBffBbBbBbBbBbBbBdBbBbBbBb",
     "BbBbBbBbBbBbBbBbBbBbBbBbBbBbBbBbBbBbBbBbBbBbBbBbBbBbBkBbBcBbBbBbBbBeBeBbCcBbBbBbBbBbBbBbB",
     "bBbBlBbBbBbBbBbBbBbBeBbBcBdBfBbBbBbaBbhcBbcDCbeaiHmFbozBAbvhBOfgBKfzLbPbHbCcrbBZevWegoBGb",
     "gjwBGbulmBI"]),
   ("changeswhenuppercased", ["dtBAcgBbpYbIbBbBbBbBbBbBbBbBbBbBbBbBbBbBbBbBbBbBbBbBbBbBbBbBbBbB",
     "bBbBcBbBbBbBbBbBbBbCbBbBbBbBbBbBbBbBbBbBbBbBbBbBbBbBbBbBbBbBbBbBbBcBbBbDcBbBcBdBfBcBdDcBc",
     "BbBbBcBeBcBdBbBcBdBbBfCbCbCbBbBbBbBbBbBbBbCbBbBbBbBbBbBbBbBbCbCbBdBbBbBbBbBbBbBbBbBbBbBbB",
     "bBbBbBbBbBbBbBbBdBbBbBbBbBbBbBbBbBiBcCbBeBbBbBbBbGbCbBbCdCbEbFcBbCcBhBcBbCdGfBkCgkBbrBbBd",
     "BdDsBbbBJbCdDbBbBbBbBbBbBbBbBbBbBbBbFbBcBcBcaBWbBbBbBbBbBbBbBbBbBbBbBbBbBbBbBbBbBjBbBbBbB",
     "bBbBbBbBbBbBbBbBbBbBbBbBbBbBbBbBbBbBbBbBbBbBbBcBbBbBbBbBbBbCbBbBbBbBbBbBbBbBbBbBbBbBbBbBb",
     "BbBbBbBbBbBbBbBbBbBbBbBbBbBbBbBbBbBbBbBbBbBbBbBbBbBbBbBbBbBbBbBbBbBbxBNehcBRcDbdgGdfuJbBj",
     "eBdBqBekBbBbBbBbBbBbBbBbBbBbBbBbBbBbBbBbBbBbBbBbBbBbBbBbBbBbBbBbBbBbBbBbBbBbBbBbBbBbBbBbB",
     "bBbBbBbBbBbBbBbBbBbBbBbBbBbBbBbBbBbBbBbBbBbBbBbBbBbBbBbBbBbBbBbBbBbHfBbBbBbBbBbBbBbBbBbBb",
     "BbBbBbBbBbBbBbBbBbBbBbBbBbBbBbBbBbBbBbBbBbBbBbBbBbBbBbBbBbBbBbBbBbBbBbBbBbJiGkIiIiGkIiIiO",
     "cCBbCeBbBdDbCeBdEcCiIkDbCeBmzBbhQeBbglBActqBWbBdCbBbBbBgBcBkBbBbBbBbBbBbBbBbBbBbBbBbBbBbB",
     "bBbBbBbBbBbBbBbBbBbBbBbBbBbBbBbBbBbBbBbBbBbBbBbBbBbBbBbBbBbBbBbBbBbBbBiBbBeBmBMbBfBbtwdBb",
     "BbBbBbBbBbBbBbBbBbBbBbBbBbBbBbBbBbBbBbBbBbBtBbBbBbBbBbBbBbBbBbBbBbBbBbBffBbBbBbBbBbBbBdBb",
     "BbBbBbBbBbBbBbBbBbBbBbBbBbBbBbBbBbBbBbBbBbBbBbBbBbBbBbBbBbBkBbBcBbBbBbBbBeBeBbCcBbBbBbBbB",
     "bBbBbBbBbBlBbBbBbBbBbBbBbBeBbBcBdBfBbBbBbaBbhcBbcDCbeaiHmFbozBAbvhBOfgBKfzLbPbHbCcrbBZevW",
     "egoBGbgjwBGbulmBI"]),
   ("dash", ["btBcauBbzBfkjBbnpBdbdGcjBbnBpBpaBeoiBcBbfCeBbcBreBtBehBczwaCblBkBgnBfloBmgB"]),
   ("defaultignorablecodepoint", ["grBzxBbboBegwCckhCdhFdapFbaFbxQgkyBczmpQjfBgeBdbJctlnEhwxIbt",
     "kzlGBO"]),
   ("deprecated", ["mrBbyvBdktBbBdcjCdijGbavCbzrykB"]),
   ("diacritic", ["dqBbBctBgBeBcCtjGDbIfGrCeBjCjtFibBcdRbBBbBbCbBfeIeCfeCeCdDcpBBdnLcgLbiCewIbp",
     "KqBCcjBqBdEbcBcwBqBegBqBegBqBbvDciBqBhBepBegBqBegBqBefCqBeuBehBmGbBedBnFcxCbbBbBbBeCcoDbC",
     "ckBeiBbCboCeFzHbBkCbbdDbkmCbeBfsLjBnjDlgBuIcBbwPcLeaBpBbmJccCcgBlCcoCcmGdeZeBgBcDbyCLdlMb",
     "lLrdBbDlDnDnDnCexkDmfBtmGebEdrBbsmkBmCbBbcCdeCoBIdyDefCmBblBfvBbbScfEbkBdrBmBbkBftDcnEbzB",
     "dwFjDeyCbdzsBbdpQkkBbBbvBbtCcpBbdkBbtnGbBQbJynDeBgjCvzGbmBbaFpjDcsLbxEhkBbpBcuCeqCckBcyBj",
     "DeaCgwCdcCqByHdFdlDbCnCdrBdBetCjrCewBeoCelBkjCjyCeBgaBdfBsBddBqfBjyBbCddBqjCxBhyaPqzpBdsa",
     "FchHvsCvaRdcCygcEbHbClthBUcXuyDdGiIcHbeEfmwCKhmHolBcjEbdmCbciHefDbD"]),
   ("emoji", ["bjBgBfKehBeBlyrBmBiiBwBdmGpCodCmBgkBzLeDhrBixCkBjBcgEbFjBcBcCcBeBcBbCcBdBdCiDfBb",
     "BfMlCcBbCbBsBcCsGbBbCdCfBcCeClCfCcBfCbBbCuCfGbEcBeBcBcGbBcBbBbBgBdBgBkCpBcBeBbBeDbBlCbwDj",
     "BoBoBoiCrvDtCbzBeBbvuBmBxdBbBgmrqBhuBgeCmCoBcKcxBAbCxBuBcJvCgsBIcEIcCbDcDFcDbKDbCLlGbYhCc",
     "ImBcEcBeCnCcBiCjBfDmDiDcBbBeBgBdBgDIbwCSfIcDeKdBbCdBcKitMeBkxBVbKbHDeiNdKfCEhPcLgJ"]),
   ("emojicomponent", ["bjBgBfKmbjBifBdftrBdoiwBAtnFceaEbsvuqDS"]),
   ("emojimodifier", ["hhixF"]),
   ("emojimodifierbase", ["olhBilBqEgsjvBciDcBcDenCcLvTdBeDbDhBbByBhtCeBvBeCgsDdFdfBqDjBlBwdBcB",
     "iIgBjKcDceBcjCbCbBrDbNivDbqJ"]),
   ("emojipresentation", ["nhqChxEdBcBubCvCbyMbrBtBnBiCrCfCiBfBvBhCbBeBcBhBeCbcBbjBbBeDbBcjDyBo",
     "BbhbCbzBeBgpleBhuBhiBcKcxBAbByBuBcFbDvCgsBHmJbCSbWmBReFmRdBdCTbBbHFcCLnEbYsBbaCnBdiDHbwCS",
     "gBdDcDeElChJitMeBkxBVbKbHDeiNdKfCEhPcLgJ"]),
   ("extendedpictographic", ["gnBeBlyrBmBiiBwBdmGpCodCmBdrBcsBzLeDhrBixCkBjBcgEbGbMbEKkEOcLbBbB",
     "gBdBgBkCpBcBeBbBeDbBlFbtDjBoBoBoiCrvDtCbzBeBbvuBmBxdBbBgmrmJWnDbfBciGmCoBcKsCFbbPkBuBcJbE",
     "jQSfMGiKGbwEYemMdhBRmEceIkGboIbeDEmBVbKbQZjwBNI"]),
   ("extender", ["hbBuqCbhuBqzBygBfhBdlBbcyBexBdnfBceBxnBpiBcqBhkjBbrFdzCdpDbqbuBcgsBblaBwBfhBe",
     "eBvCbfzvBdbkCcfbBbbBeBbvbBlhBemCteDbvjBbeofCbtkCbBbqyaCbufBbguD"]),
   ("graphemebase", ["bgDRbhNbWWeiIcGeHbBbUbIQhGKbBMcBYcDbuBbBcBcBjBBeGrKlBbBUvQbDXiBgCcBeBGcBb",
     "BEbdDLlBoBRjHdYeBjBdBhPbZfBbLfBFrBQcfCDbBbEiEbDhKcBDbCbIcCcWbHbBdEdBbCgCcCbBnCbDeYfBbGeCc",
     "WbHbCbCbCeDyEbBhKcDbBmBbJbDbWbHbCbFdEiBbCdBpCeMhBiCbIcCcWbHbCbFdBcBgCcCpCbDeSlBbGdDbEdCbB",
     "bCdCdDdMfBbCdDbDdBvVgDbIbDbXbQdBdEtDcBcCeKhKbLbDbXbKbFdCcBbCyCbCeKbDoLbDbBPcBbCfDbDbCeDbK",
     "eBAcCbSdYbJbBcHjCgHhKcDmBWbClIiNblCbBbFbYbBbKbCjBcFbBjKcEbgYcBBbBbBbObBKsBfBcFbxIbGbNblBT",
     "eBgBcCcZcEdQeNbCcGbPbBObBfBcONbEcHbBbEcBPbEcBHbEcHbBbEcPbCFbEcCPfBDdBAgDIcGcZTdDLhSnTdCjS",
     "oNbDpCAcBhIbClJdKgKgLfKgDLhFcBIbBfCSkBFeEcDeCbGhBdBQcFlBSeBAgLdCFcCdCEbBjBbCiGnKgKgOdiBWk",
     "EdIbBDjMcBGeCgCEbBcDbBnBWiCfPdCKfBRcLlBnBhEbGbDcBfHKcmKScGcBMcGcIbBbBbBbBFcCBbPbOcGbTcDbJ",
     "bLfYhBXqCcBBbNdBHclFKeZQwLvCRScBGbNGdCfBTbBfBcCEhCpXjHbHbHbHbHbHbHbHbhDQbiBAbDLmIGbaCGgQb",
     "DIeDXfBRbDQbDIjBWbBRIRdCDjNKuBVeBkBGcDCcGiHYcCbBbIvQbDbEbZcFeKgCEiCQkMyNbBMiZlBmBEgBWbCeC",
     "cCbNbLeHbZbBPgCcClDbIbBcKcBGbBZbBdCcFcBbByRcIlGcGcGjHbHbCIeENbCbEdKgQNSmXeBXmncOCcECbmHmF",
     "fBbYbFbBbCbCbEVqRDcCChBbgQqKwBJbTbEeFbFFeGBcBFdGcGcGcDdHbHnCcMbBAbTbCbPcObiETfDeBTdDKbNdB",
     "bvBTfbBDdBXqBBeBKjBEfBMkBEbBLeObqGCcKgBKeBKeBOiCAlMbPbHbCbLbPbHbCdCAmLZjWkIyGbBQbJcrGcBbB",
     "SbCdBcXbCUiJbwTbCfBHdBBfBcmCEeUcBVpEbDbBDkJhJhCMbgBLgMjCCdBDcBBfBAhEmHdcCVcdBZnBZhBQmKgBM",
     "iYiCiaBFbBQdBcCqDchBOiWlJwSeEbmBCuXjBbCCpHeBEbCcBmBXeCcCbEoZhKjBKfBjSiBJbDlCAjBbIeCbQbUlS",
     "bBCdCeGbCclHbBbEbPbLgBVbDnKiCbIcCcWbHbCbFdBbBbEcCcCdBmHbcKbBcBbBMbBbCpBbCdBbDbCbnCEiCdBbV",
     "bBbDbeBWbCgBbCbBcBcEiKgkBVbCgEcBcBBbkBZiCbBcElKgNtBRbBbCiCgKgUbcBBdBbCeBjXhdBVjBcBdwDFmIc",
     "BcIbCbYbFbCgEbDjKcsIcBQiEbEbbBkBOgCeIjBgCdBUnBcJnCVhKhaBIoKgJbBMoBbGkBDdBGzBhBcBcxHbCbBMv",
     "BjKgGbCbBLeCbBbBhKlyTcEjPbBKiCdXdiBpBYnBJNdyEHbFlHOdxkDVnBPGrGzFXRfWLkddBEmDdKcosVXhBFbKe",
     "DDbKgBEhBkBWhPkKbHbVfTqqCGhqDNdxCXfCElNcmEbcJCAiBVQbpKnfrEbHbCbLFpBbdDcBoEiPGdkuEDfNdJhKc",
     "BcBfvkJQgQUgaEMciJMkBNcCIfDwChBEeCJvCOdBesUmUmDJjZffDHbCTbCcBcCcEbMbBbHbCNbEcIbHbBCbEbFbB",
     "dHbNCcLGcVQcdEbyIbObHbrwBFgGkbCKfqBTkHcKeCmiBEsBSeKfBrwBCeKigBEcLeBsmHbEbCbPbHPcJbwCQhBeK",
     "eCbefCQcyCJhmEbBBbCbBcBbKbEbBbBgBeBbBbBbDbCbBcBbBbBbBbBbCbBcEbHbEbEbBbKbRfDbFbRcaCkkBSeDW",
     "mPcPbPbBLkGSceBDnBSeJhCoGfyBLWeRdNdEPeDRgMeBpMeCEiKgBOiBEcMeCckNCmOcNdKfCEhPcLgJhFRbDYbnq",
     "CLFCbgGDUgIOcINQoLBLpXYdqwUWcfyHHZfGFG"]),
   ("graphemeextend", ["bdoEIkpHkdBTbBbCbCbBcuLbwVqBdxHcGcCbEbjBbeBBdnLcgJjByEbJbDbFbrDchJbqYbB",
     "GcdBbBeIeBdHkCbdBcgBbBcEiBjBkCbaBcCcfBeCeCcDdBbeCdBlCcfBeFbCeBuCwGbBcgBbCbEiBhDkCbeBchBbB",
     "mBjBboBdBcdBbDfDbEhClCbdBcgBcCbBdDbEhClCbcCcfCbBcEiBjBkCbdBcuBeBcDbBiBddBcHmIduBcJlHcvCbb",
     "BbBbBcdObFbCfLbBKjBdyEbGbCcCzCeDqEnBcCgBpBbbbDbkkEbcDbdCbeCcmCbHiBcLjBbtDbBenCbiBeoDeCjBg",
     "DilCcBcgBbHbBbBcIgKcBbwBFbxEbwKeDbmJmCbgEcGceBbCdBbFceIcCfwDbNbHeBgBdChqCMueBhnBHeocDflBd",
     "sBGviGebCbsqeEbKbgCdcCkmBdBeBzCfBfvCbaSnBbmIzLbBbsDbwBcEcCcBbkBcpGcCcCmBiBbvBbzBbDcCfCbBb",
     "qCiBjeBcBeBbdzsBbcjQqQocCxhBisBftFcmgDbCfEboDeBgjCwbEcnFmfCdbEcsLbxEetBccPbpBcCkDbxEcChBc",
     "jDbkFbIckBmCcaJbBiEcBdrDcEgBcBgbBdIvCcfCbBbBmBjBoHdFcpBcGbBcBbDeDbBoCdhIcDbBxBddBcGbBcBbC",
     "bCjbBcEgCbCbbCdhIcBbCecBbBcIdxBbBcEbFjzJbCjlBkEeBfoEcCeBbgKboGcEiBjGcDbuNbCpqHbGbBdeWcHbC",
     "bCesGdBbCbHbBcuCdBbBnjClCcaFfDxBhxtBgPqyyMdDdsaFchHboiBclEddBlCbdaxCgyzBUcXuwFdGiIcHbeEfs",
     "DcydCDeBYiBoBwFbPcaiHbRcHbCbFdwBgeHolBcjEtoEjuCbciHefHbtcafDSeyJG"]),
   ("graphemelink", ["dnpBexBexBexBexBexBexBexBefCqBeuBehBexBhtBgyCcplCbeBgbBzdBitBdxCcsCgqtBbu",
     "kkBblBfvBfmBeeBlxBjmBbjsrBchiBbpBoBcfBerCfjBemBgyBduBeyDejBexBjsBexBeoBemBkjBjzCgfBdfBsBd",
     "dBqfBkaCddBqjCyzcB"]),
   ("hexdigit", ["bwKhGbaGdsllKhGbaG"]),
   ("hyphen", ["btBexBbvwBgzzBdbdCfibBbclBczulBgnBdjB"]),
   ("idcompatmathcontinue", ["gwCfBmagBdLbPohBeBwBgjjeBzBbfBzBbfBzBbfBzBbfBzB"]),
   ("idcompatmathstart", ["mwwBeBwBgjjeBzBbfBzBbfBzBbfBzBbfBzB"]),
   ("idcontinue", ["bwKhBAeBbBAbvBkBbBcBfXbBFbRQeMoFhBbBrENbCcEbBgFbBbUbDFbFJbFcGKbBMcBgBPiBTbB",
     "bCbCbBiBBeEbdLfCWeDYbIcKbTcBqCHcDXoCCeBcBcBUsBCeLfYbGiCXbEZcKbTbIcCcWbHbBdEcJcCcEiBeCbFcM",
     "kBbBcDbGeCcWbHbCbCbCcBbFeCcDdBhEbBhQlDbJbDbWbHbCbFcKbDbDcBpEcKjHbDbIcCcWbHbCbFcJcCcDhDeCb",
     "FcKbBqCbGdDbEdCbBbCdCdDdMeFdDbEcBgBoKqNbDbXbQcJbDbEhCbDcBcEcKqEbIbDbXbKbFcJbDbEhCgCbEcKbD",
     "mNbDbBZbDbFfEhFcKkGbDbSdYbJbBcHdBeGbBbIgKcCnCGfPbKbnCbBbFbYbBbXcFbBbHbKcEbgBxCgKlBbBbBeKb",
     "BKeUbSbBKjBcfCWgDAcBMbBfBcBRbMVbEcHbBbEcBPbEcBHbEcHbBbEcPbCFbEcCPcDjJoQqDIcGdXWcRbBAfCXdL",
     "hWjWlUmNbDbCmDGdBeCcKbhDbLgDLhBRfCSkBFbMeMkBOcFlBSeBAgLblBCeCLbBDcLgKnBiObQbxCZdKrJmEMmCE",
     "iKdBXcLfBRcDqDbBNfUOcGcBMcGcIbBbBbBbBFcCBbHbBdDbHdEcGeNfDbHpCbxCtBbcBnBqNbzNeBdMrBeBcKbBc",
     "GgBbBbBbQcEfFeBrBPdzbIVgJmBMbBfBcCEhBpYjHbHbHbHbHbHbHbHbBGtxDzPbFcFeDIcHbDRfBRbDQrBGbwQts",
     "JTOcmBGUFcpBUcKJdBCuBWeKbELblJcDZcCPcCbBbIvCCeBtCAmCSkKgYdBbBXcBKmBDdCNoLgBFbCDjOcKgXdCVy",
     "DcQcFkGcGcGjHbHbBRbOgETbCcKgQNSmXeBXmncOCcECbmHmFfMbNbFbBbCbCbEEbhNZsCMcCCboMeQqQdCyDbgFb",
     "FFtKhBAeBbBAkDMdGcGcGcDbjMbBAbTbCbPcObiETcrCBfgBfaBDdBXpBbfBGnBEfBRfBEcBKeIbFbqGCcKgBKeBK",
     "eBOiCAmLbPbHbCbLbPbHbCdCAmLZjWkIyGbBQbJcrGcBbBSbCdBcXkXjBFcnTbCkWkBAcsCEgCcmEbCfIbDbBDcDe",
     "BbgBDdBDbjIbBEzCCkWkTnSegCVcdBZnBZnBOiKgBMdFbXjqBQbCdCqDcdBHkBiBHbfWbqVbbXjCTbfQjCIhBnZhK",
     "gCBbKeEiBKcBjCReEbNbBbjSbBLgEckHbBbEbPbKhCHfKgEbIcCcWbHbCbFbKcCcDcBgBfHcHdFlKbBcBbBMbKbBc",
     "BbEbInCbdCXfKeEbeCSbBiKgkCCcJxGbiCNdBlKbmCFhKgUbcBBcPeKgHhdCHdxCWvIcBcIbCbBEbCcJmKcsIcBUc",
     "IbCbbCLiBiCWdBsCVhrBHpKgJbBTbJpKyBEcWbOcvHbCbBSdBbCbJiKgGbCbBLbCbGhKlyXjRbBPdFnLdhBdbBJMd",
     "yEHrHOdxkDTpBPGqWkFXRfWLkddCGcosVXhBFbKgDBbKgBEcFlCDjEmKjVfTqqBTdKhqCMeyCXeCFhRcmCbClCoJC",
     "AiBVQbpKnfrEbHbCbLFpBbdDcBoEiPGdkuEDfNdJhKdCgerKtyBUcXuwFdGiIcHbeEfsDrbDHbCTbCcBcCcEbMbBb",
     "HbCNbEcIbHbBCbEbFbBdHbNCcZbZbBFbZbBFbZbBFbZbBFbZbIcBYtsCDeBYiBoBwFbPbqmBFgGifHbRcHbCbFfCK",
     "bhBeiBTdOcKeBmjBFrCGscBQigBRsrHbEbCbPbHPlHbpCYeKbtuEbBBbCbBcBbKbEbBbBgBeBbBbBbDbCbBcBbBbB",
     "bBbBbCbBcEbHbEbEbBbKbRfDbFbRfaaKbnqCLFCbgGDUgIOcINQoLBLpXYdqwUWcfyHHZfGFGbonhgJG"]),
   ("ideographic", ["sewCzJoDbldJTOcmBFBKbhsiOCcECbsikBbbJCAiBVQbpKnulPGbdeiCLFCbgGDUgIOcINQoLB",
     "LpXYdqwUWcfyHHZfGFG"]),
   ("idsbinaryoperator", ["seaCcKtdB"]),
   ("idstart", ["cnBAgBAbvBkBeBfXbBFbRQeMoFhBbBezFbCcEbBgBbDbBbUbDFbFJiGKbBMcBgBPctBBeEbtBRbjCb",
     "DVbBpChCkDcBqBbBEbdDLlByBHjCeBfWeBjBdBxZhLfYbGrBQcgCCdBsBhKpQeIcCcWbHbBdEdBqBnCbDoCkBiGeC",
     "cWbHbCbCbCbfEbBtDqJbDbWbHbCbFdBsBpCxBlIcCcWbHbCbFdBbeCbDpBrBbGdDbEdCbBbCdCdDdMwBcaIbDbXbQ",
     "dBbaDcBcCbeBeIbDbXbKbFdBbfCbCpCrJbDbBPcBqBfDiDyGfSdYbJbBcHcgBWbCmHcgCbBbFbYbBbKbCjBcFbBvE",
     "bgBclIbBKbbFelBRuBqGeEdBdChDeNmBrBMbBfBcBRbMVbEcHbBbEcBPbEcBHbEcHbBbEcPbCFbEcCPblQqDIcGdX",
     "WcRbBAfCXdLhSnToSoNbDpCAbjBeBcpDLhBPbBfCSkBFbxBEcFlBSeBAccXjCBdeBdpBVrIccBEnCkBSbaBKbpDkB",
     "KcLfBRcDbpEbGbCdBfHKcmKScGcBMcGcIbBbBbBbBFcCBbHbBdDbHdEcGeNfDbHemBnBqNdxBeBcKbBcGgBbBbBbQ",
     "cEfFeBrBPdzbIVgEdCmBMbBfBcCEhBqXjHbHbHbHbHbHbHbHveDzJhFcFeDIeFbDMbEfBRbDQrBGbwQtsJTOcmBGU",
     "FcpBUcKJdQkCuBVqBFcDCbnJcDZcCPcCbBbIvQbDbEbXbdCAoBYckGdBbClBCkXzBDhBVbcBqFbKkFbBPxDbIuXdB",
     "dBYbBdCcFcBbByDcLhDmGcGcGjHbHbBRbOgELbdQNSmXeBXmncOCcECbmHmFfBbKbNbFbBbCbCbEEbhNZsCMcCCbo",
     "MemFbFFbkBAgBAlDLdGcGcGcDbjMbBAbTbCbPcObiETcrCBkhBDdBXbvBGnBEfBMkBEcBKeIbFbqGCsBKeBKeBOiC",
     "AmLbPbHbCbLbPbHbCdCAmLZjWkIyGbBQbJcrGcBbBSbCdBcXkXjBFcnTbCkWkBAcsCEgCcmBpEbDbBDbqBDdBDbjI",
     "bBCbbCCkWkTnSegCVcdBZnBZnBKbmBCjXjqBQgCqDchBDkBiWbqSbuVbbXmCBcfCcBnBTbgZbaBKbdBcBiBJdBmBW",
     "oEvBbBbjSbZtCclHbBbEbPbKhBVbmIcCcWbHbCbFdBsBmFbeKbBcBbBMbBzBbBbsCBsEuDbeBWuCbBhcBVbpEbkBW",
     "uBchBRnBctBBblHhdBSemCMbfIcBcIbCbYpBbBdqIcBNqBbBbcBkBOhBvBlBUtBsCVhrBHbfJbBLrBbxBEeiHbCbB",
     "MvBzGbCbBGoBmpTpBbNbBIeuBdbBJMdyEHrHOdxkDTpBPGrGzFXRfWLkddBEcpuVXhBFrDBrBEsBWqEbfVfTqqBTi",
     "dCMeyCXfBcoNcmCbBbcJCAiBVQbpKnfrEbHbCbLFpBbdDcBoEiPGdkuEDfNdJhKiwkDHbCTbCcBcCcEbMbBbHbCNb",
     "EcIbHbBCbEbFbBdHbNCcZbZbBFbZbBFbZbBFbZbBFbZbIcsyBFgGkbCKfqBTkHqBmjBEsBSsqBCiuBEcBtbHbEbCb",
     "PbHPchCQhBbuiEbBBbCbBcBbKbEbBbBgBeBbBbBbDbCbBcBbBbBbBbBbCbBcEbHbEbEbBbKbRfDbFbRgoaCLFCbgG",
     "DUgIOcINQoLBLpXYdqwUWcfyHHZfGFG"]),
   ("idstrinaryoperator", ["secC"]),
   ("idsunaryoperator", ["seoC"]),
   ("joincontrol", ["mdoC"]),
   ("logicalorderexception", ["fkiFetFedsDcBccxmCcBbC"]),
   ("lowercase", ["dtBAbvBkBeBbkYbIbBbBbBbBbBbBbBbBbBbBbBbBbBbBbBbBbBbBbBbBbBbBbBbBbBbBbBbCbBbB",
     "bBbBbBbBbBbCbBbBbBbBbBbBbBbBbBbBbBbBbBbBbBbBbBbBbBbBbBbBbBcBbBbDcBbBcBdCeBcBdDcBcBbBbBcBb",
     "CbBcBdBbBcCcDgBcBcBbBbBbBbBbBbBbBbCbBbBbBbBbBbBbBbBbCcBbBdBbBbBbBbBbBbBbBbBbBbBbBbBbBbBbB",
     "bBbBbBbBbBbBbBbBbBbBbBbBbBbHcBcCbBeBbBbBbBbCRbBKhCbeFdsBbrBbBdBcEsBbbBJbCdDbBbBbBbBbBbBbB",
     "bBbBbBbBbFbBcBcCbzBWbBbBbBbBbBbBbBbBbBbBbBbBbBbBbBbBbBjBbBbBbBbBbBbBbBbBbBbBbBbBbBbBbBbBb",
     "BbBbBbBbBbBbBbBbBbBcBbBbBbBbBbBbCbBbBbBbBbBbBbBbBbBbBbBbBbBbBbBbBbBbBbBbBbBbBbBbBbBbBbBbB",
     "bBbBbBbBbBbBbBbBbBbBbBbBbBbBbBbBbBbBbBbBbwBPehbBRbEbdgGdfuJbBenHKcnBbBbBbBbBbBbBbBbBbBbBb",
     "BbBbBbBbBbBbBbBbBbBbBbBbBbBbBbBbBbBbBbBbBbBbBbBbBbBbBbBbBbBbBbBbBbBbBbBbBbBbBbBbBbBbBbBbB",
     "bBbBbBbBbBbBbBbBbBbBbBbBbBbBbBbBbBbBbJbBbBbBbBbBbBbBbBbBbBbBbBbBbBbBbBbBbBbBbBbBbBbBbBbBb",
     "BbBbBbBbBbBbBbBbBbBbBbBbBbBbBbBbBbBbBbBbBbBbBbJiGkIiIiGkIiIiOcIiIiIiFbCgBdDbCiEcCiIkDbCer",
     "BnBqNefBdCdBbbBeBeBcCiEeBbhQeBbglBActqBWbBdCbBbBbBeBbCbIdBbBbBbBbBbBbBbBbBbBbBbBbBbBbBbBb",
     "BbBbBbBbBbBbBbBbBbBbBbBbBbBbBbBbBbBbBbBbBbBbBbBbBbBbBbBbBbBbBbBbBbChBbBeBmBMbBfBbtwdBbBbB",
     "bBbBbBbBbBbBbBbBbBbBbBbBbBbBbBbBbBbBbBbBtBbBbBbBbBbBbBbBbBbBbBbBbBbDfdBbBbBbBbBbBbDbBbBbB",
     "bBbBbBbBbBbBbBbBbBbBbBbBbBbBbBbBbBbBbBbBbBbBbBbBbBbBbBbKbBbBcBbBbBbBbBeBbBcBbDbBbBbBbBbBb",
     "BbBbBbBbBfBfBbBbBbBbBbBbBbBeBbBcBdBbBbBbBbBbBwDbBbDbfpBRbOgDCbeaiHmFbozBAbvhBOfgBKfzLbPbH",
     "bCrjBcDbBQbJbxlBZevWegoBGbgjwBGbmmkBAbaHbSbaBAbaEbBbHbLbaBAbaBAbaBAbaBAbaBAbaBAbaBAbaBAba",
     "BCbcZbGbaZbGbaZbGbaZbGbaZbGbBcsyKbUgGkbCKdhsBI"]),
   ("math", ["brBqDbfBbdBbBbtBeBblBbfBbcaDcBbaCcDuhDjwnBbbDlBdBnBoEvFlFcnNeBdCeFsBeBcKbBcGgBdCc",
     "CbDbGdObBcqYbGbCeCeBGbBgCoKIiEuCdmBbeBBbByBlHrdCmKeGeCcCdFoBbBcGlIfCcfBbBbdEjDmyCMjwTSbwV",
     "cGdasqBbfrGbBggBqDbdBbBbdBbBfbBgEfefCcxdwDHbCTbCcBcCcEbMbBbHbCNbEcIbHbBCbEbFbBdHbNCcLGcBY",
     "iiqEbBBbCbBcBbKbEbBbBgBeBbBbBbDbCbBcBbBbBbBbBbCbBcEbHbEbEbBbKbRfDbFbRcaC"]),
   ("modifiercombiningmark", ["ckiCcBfbBgBdCsnCbDdBbfB"]),
   ("noncharactercodepoint", ["dsdcBGugCdsyoCdsyoCdsyoCdsyoCdsyoCdsyoCdsyoCdsyoCdsyoCdsyoCdsyoC",
     "dsyoCdsyoCdsyoCdsyoCdsyoC"]),
   ("otheralphabetic", ["bgfBbdNweObBbCbCbBcuLbwNbHqBdxHeEcCeBbjBbeQdyLdxCdJbDbEecBciMdHgUccCcP",
     "bCfDkCbdDcgHcCcCkBkCbdDcgFeCcCeBbeCdBlDcgIbDbCvCwDeDcgHcCcCjCkCbeBchFdDbDkBboFcfHbDbDiClC",
     "bdDcgHbDbDiClCpBmEcgHbDbDkBkCbdDcxGbBbIsCcjBcHsBdvBcGbCqBghTjLbBKegMbBcExEeDbDcHdEnMbBkEc",
     "loCbeCbeCbeCcoThgCbiBeoMeJioFcfKcUcwClDbxFbwPciDbeJcCcfLbyTpwBIconCAdkgBGbtqaIbiCnqBiBxFd",
     "kCbyQbBcfBbmFbcMbtEbwMblBcpOmBiCbtDbyBbDcCfBbsFfBjdIbdzvBdedFcmgDbCfEbeiEcnBmjCdbBjzDcbOb",
     "tClDbtJjBcjDbkMsCcfDbwNoCdoJcBgBcBgbKxEcgHcCcCkBkCdgJbBcBbEbCdzNbDecSjdHcHbdCdePbBecLdzOj",
     "xNjnGbCcCdBbBfmHcGeBbcKbqFbEsLbuOprIbHdfWbOesGdBbCbDbBdBcoFbCbEnkEjCbBbwHdDyynRfjcBbCDhEd",
     "pCbdayBnkjHbRcHbCbFdwBdhvBczwBAgBAgBA"]),
   ("otherdefaultignorablecodepoint", ["bgpBfilCckhCdhnBgliBdacpBdbJbwmihBbBEdsEYjgFIM"]),
   ("othergraphemeextend", ["dryByBnuByBdyByBiyBbBeCbCjCdzByBepBpBdmrBbeBbnkBfBbBfCdxBctCboiBgc",
     "vCbtwtBeeBbgnlCgwmBemBkeBoBjBdsBjBcBbDfBiqBmBjhBkcByjBmBchfBbeokCbkxnCgGbtlazDS"]),
   ("otheridcontinue", ["hbBbbrBgajJclcBcizCgkrBdaejB"]),
   ("otheridstart", ["jhlCdgjBvBfvwC"]),
   ("otherlowercase", ["goBpBthJhCbeFdsBcaBfczBepzCLnBbiBLbanBnBqNidQbgqBAcwoCbugkCicBezDdCbhiE",
     "jBbiwsBcDbBQbJddzhCK"]),
   ("othermath", ["dqBbhxDcBbaCcCkqyBbbDlBbgEyCoCcnNeBdCeFsBeBcKbBdFgBdCcCbDbGdEfFcxFcEbCbCbBbF",
     "cCeCeScCbBbHbBgCleEgmCbByBrBrdCmJfFfCcCdFoBbBcGyCcfBbBbdEjCneCbfKpnWclEbgCdclfBbBeBidBbBd",
     "covDHbCTbCcBcCcEbMbBbHbCNbEcIbHbBCbEbFbBdHbNCcZbZbBFbZbBFbZbBFbZbBFbZbIcBYiiqEbBBbCbBcBbK",
     "bEbBbBgBeBbBbBbDbCbBcBbBbBbBbBbCbBcEbHbEbEbBbKbRfDbFbR"]),
   ("otheruppercase", ["mqqQbggBAgsiyBAgBAgBA"]),
   ("patternsyntax", ["bhPkHbaEbBbaEbiHbBbCbBbCeBeBdBxBbfBlueYiPcTbKltBBSgeYGbeBROtsEYovDeZpBcz",
     "qzCkbC"]),
   ("patternwhitespace", ["jFsBdwBlymCyC"]),
   ("prependedconcatenationmark", ["chcGihBbxBouCdcBdvxyBpB"]),
   ("quotationmark", ["biBeBfbBpBlwuIzCfidBrpEnDdabpEhhBeBdmC"]),
   ("radical", ["rpwBAbDLmIG"]),
   ("regionalindicator", ["hgokBA"]),
   ("sentenceterminal", ["bhBmBqBcabBfrDgyBbrDjmBcjBbBdClhCcpwCbekBeCbdtBhqCgbCbtBfBmcCnqEggCkC",
     "cCbdDhfCcnCbjwBxCjDeuxDluBnBwCqnBbshwBkkCitBdBosCdiCdrBfwCfrDfoCjpBbfcwBcCchBdCgnBmBqBcnB",
     "edwCbxdFbsEhhCenEexDezCgBqCdkCbCeeBlmCenCojCfPebCjpDtxBbBjrCdjCqeCbaqCcwCbcmbCfdBcnClBvhC",
     "lkBbdogBlimB"]),
   ("softdotted", ["ebChoBkvBbeBcaBuBmiBduBbBjmnBbzBnBdBfcBgbBqfBigCeggBgelhCbyCbyCbyCbyCbyCbyC",
     "byCbyCbyCbyCbyCbyCdfyBltCbaB"]),
   ("terminalpunctuation", ["bhBkBbBlCdBbfyBiBttBcfBcuBoBbDgyBbrLbBjbCccGbIbfBkbCbwuCgqBeGlzCbe",
     "jIbdtBeuDctCgbDdBbnEcCmcCnqEggCkCbDbdDhfFckCbjwBxCjDeuxDluBnBeBkBbCdCqmCbshvCkjDitFosCdiC",
     "drBfvDfrDexBqCjpBbfcwBcCcfDbEgnBkBbBlCdBcnBcBbpqBbwBbsoBhrBlyCfwGcqGdlEbkqFbsEhhHeiEexDez",
     "CgBqCdkFeeBlmCenDmCnuEdPebCjpDtxBbBjrCdjCeCpyDbtByvCcwCbyxFbamzCfdBcnDkBvhCljCbdogBlilE"]),
   ("unifiedideograph", ["tsaJTOcmBFBKbicsCbBbCkBbBbCcDdvecCLFCbgGDUgIOcINQoLBLpXYgrqHHZfGFG"]),
   ("uppercase", ["cnBAdxXbHbhBbBbBbBbBbBbBbBbBbBbBbBbBbBbBbBbBbBbBbBbBbBbBbBbBbBbBbBcBbBbBbBbB",
     "bBbBbBcBbBbBbBbBbBbBbBbBbBbBbBbBbBbBbBbBbBbBbBbBbBbBbCbBbBdCbBbCbDcEbCbDdCbCbBbBbCbBcBbCb",
     "DbBbCdBhBcBcBcBbBbBbBbBbBbBbBcBbBbBbBbBbBbBbBbBcBcBbDbBbBbBbBbBbBbBbBbBbBbBbBbBbBbBbBbBbB",
     "bBbBbBbBbBbBbBbBbBbBbBhCbCcBbEbBbBbBbBldBbBdBiBgBbDbBbCbRbJbjBcDdBbBbBbBbBbBbBbBbBbBbBbBf",
     "BcBbCcBZbwBbBbBbBbBbBbBbBbBbBbBbBbBbBbBbBbBjBbBbBbBbBbBbBbBbBbBbBbBbBbBbBbBbBbBbBbBbBbBbB",
     "bBbBbBbBbCbBbBbBbBbBbBcBbBbBbBbBbBbBbBbBbBbBbBbBbBbBbBbBbBbBbBbBbBbBbBbBbBbBbBbBbBbBbBbBb",
     "BbBbBbBbBbBbBbBbBbBbBbBbBbBbBcBMehdBMbBfBbbuDIdglBgBRcDmiBbBbBbBbBbBbBbBbBbBbBbBbBbBbBbBb",
     "BbBbBbBbBbBbBbBbBbBbBbBbBbBbBbBbBbBbBbBbBbBbBbBbBbBbBbBbBbBbBbBbBbBbBbBbBbBbBbBbBbBbBbBbB",
     "bBbBbBbBbBbBbBbBbBbBbBbBbBbBjBbBbBbBbBbBbBbBbBbBbBbBbBbBbBbBbBbBbBbBbBbBbBbBbBbBbBbBbBbBb",
     "BbBbBbBbBbBbBbBbBbBbBbBbBbBbBbBbBbBbBjIiGkIiIiGlBbBbBbBiIcuEmEmEmFlEkcBeBdDcDcBdFgBbBbBbE",
     "cEkCfBbaQtBbfmBAcsuBWbwBbDcBbBbBbEbBcBiDbBbBbBbBbBbBbBbBbBbBbBbBbBbBbBbBbBbBbBbBbBbBbBbBb",
     "BbBbBbBbBbBbBbBbBbBbBbBbBbBbBbBbBbBbBbBbBbBbBbBbBiBbBeBbtyjBbBbBbBbBbBbBbBbBbBbBbBbBbBbBb",
     "BbBbBbBbBbBbBbBtBbBbBbBbBbBbBbBbBbBbBbBbBbBffBbBbBbBbBbBbBdBbBbBbBbBbBbBbBbBbBbBbBbBbBbBb",
     "BbBbBbBbBbBbBbBbBbBbBbBbBbBbBbBkBbBbCbBbBbBbBeBbBcBbBdBbBbBbBbBbBbBbBbBbBbFbFbBbBbBbBbBbB",
     "bBbEbBbCdBfBbBbBbByBbhahBAbuzBOfgBKgaLbPbHbCcqcBZgbWegoBGbgjwBGbmmqBAbaBAbaBAbaBbCcBcCcEb",
     "IbaBAbaCbEcIbHbbCbEbFbBdHbbBAbaBAbaBAbaBAbaBAbaBAbeZbhZbhZbhZbhZbhBgnlBIdbiBAgBAgBA"]),
   ("variationselector", ["jctDbBdjcaQbwnkyJG"]),
   ("whitespace", ["jFsBdwBbaBihjBdpnLbdCfBbvBfxwB"]),
   ("xidcontinue", ["bwKhBAeBbBAbvBkBbBcBfXbBFbRQeMoFhBbBrENbCdDbBgFbBbUbDFbFJbFcGKbBMcBgBPiBTb",
     "BbCbCbBiBBeEbdLfCWeDYbIcKbTcBqCHcDXoCCeBcBcBUsBCeLfYbGiCXbEZcKbTbIcCcWbHbBdEcJcCcEiBeCbFc",
     "MkBbBcDbGeCcWbHbCbCbCcBbFeCcDdBhEbBhQlDbJbDbWbHbCbFcKbDbDcBpEcKjHbDbIcCcWbHbCbFcJcCcDhDeC",
     "bFcKbBqCbGdDbEdCbBbCdCdDdMeFdDbEcBgBoKqNbDbXbQcJbDbEhCbDcBcEcKqEbIbDbXbKbFcJbDbEhCgCbEcKb",
     "DmNbDbBZbDbFfEhFcKkGbDbSdYbJbBcHdBeGbBbIgKcCnCGfPbKbnCbBbFbYbBbXcFbBbHbKcEbgBxCgKlBbBbBeK",
     "bBKeUbSbBKjBcfCWgDAcBMbBfBcBRbMVbEcHbBbEcBPbEcBHbEcHbBbEcPbCFbEcCPcDjJoQqDIcGdXWcRbBAfCXd",
     "LhWjWlUmNbDbCmDGdBeCcKbhDbLgDLhBRfCSkBFbMeMkBOcFlBSeBAgLblBCeCLbBDcLgKnBiObQbxCZdKrJmEMmC",
     "EiKdBXcLfBRcDqDbBNfUOcGcBMcGcIbBbBbBbBFcCBbHbBdDbHdEcGeNfDbHpCbxCtBbcBnBqNbzNeBdMrBeBcKbB",
     "cGgBbBbBbQcEfFeBrBPdzbIVgJmBMbBfBcCEhBpYjHbHbHbHbHbHbHbHbBGtxDzPbFcFeDIcCcDbDRfBRbDQrBGbw",
     "QtsJTOcmBGUFcpBUcKJdBCuBWeKbELblJcDZcCPcCbBbIvCCeBtCAmCSkKgYdBbBXcBKmBDdCNoLgBFbCDjOcKgXd",
     "CVyDcQcFkGcGcGjHbHbBRbOgETbCcKgQNSmXeBXmncOCcECbmHmFfMbNbFbBbCbCbEEbhFJgIKsCMcCCboKgQqQdC",
     "yDbhBbBdBbBbBbBbEWtKhBAeBbBAkDMdGcGcGcDbjMbBAbTbCbPcObiETcrCBfgBfaBDdBXpBbfBGnBEfBRfBEcBK",
     "eIbFbqGCcKgBKeBKeBOiCAmLbPbHbCbLbPbHbCdCAmLZjWkIyGbBQbJcrGcBbBSbCdBcXkXjBFcnTbCkWkBAcsCEg",
     "CcmEbCfIbDbBDcDeBbgBDdBDbjIbBEzCCkWkTnSegCVcdBZnBZnBOiKgBMdFbXjqBQbCdCqDcdBHkBiBHbfWbqVbb",
     "XjCTbfQjCIhBnZhKgCBbKeEiBKcBjCReEbNbBbjSbBLgEckHbBbEbPbKhCHfKgEbIcCcWbHbCbFbKcCcDcBgBfHcH",
     "dFlKbBcBbBMbKbBcBbEbInCbdCXfKeEbeCSbBiKgkCCcJxGbiCNdBlKbmCFhKgUbcBBcPeKgHhdCHdxCWvIcBcIbC",
     "bBEbCcJmKcsIcBUcIbCbbCLiBiCWdBsCVhrBHpKgJbBTbJpKyBEcWbOcvHbCbBSdBbCbJiKgGbCbBLbCbGhKlyXjR",
     "bBPdFnLdhBdbBJMdyEHrHOdxkDTpBPGqWkFXRfWLkddCGcosVXhBFbKgDBbKgBEcFlCDjEmKjVfTqqBTdKhqCMeyC",
     "XeCFhRcmCbClCoJCAiBVQbpKnfrEbHbCbLFpBbdDcBoEiPGdkuEDfNdJhKdCgerKtyBUcXuwFdGiIcHbeEfsDrbDH",
     "bCTbCcBcCcEbMbBbHbCNbEcIbHbBCbEbFbBdHbNCcZbZbBFbZbBFbZbBFbZbBFbZbIcBYtsCDeBYiBoBwFbPbqmBF",
     "gGifHbRcHbCbFfCKbhBeiBTdOcKeBmjBFrCGscBQigBRsrHbEbCbPbHPlHbpCYeKbtuEbBBbCbBcBbKbEbBbBgBeB",
     "bBbBbDbCbBcBbBbBbBbBbCbBcEbHbEbEbBbKbRfDbFbRfaaKbnqCLFCbgGDUgIOcINQoLBLpXYdqwUWcfyHHZfGFG",
     "bonhgJG"]),
   ("xidstart", ["cnBAgBAbvBkBeBfXbBFbRQeMoFhBbBezFbCdDbBgBbDbBbUbDFbFJiGKbBMcBgBPctBBeEbtBRbjC",
     "bDVbBpChCkDcBqBbBEbdDLlByBHjCeBfWeBjBdBxZhLfYbGrBQcgCCdBsBhKpQeIcCcWbHbBdEdBqBnCbDoCkBiGe",
     "CcWbHbCbCbCbfEbBtDqJbDbWbHbCbFdBsBpCxBlIcCcWbHbCbFdBbeCbDpBrBbGdDbEdCbBbCdCdDdMwBcaIbDbXb",
     "QdBbaDcBcCbeBeIbDbXbKbFdBbfCbCpCrJbDbBPcBqBfDiDyGfSdYbJbBcHcgBWbBnHcgCbBbFbYbBbKbBkBcFbBv",
     "EbgBclIbBKbbFelBRuBqGeEdBdChDeNmBrBMbBfBcBRbMVbEcHbBbEcBPbEcBHbEcHbBbEcPbCFbEcCPblQqDIcGd",
     "XWcRbBAfCXdLhSnToSoNbDpCAbjBeBcpDLhBPbBfCSkBFbxBEcFlBSeBAccXjCBdeBdpBVrIccBEnCkBSbaBKbpDk",
     "BKcLfBRcDbpEbGbCdBfHKcmKScGcBMcGcIbBbBbBbBFcCBbHbBdDbHdEcGeNfDbHemBnBqNdxBeBcKbBcGgBbBbBb",
     "QcEfFeBrBPdzbIVgEdCmBMbBfBcCEhBqXjHbHbHbHbHbHbHbHveDzJhFcFeDIgDbDMbEfBRbDQrBGbwQtsJTOcmBG",
     "UFcpBUcKJdQkCuBVqBFcDCbnJcDZcCPcCbBbIvQbDbEbXbdCAoBYckGdBbClBCkXzBDhBVbcBqFbKkFbBPxDbIuXd",
     "BdBYbBdCcFcBbByDcLhDmGcGcGjHbHbBRbOgELbdQNSmXeBXmncOCcECbmHmFfBbKbNbFbBbCbCbEEbhFJgIKsCMc",
     "CCboKepBbBdBbBbBbBbEWbkBAgBAlCEcBFdGcGcGcDbjMbBAbTbCbPcObiETcrCBkhBDdBXbvBGnBEfBMkBEcBKeI",
     "bFbqGCsBKeBKeBOiCAmLbPbHbCbLbPbHbCdCAmLZjWkIyGbBQbJcrGcBbBSbCdBcXkXjBFcnTbCkWkBAcsCEgCcmB",
     "pEbDbBDbqBDdBDbjIbBCbbCCkWkTnSegCVcdBZnBZnBKbmBCjXjqBQgCqDchBDkBiWbqSbuVbbXmCBcfCcBnBTbgZ",
     "baBKbdBcBiBJdBmBWoEvBbBbjSbZtCclHbBbEbPbKhBVbmIcCcWbHbCbFdBsBmFbeKbBcBbBMbBzBbBbsCBsEuDbe",
     "BWuCbBhcBVbpEbkBWuBchBRnBctBBblHhdBSemCMbfIcBcIbCbYpBbBdqIcBNqBbBbcBkBOhBvBlBUtBsCVhrBHbf",
     "JbBLrBbxBEeiHbCbBMvBzGbCbBGoBmpTpBbNbBIeuBdbBJMdyEHrHOdxkDTpBPGrGzFXRfWLkddBEcpuVXhBFrDBr",
     "BEsBWqEbfVfTqqBTidCMeyCXfBcoNcmCbBbcJCAiBVQbpKnfrEbHbCbLFpBbdDcBoEiPGdkuEDfNdJhKiwkDHbCTb",
     "CcBcCcEbMbBbHbCNbEcIbHbBCbEbFbBdHbNCcZbZbBFbZbBFbZbBFbZbBFbZbIcsyBFgGkbCKfqBTkHqBmjBEsBSs",
     "qBCiuBEcBtbHbEbCbPbHPchCQhBbuiEbBBbCbBcBbKbEbBbBgBeBbBbBbDbCbBcBbBbBbBbBbCbBcEbHbEbEbBbKb",
     "RfDbFbRgoaCLFCbgGDUgIOcINQoLBLpXYdqwUWcfyHHZfGFG"])]

end RecordService.Regex.Property
