/-!
# Scripts

The characters of each script of Unicode 16.0, as runs outside and inside, and those that are in use with
each script, which counts the characters that several scripts share.
-/
namespace RecordService.Regex.Property

/-- The codes of scripts, most of them of four letters. -/
def scriptAliases : List (String × String) := [
  ("adlm", "adlam"), ("aghb", "caucasianalbanian"), ("arab", "arabic"),
  ("armi", "imperialaramaic"), ("armn", "armenian"), ("avst", "avestan"), ("bali", "balinese"),
  ("bamu", "bamum"), ("bass", "bassavah"), ("batk", "batak"), ("beng", "bengali"),
  ("bhks", "bhaiksuki"), ("bopo", "bopomofo"), ("brah", "brahmi"), ("brai", "braille"),
  ("bugi", "buginese"), ("buhd", "buhid"), ("cakm", "chakma"), ("cans", "canadianaboriginal"),
  ("cari", "carian"), ("cher", "cherokee"), ("chrs", "chorasmian"), ("copt", "coptic"),
  ("cpmn", "cyprominoan"), ("cprt", "cypriot"), ("cyrl", "cyrillic"), ("deva", "devanagari"),
  ("diak", "divesakuru"), ("dogr", "dogra"), ("dsrt", "deseret"), ("dupl", "duployan"),
  ("egyp", "egyptianhieroglyphs"), ("elba", "elbasan"), ("elym", "elymaic"), ("ethi", "ethiopic"),
  ("gara", "garay"), ("geor", "georgian"), ("glag", "glagolitic"), ("gong", "gunjalagondi"),
  ("gonm", "masaramgondi"), ("goth", "gothic"), ("gran", "grantha"), ("grek", "greek"),
  ("gujr", "gujarati"), ("gukh", "gurungkhema"), ("guru", "gurmukhi"), ("hang", "hangul"),
  ("hani", "han"), ("hano", "hanunoo"), ("hatr", "hatran"), ("hebr", "hebrew"),
  ("hira", "hiragana"), ("hluw", "anatolianhieroglyphs"), ("hmng", "pahawhhmong"),
  ("hmnp", "nyiakengpuachuehmong"), ("hung", "oldhungarian"), ("ital", "olditalic"),
  ("java", "javanese"), ("kali", "kayahli"), ("kana", "katakana"), ("khar", "kharoshthi"),
  ("khmr", "khmer"), ("khoj", "khojki"), ("kits", "khitansmallscript"), ("knda", "kannada"),
  ("krai", "kiratrai"), ("kthi", "kaithi"), ("lana", "taitham"), ("laoo", "lao"),
  ("latn", "latin"), ("lepc", "lepcha"), ("limb", "limbu"), ("lina", "lineara"),
  ("linb", "linearb"), ("lyci", "lycian"), ("lydi", "lydian"), ("mahj", "mahajani"),
  ("maka", "makasar"), ("mand", "mandaic"), ("mani", "manichaean"), ("marc", "marchen"),
  ("medf", "medefaidrin"), ("mend", "mendekikakui"), ("merc", "meroiticcursive"),
  ("mero", "meroitichieroglyphs"), ("mlym", "malayalam"), ("mong", "mongolian"), ("mroo", "mro"),
  ("mtei", "meeteimayek"), ("mult", "multani"), ("mymr", "myanmar"), ("nagm", "nagmundari"),
  ("nand", "nandinagari"), ("narb", "oldnortharabian"), ("nbat", "nabataean"), ("nkoo", "nko"),
  ("nshu", "nushu"), ("ogam", "ogham"), ("olck", "olchiki"), ("onao", "olonal"),
  ("orkh", "oldturkic"), ("orya", "oriya"), ("osge", "osage"), ("osma", "osmanya"),
  ("ougr", "olduyghur"), ("palm", "palmyrene"), ("pauc", "paucinhau"), ("perm", "oldpermic"),
  ("phag", "phagspa"), ("phli", "inscriptionalpahlavi"), ("phlp", "psalterpahlavi"),
  ("phnx", "phoenician"), ("plrd", "miao"), ("prti", "inscriptionalparthian"), ("qaac", "coptic"),
  ("qaai", "inherited"), ("rjng", "rejang"), ("rohg", "hanifirohingya"), ("runr", "runic"),
  ("samr", "samaritan"), ("sarb", "oldsoutharabian"), ("saur", "saurashtra"),
  ("sgnw", "signwriting"), ("shaw", "shavian"), ("shrd", "sharada"), ("sidd", "siddham"),
  ("sind", "khudawadi"), ("sinh", "sinhala"), ("sogd", "sogdian"), ("sogo", "oldsogdian"),
  ("sora", "sorasompeng"), ("soyo", "soyombo"), ("sund", "sundanese"), ("sunu", "sunuwar"),
  ("sylo", "sylotinagri"), ("syrc", "syriac"), ("tagb", "tagbanwa"), ("takr", "takri"),
  ("tale", "taile"), ("talu", "newtailue"), ("taml", "tamil"), ("tang", "tangut"),
  ("tavt", "taiviet"), ("telu", "telugu"), ("tfng", "tifinagh"), ("tglg", "tagalog"),
  ("thaa", "thaana"), ("tibt", "tibetan"), ("tirh", "tirhuta"), ("tnsa", "tangsa"),
  ("todr", "todhri"), ("tutg", "tulutigalari"), ("ugar", "ugaritic"), ("vaii", "vai"),
  ("vith", "vithkuqi"), ("wara", "warangciti"), ("wcho", "wancho"), ("xpeo", "oldpersian"),
  ("xsux", "cuneiform"), ("yezi", "yezidi"), ("yiii", "yi"), ("zanb", "zanabazarsquare"),
  ("zinh", "inherited"), ("zyyy", "common")]

def scriptRuns : List (String × List String) := [
   ("adlam", ["hdeuCYeKeC"]),
   ("ahom", ["ebrcBBcPeX"]),
   ("anatolianhieroglyphs", ["esseWL"]),
   ("arabic", ["chcFbGbObDbBGbKlBAbEEbBIdcBWjgBFbCfCXbBDdntwELqNZcDCcCChBbgQeiFbFFfvnBFcpDcdEdg",
     "lsEbBBbCbBcBbKbEbBbBgBeBbBbBbDbCbBcBbBbBbBbBbCbBcEbHbEbEbBbKbRfDbFbRcaC"]),
   ("armenian", ["bzdBMcBYcDdozjF"]),
   ("avestan", ["dxcyCCdH"]),
   ("balinese", ["kfwCZbBY"]),
   ("bamum", ["clcqDKcvcqVX"]),
   ("bassavah", ["fhkiBEcG"]),
   ("batak", ["kngCAiE"]),
   ("bengali", ["dpoEbIcCcWbHbBdEcJcCcEiBeCbFcZ"]),
   ("bhaiksuki", ["edoiJbBTbOkBD"]),
   ("bopomofo", ["bcsCrlxBReiBG"]),
   ("brahmi", ["dzaeDAeBKjB"]),
   ("braille", ["pdwJW"]),
   ("buginese", ["jwaBCcC"]),
   ("buhid", ["iuyU"]),
   ("canadianaboriginal", ["hoyYQvoCSdtpqQ"]),
   ("carian", ["dtymBX"]),
   ("caucasianalbanian", ["duxsCAlB"]),
   ("chakma", ["dzkaCBbS"]),
   ("cham", ["cmjwCDjOcKcE"]),
   ("cherokee", ["hlgDIcGcfjeDC"]),
   ("chorasmian", ["dyxcBC"]),
   ("common", ["aCNbaGbaBVbPbFxBbfBrhBNfFcUemBjBgBbBynBgBoBdBbgBgaBtwBezCbvtBppEleBcglDctChvCbB",
     "bvhBnBhEbGbDcBbdtMcDJbLdLbPrBHclBMbDcGbBBbRbpDeZQwLvBJSjwYEcBGbEBtsDQpmVbBbZpIeEdnCdBdmCf",
     "rQbgBMjBbwCMbfDDbvBdkGMjtoCMbhsiBIdyDgjKjkBgeBpfBoCbezqCiaKwBJbTbEfrBbBGbaGbaLkBbtCcmHbHk",
     "FjyDeBTdJdcNbzBTiuBBcshwEfvgJQgQUgaEMciJMkBNcCKdRiChBEeCJifUmUmDJjZffDHbCTbCcBcCcEbMbBbHb",
     "CNbEcIbHbBCbEbFbBdHbNCcLGcBYhthCQcyCJbbeBSeDWmPcPbPbBLkGSceBAbCnBSeJhCoGfyBLWeRdNdEPeDRgM",
     "eBpMeCEiKgBOiBEcMeCckNCmOcNdKfCEhPcLgJhFRbDYbsuxbBbeDS"]),
   ("coptic", ["bmgOpjkEMfH"]),
   ("cuneiform", ["efbsBJMdyEHbFlHO"]),
   ("cypriot", ["dvzkGcBbBSbCdBcB"]),
   ("cyprominoan", ["ekyyDV"]),
   ("cyrillic", ["bnkFDcGNivoLgeBcyBgfnBGbtoaDSbhecCdhpgCKbhB"]),
   ("deseret", ["dumaDC"]),
   ("devanagari", ["dkqDDePcBAcijgBGbremK"]),
   ("divesakuru", ["eckuHcBcIbCbBEbCcMjK"]),
   ("dogra", ["ecayCI"]),
   ("duployan", ["gmdsEDfNdJhKcE"]),
   ("egyptianhieroglyphs", ["eldgBQSkFXR"]),
   ("elbasan", ["duvwBO"]),
   ("elymaic", ["dyyyX"]),
   ("ethiopic", ["gvgCVbEcHbBbEcBPbEcBHbEcHbBbEcPbCFbEcCPcBGdBAjvaXjHbHbHbHbHbHbHbHbvkcGcGcGjHb",
     "HepyfHbEbCbP"]),
   ("garay", ["dxzcBMdBDiC"]),
   ("georgian", ["ghsBMbBfBcBRbEejwBRcDgeaBMbBfB"]),
   ("glagolitic", ["qrgDSgizgHbRcHbCbF"]),
   ("gothic", ["dueaBB"]),
   ("grantha", ["eadsEbIcCcWbHbCbFcJcCcDcBgBfHcHdF"]),
   ("greek", ["bhwEbDcEbBeBbBbDbBbUbCLoQjnqFbyFeFdgBmiWcGcBMcGcIbBbBbBbBFcCBbPbOcGbTcDbJljBcaje",
     "BbgniDBrBdaxrCS"]),
   ("gujarati", ["dzlDbJbDbWbHbCbFcKbDbDcBpEcMhH"]),
   ("gunjalagondi", ["eebwGbCbBLbCbGhK"]),
   ("gurmukhi", ["dunDbGeCcWbHbCbCbCcBbFeCcDdBhEbBhR"]),
   ("gurungkhema", ["fdrsCG"]),
   ("han", ["rpwBAbDLmIGbvBbBzJoEblcJTOcmBFBKbhsiOCcECbsiiCmCccokCLFCbgGDUgIOcINQoLBLpXYdqwUWcf",
     "yHHZfGFG"]),
   ("hangul", ["glkJWlleCjxDQejBFcnBFbtanBDytQNSmXeBXpaiBFdGcGcGcD"]),
   ("hanifirohingya", ["dxwqBOiK"]),
   ("hanunoo", ["itsV"]),
   ("hatran", ["dwiaTbCfF"]),
   ("hebrew", ["ccvCDiBBeGdovwBAbFbBbCbCbK"]),
   ("hiragana", ["shdDIgDfpevLBsBbdDymvB"]),
   ("imperialaramaic", ["dwbwWbJ"]),
   ("inherited", ["bdoEIkrCrkLbaBbciEgoxBFttDbNbHeBgBdChqCMueChmBHftxEedCczujQqOblnBisBgfaBctcu",
     "BUcXuyDrIcHbeEbtlhiJG"]),
   ("inscriptionalpahlavi", ["dxgqTfI"]),
   ("inscriptionalparthian", ["dxfkWcI"]),
   ("javanese", ["cmeyDAcKeC"]),
   ("kaithi", ["dzfcCPkB"]),
   ("kannada", ["etcNbDbXbKbFcJbDbEhCgCbEcKbD"]),
   ("katakana", ["skvDMcDjgQiaBVbDKczheKbBTcoucEbHbCbBlbDbyBoE"]),
   ("kawi", ["eerwRbBPdBD"]),
   ("kayahli", ["cmaaBUbB"]),
   ("kharoshthi", ["dwtcEbCfIbDbBDcDeKhJ"]),
   ("khitansmallscript", ["fjiiBkgxSCbpB"]),
   ("khmer", ["ixkDQcKgKssBG"]),
   ("khojki", ["dztwSbBV"]),
   ("khudawadi", ["eaaqCHfK"]),
   ("kiratrai", ["fiiiCG"]),
   ("lao", ["fmvCbBbFbYbBbXcFbBbHbKcE"]),
   ("latin", ["cnBAgBAbvBpBfXbBFbRHbnFjxbBMgBXfEfNbCScnJWofBnBqNflCgBbbBrBPectBGbulmDYdCPcCbBbI",
     "vObfkBRbJbEbedqHbokBAgBAdcfGbBQbJddnpBFgG"]),
   ("lepcha", ["kpsCEdPdD"]),
   ("limbu", ["jmeBFbMeMeBdM"]),
   ("lineara", ["dvfsLZjWkI"]),
   ("linearb", ["dsyqMbBAbTbCbPcObiET"]),
   ("lisu", ["ckkuBWbumaB"]),
   ("lycian", ["dtxgBD"]),
   ("lydian", ["dwkmBAfB"]),
   ("mahajani", ["dzncBN"]),
   ("makasar", ["eeqqZ"]),
   ("malayalam", ["eyaNbDbBZbDbGeQcBA"]),
   ("mandaic", ["ddgBCcB"]),
   ("manichaean", ["dxamBNeM"]),
   ("marchen", ["edsqBGcWbO"]),
   ("masaramgondi", ["edyeHbCbBSdBbCbJiK"]),
   ("medefaidrin", ["fiseDN"]),
   ("meeteimayek", ["cmsmXhtBUcK"]),
   ("mendekikakui", ["hcuyHPcQ"]),
   ("meroiticcursive", ["dwpkYeUcBU"]),
   ("meroitichieroglyphs", ["dwoeBG"]),
   ("miao", ["fizoCXeCFhR"]),
   ("modi", ["ebhgCRlK"]),
   ("mongolian", ["jciCcBbUgDLhBRdscbN"]),
   ("mro", ["fheuBFbKeC"]),
   ("multani", ["dzyuHbBbEbPbL"]),
   ("myanmar", ["gboGEcgayBFdtBGbpamU"]),
   ("nabataean", ["dweiBFiJ"]),
   ("nagmundari", ["hbpoBQ"]),
   ("nandinagari", ["ecqyIcBUcL"]),
   ("newa", ["eanoDObF"]),
   ("newtailue", ["jrcBSeBAgLdC"]),
   ("nko", ["cyiCHcD"]),
   ("nushu", ["fjifByvmPG"]),
   ("nyiakengpuachuehmong", ["haeaBTdOcKeC"]),
   ("ogham", ["inoBD"]),
   ("olchiki", ["ksuBW"]),
   ("oldhungarian", ["dxrsBZnBZhG"]),
   ("olditalic", ["duceBKjD"]),
   ("oldnortharabian", ["dwyaBG"]),
   ("oldpermic", ["dufgBR"]),
   ("oldpersian", ["duiiBKeO"]),
   ("oldsogdian", ["dyqiBO"]),
   ("oldsoutharabian", ["dwwuBG"]),
   ("oldturkic", ["dxmuCV"]),
   ("olduyghur", ["dyuqBA"]),
   ("olonal", ["hbzkBReB"]),
   ("oriya", ["eejDbIcCcWbHbCbFcJcCcDhDeCbFcS"]),
   ("osage", ["dusuBKeBK"]),
   ("osmanya", ["duqyBEcK"]),
   ("pahawhhmong", ["fhmeCSkKbHbVfT"]),
   ("palmyrene", ["dwdcBG"]),
   ("paucinhau", ["edcaCF"]),
   ("phagspa", ["clsqCE"]),
   ("phoenician", ["dwjgBCdB"]),
   ("psalterpahlavi", ["dxhwShEmH"]),
   ("rejang", ["cmbwBKlB"]),
   ("runic", ["iouCXdL"]),
   ("samaritan", ["dauBUcP"]),
   ("saurashtra", ["clvcCSiM"]),
   ("sharada", ["dzoyDS"]),
   ("shavian", ["dupcBW"]),
   ("siddham", ["ebciCCcBM"]),
   ("signwriting", ["gwtkZCpFbP"]),
   ("sinhala", ["fczDbSdYbJbBcHdBeGbBbIgKcDdulgU"]),
   ("sogdian", ["dyseBQ"]),
   ("sorasompeng", ["dzieZhK"]),
   ("soyombo", ["ecxsDF"]),
   ("sundanese", ["kkuCMjwI"]),
   ("sunuwar", ["edlwBIoK"]),
   ("sylotinagri", ["clqeBT"]),
   ("syriac", ["cqyObCIcDkmL"]),
   ("tagalog", ["ismWjB"]),
   ("tagbanwa", ["iweNbDbC"]),
   ("taile", ["jpgBEcF"]),
   ("taitham", ["jxgCLbBDcLgKgO"]),
   ("taiviet", ["cmouCPyF"]),
   ("takri", ["ebmeCGgK"]),
   ("tamil", ["ejiCbGdDbEdCbBbCdCdDdMeFdDbEcBgBoVealhBYnB"]),
   ("tangsa", ["fhgqDBbK"]),
   ("tangut", ["fjieBbfJCAiBDOtsJ"]),
   ("telugu", ["eoeNbDbXbQcJbDbEhCbDcBcEcKhJ"]),
   ("thaana", ["cvwBY"]),
   ("thai", ["fhxCGfBC"]),
   ("tibetan", ["frsCUbBKeBNbBKbPbHeC"]),
   ("tifinagh", ["rcyCEhCoB"]),
   ("tirhuta", ["easmCUiK"]),
   ("todhri", ["dvdgCA"]),
   ("toto", ["hatkBF"]),
   ("tulutigalari", ["eaiqKbBcBbBMbKbBcBbEbKbCiC"]),
   ("ugaritic", ["duhcBEbB"]),
   ("vai", ["ckmqLO"]),
   ("vithkuqi", ["dvaeLbPbHbCbLbPbHbC"]),
   ("wancho", ["havgCGfB"]),
   ("warangciti", ["echcDFmB"]),
   ("yezidi", ["dylkBQbDcC"]),
   ("yi", ["cipkBSVdCD"]),
   ("zanabazarsquare", ["ecuqCU"])]

def scriptUseRuns : List (String × List String) := [
   ("adlam", ["cihBbgBjwoBfhhBglriCYeKeC"]),
   ("ahom", ["ebrcBBcPeX"]),
   ("anatolianhieroglyphs", ["esseWL"]),
   ("arabic", ["chcFbIHbBIdcBWjgBFbCfCXbBDivnBfhhBczraELqRDcCChBbgQeiFbFFbmhBCeieBFcpDcdEdglsEb",
     "BBbCbBcBbKbEbBbBgBeBbBbBbDbCbBcBbBbBbBbBbCbBcEbHbEbEbBbKbRfDbFbRcaC"]),
   ("armenian", ["bdwBvgBMcBYcDdozjF"]),
   ("avestan", ["hbBrfsCdfqcCCdH"]),
   ("balinese", ["kfwCZbBY"]),
   ("bamum", ["clcqDKcvcqVX"]),
   ("bassavah", ["fhkiBEcG"]),
   ("batak", ["kngCAiE"]),
   ("bengali", ["bayBcmuCrCbaEbIcCcWbHbBdEcJcCcEiBeCbFcZhdhBbBcCbBiBiBcBeBcDcbafB"]),
   ("bhaiksuki", ["edoiJbBTbOkBD"]),
   ("bopomofo", ["bbjBbDnBqCrbxDeKbNkEcBgBhnBjBReiBGczltCkwF"]),
   ("brahmi", ["dzaeDAeBKjB"]),
   ("braille", ["pdwJW"]),
   ("buginese", ["jwaBCcCccktB"]),
   ("buhid", ["iunCjU"]),
   ("canadianaboriginal", ["hoyYQvoCSdtpqQ"]),
   ("carian", ["hbBlzmBcBfgdBdclqBX"]),
   ("caucasianalbanian", ["bdsBbsBbsBdtqnCAlB"]),
   ("chakma", ["dtmKckeKdtfqCBbS"]),
   ("cham", ["cmjwCDjOcKcE"]),
   ("cherokee", ["bdoDbBgCwClCgfuDIcGcfjeDC"]),
   ("chorasmian", ["dyxcBC"]),
   ("common", ["aCNbaGbaBVbMbCbFxBbfBrhDbKbBdBbJbBbGfFcUewBgBbBynBihBtwBcauBppEgdbMcBHbBFbKbCbH",
     "bLdLbPrBHclBMbDcGbBBbRbpDeZQwLvBJSjwYEcBGbEBtsXbYcKbEbBbBAqcBdBnBnBvBujYbfBbxPmEgfKfDSbfB",
     "jtoCMbhsqBAdyDbloBoCbfhsKwVcMbTbEfrBbBGbaGbaGexHbHkFpmNbzBTcynbJQgQUgaEMciJMkBNcCKdRiChBE",
     "eCJifUmUmDJbbHffDHbCTbCcBcCcEbMbBbHbCNbEcIbHbBCbEbFbBdHbNCcLGcBYhthCQcyCJbbeBSeDWmPcPbPbB",
     "LkGSceBAbCnBSeJxGfyBLWeRdNdEPeDRgMeBpMeCEiKgBOiBEcMeCckNCmOcNdKfCEhPcLgJhFRbDYbsuxbBbeDS"]),
   ("coptic", ["hbBwmBdCbBeeCeeOpjkEMfHktBdcpcBC"]),
   ("cuneiform", ["efbsBJMdyEHbFlHO"]),
   ("cypriot", ["dtimDeBTdJcomGcBbBSbCdBcB"]),
   ("cyprominoan", ["dtimCrqkDV"]),
   ("cyrillic", ["bayBcpDbBbBbBcBfBjeLSivoLgeBcyBexBgapBGcpBbtlkDSbhecCdhpgCKbhB"]),
   ("deseret", ["dumaDC"]),
   ("devanagari", ["bayBcjrDFcBRhieBNbCbnaBbzfrKgkBGbremK"]),
   ("divesakuru", ["eckuHcBcIbCbBEbCcMjK"]),
   ("dogra", ["domMcidcKbqioCI"]),
   ("duployan", ["hbBwtCbByCqihBfuqlEDfNdJhKcI"]),
   ("egyptianhieroglyphs", ["eldgBQSkFXR"]),
   ("elbasan", ["hbBwrBdtscBO"]),
   ("elymaic", ["dyyyX"]),
   ("ethiopic", ["becBfrdCVbEcHbBbEcBPbEcBHbEcHbBbEcPbCFbEcCPcBGdBAjvaXjHbHbHbHbHbHbHbHbvkcGcGc",
     "GjHbHepyfHbEbCbP"]),
   ("garay", ["choBoBdBdvquBMdBDiC"]),
   ("georgian", ["hbBbvlBefeBMbBfBcBWejwBRcDbjmBeunBMbBfBjzB"]),
   ("glagolitic", ["hbBwpBbBosBcBjxBeirBfviBekrDSspBbtnfBeotkHbRcHbCbF"]),
   ("gothic", ["hbBwqCcBboBdsyoBB"]),
   ("grantha", ["dntCrCyqOgkaBbCbeDdCbnaBdnrjEbIcCcWbHbCbFbKcCcDcBgBfHcHdFerrCbB"]),
   ("greek", ["hbBwmCcBbBbBkBbuBcBbqIcEbBeBbBbDbBbUbCLoQjnqFbyFeFdgDmgWcGcBMcGcIbBbBbBbBFcCBbPb",
     "OcGbTcDbJdqBhsBcajeBbgniDBrBdaxrCS"]),
   ("gujarati", ["dntCrCkxDbJbDbWbHbCbFcKbDbDcBpEcMhHchnsK"]),
   ("gunjalagondi", ["hbBdhkCeaniGbCbBLbCbGhK"]),
   ("gurmukhi", ["dntCrCfzDbGeCcWbHbCbCbCcBbFeCcDdBhEbBhRchszK"]),
   ("gurungkhema", ["donBfadeCG"]),
   ("han", ["hbBriuBAbDLmIGbaQbDbNbNbNcBgJhfBfsQbgBMjBbwBOceBXpMbzBdkZkFdsBFbJTOcmBFBKcqyIbfbcO",
     "CcECbhrCkwFbqpoCmCblraSlryCfesCLFCbgGDUgIOcINQoLBLpXYdqwUWcfyHHZfGFG"]),
   ("hangul", ["glkJWljlDeKbNoDgBhnBcbDQejBFcnBFbtanBDytQNSmXeBXomzCkwFcgBFdGcGcGcD"]),
   ("hanifirohingya", ["choBoBdBbgBfrBdvhjBOiK"]),
   ("hanunoo", ["itsX"]),
   ("hatran", ["dwiaTbCfF"]),
   ("hebrew", ["bdvCyyCDiBBeGdovwBAbFbBbCbCbK"]),
   ("hiragana", ["serDeKbNqGbBeCdDIcIdmCcztgCkwFkBbtCcourLBsBbdDymvB"]),
   ("imperialaramaic", ["dwbwWbJ"]),
   ("inherited", ["bedBcBbMbCdHcBcQbCbSbFbEcgmCgoxBFbdbCCbBbFueChmBGdfsqQqOblnBczqoBUcXuyDrIcHb",
     "eEbtlhiJG"]),
   ("inscriptionalpahlavi", ["dxgqTfI"]),
   ("inscriptionalparthian", ["dxfkWcI"]),
   ("javanese", ["cmeyDAbLeC"]),
   ("kaithi", ["dooKnxxBbufeKbnmsCPkB"]),
   ("kannada", ["dntCrCbeoNbDbXbKbFcJbDbEhCgCbEcKbDgaeBbCgBxBbBcasxG"]),
   ("katakana", ["bdtBbdBqztDeKbNqGbBeCdnEdDSjgQiaBVbDKcywbCkwCLcouaEbHbCbBlbDbyBoE"]),
   ("kawi", ["eerwRbBPdBD"]),
   ("kayahli", ["cmaaBW"]),
   ("kharoshthi", ["dwtcEbCfIbDbBDcDeKhJ"]),
   ("khitansmallscript", ["fjiiBkgxSCbpB"]),
   ("khmer", ["ixkDQcKgKssBG"]),
   ("khojki", ["ediKchoiKbobmSbBV"]),
   ("khudawadi", ["domCcidmKboigCHfK"]),
   ("kiratrai", ["fiiiCG"]),
   ("lao", ["fmvCbBbFbYbBbXcFbBbHbKcE"]),
   ("latin", ["cnBAgBAbvBmBcBfXbBFbRHdBkBbDbBjBbBgFbbPbCbBmBcDhCbCbmBfBeNkrCbveCcxkBeoiBMgBXfEf",
     "NbCScfBhJWlrBcnBnBqNdfBcfCgBbbBrBPectBGprBbtumIbaDYdCPcCbBbIvOlqBttBRbJbEbedqHbokBAgBAdcf",
     "GbBQbJddnpBFgG"]),
   ("lepcha", ["kpsCEdPdD"]),
   ("limbu", ["donBfxqBFbMeMeBdM"]),
   ("lineara", ["dtitBTbvgLZjWkI"]),
   ("linearb", ["dsyqMbBAbTbCbPcObiETfDeBTdJ"]),
   ("lisu", ["bayBqBrdkCbsfsBWbumaB"]),
   ("lycian", ["mgoBdhqrBD"]),
   ("lydian", ["hbBrftBdexqBAfB"]),
   ("mahajani", ["hbBdhkMcidcKbnusBN"]),
   ("makasar", ["eeqqZ"]),
   ("malayalam", ["dntCrCbjmNbDbBZbDbGeQcBAfveBxBcaszD"]),
   ("mandaic", ["cjoBtrBCcB"]),
   ("manichaean", ["cjoBduqxBNeM"]),
   ("marchen", ["edsqBGcWbO"]),
   ("masaramgondi", ["domCeajqHbCbBSdBbCbJiK"]),
   ("medefaidrin", ["fiseDN"]),
   ("meeteimayek", ["cmsmXhtBUcK"]),
   ("mendekikakui", ["hcuyHPcQ"]),
   ("meroiticcursive", ["dwpkYeUcBU"]),
   ("meroitichieroglyphs", ["mgrBdkhmBG"]),
   ("miao", ["fizoCXeCFhR"]),
   ("modi", ["clsaKbpowCRlK"]),
   ("mongolian", ["jciBAgDLhBRcwaBfztCfEdjfwN"]),
   ("mro", ["fheuBFbKeC"]),
   ("multani", ["dykKdwaaHbBbEbPbL"]),
   ("myanmar", ["gboGEcfucBgvBFdtBGbpamU"]),
   ("nabataean", ["dweiBFiJ"]),
   ("nagmundari", ["hbpoBQ"]),
   ("nandinagari", ["domCbimKgbhBiBhBcasrGbqysIcBUcL"]),
   ("newa", ["eanoDObF"]),
   ("newtailue", ["jrcBSeBAgLdC"]),
   ("nko", ["choBoBdBqaCHcDdowsC"]),
   ("nushu", ["fjifByvmPG"]),
   ("nyiakengpuachuehmong", ["haeaBTdOcKeC"]),
   ("ogham", ["inoBD"]),
   ("olchiki", ["ksuBW"]),
   ("oldhungarian", ["mgoBcBfgdBpBdgegBZnBZhG"]),
   ("olditalic", ["duceBKjD"]),
   ("oldnortharabian", ["dwyaBG"]),
   ("oldpermic", ["hbBwmBfDkBodBdsmuBR"]),
   ("oldpersian", ["duiiBKeO"]),
   ("oldsogdian", ["dyqiBO"]),
   ("oldsoutharabian", ["dwwuBG"]),
   ("oldturkic", ["mgoBfgfBdfzzCV"]),
   ("olduyghur", ["cjoBdusvBbsfBA"]),
   ("olonal", ["domCgykwBReB"]),
   ("oriya", ["dntCrCpvDbIcCcWbHbCbFcJcCcDhDeCbFcSgpeBxB"]),
   ("osage", ["bdpBcBgBcyBdtlvBKeBK"]),
   ("osmanya", ["duqyBEcK"]),
   ("pahawhhmong", ["fhmeCSkKbHbVfT"]),
   ("palmyrene", ["dwdcBG"]),
   ("paucinhau", ["edcaCF"]),
   ("phagspa", ["jckCbBdcjBfzuBbtnxCE"]),
   ("phoenician", ["dwjgBCdB"]),
   ("psalterpahlavi", ["cjoBduyhShEmH"]),
   ("rejang", ["cmbwBKlB"]),
   ("runic", ["iouDL"]),
   ("samaritan", ["dauBUcPojqB"]),
   ("saurashtra", ["clvcCSiM"]),
   ("sharada", ["dntBhkfBbBcCcBcatrGcBbnwpDS"]),
   ("shavian", ["hbBduiaBW"]),
   ("siddham", ["ebciCCcBM"]),
   ("signwriting", ["gwtkZCpFbP"]),
   ("sinhala", ["domCbolDbSdYbJbBcHdBeGbBbIgKcDfrpBdotqU"]),
   ("sogdian", ["cjoBdwipBQ"]),
   ("sorasompeng", ["dzieZhK"]),
   ("soyombo", ["ecxsDF"]),
   ("sundanese", ["kkuCMjwI"]),
   ("sunuwar", ["bdoCbBjBcBbcBdBecgkBIoK"]),
   ("sylotinagri", ["domCeyKchwiBT"]),
   ("syriac", ["bdrCcCbBvBcDhCbBbcdBoCcBbgBkLbaBfnObCIcDkmLiefBbB"]),
   ("tagalog", ["ismWjBvC"]),
   ("tagbanwa", ["iunCbpNbDbC"]),
   ("taile", ["bdoCfCdBezzKdkwBEcF"]),
   ("taitham", ["jxgCLbBDcLgKgO"]),
   ("taiviet", ["cmouCPyF"]),
   ("takri", ["domCcidmKbptuCGgK"]),
   ("tamil", ["dntCrCuuCbGdDbEdCbBbCdCdDdMeFdDbEcBgBoVgkdBcbbkBboefBbBcdCetfBYnB"]),
   ("tangsa", ["fhgqDBbK"]),
   ("tangut", ["seaQtbBeqkmBbfJCAiBDOtsJ"]),
   ("telugu", ["dntCrCzqNbDbXbQcJbDbEhCbDcBcEcKhJgfaBxB"]),
   ("thaana", ["choBoCcBcmKksBYdpgqBkB"]),
   ("thai", ["bayBbaBbrBbtBeclCGfBC"]),
   ("tibetan", ["frsCUbBKeBNbBKbPbHeCmevE"]),
   ("tifinagh", ["bdqBbBcBbBpzaCEhCoB"]),
   ("tirhuta", ["dntCrChkmBcaszKbpacCUiK"]),
   ("todhri", ["bdpBcBcBjBbBcwBdtwbCA"]),
   ("toto", ["bayBgzslBF"]),
   ("tulutigalari", ["exaKgbqBbBcasxGhfBbojeKbBcBbBMbKbBcBbEbKbCiC"]),
   ("ugaritic", ["duhcBEbB"]),
   ("vai", ["ckmqLO"]),
   ("vithkuqi", ["dvaeLbPbHbCbLbPbHbC"]),
   ("wancho", ["havgCGfB"]),
   ("warangciti", ["echcDFmB"]),
   ("yezidi", ["choBoBdBcmKdwagBQbDcC"]),
   ("yi", ["serCfKcIipBbqbcBSVdCDbiicF"]),
   ("zanabazarsquare", ["ecuqCU"])]

end RecordService.Regex.Property
