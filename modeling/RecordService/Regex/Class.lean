import RecordService.Text.Blank
import RecordService.Text.Category
/-!
# Named classes

The classes of a backslash and a small letter, and those written between `[:` and `:]`.
-/
namespace RecordService.Regex

/-! ## Classes of a letter -/

def asciiDigits : CharSet := .range 48 57

def asciiBlanks : CharSet := (CharSet.range 9 13).union (.single ' ')

def asciiLetters : CharSet := (CharSet.range 65 90).union (.range 97 122)

def asciiWord : CharSet := (asciiLetters.union asciiDigits).union (.single '_')

def digits : CharSet := Text.Category.members (· == ⟨'N', 'd'⟩)

def blanks : CharSet := Text.blankRanges.foldl (fun s r => s.union (.range r.1 r.2)) .empty

/-- The alphabetic characters, the marks, the decimal digits, the connectors and the two joiners. -/
def wordChars : CharSet := .ofRuns
  ["bwKhBAeBbBAbvBkBeBfXbBFbRQeMoFhBbBrENbCcEbBgBbDbBbUbDFbFJbGRbBMcBgBPiBTbBbCbCbBiBBeEbdLfCWeD",
   "YbIcKbTcBqCHcDXoCCeBcBcBUsBCeLfYbGiCXbEZcKbTbIcCcWbHbBdEcJcCcEiBeCbFcMkBbBcDbGeCcWbHbCbCbCcB",
   "bFeCcDdBhEbBhQlDbJbDbWbHbCbFcKbDbDcBpEcKjHbDbIcCcWbHbCbFcJcCcDhDeCbFcKbBqCbGdDbEdCbBbCdCdDdM",
   "eFdDbEcBgBoKqNbDbXbQcJbDbEhCbDcBcEcKqEbIbDbXbKbFcJbDbEhCgCbEcKbDmNbDbBZbDbFfEhFcKkGbDbSdYbJb",
   "BcHdBeGbBbIgKcCnCGfPbKbnCbBbFbYbBbXcFbBbHbKcEbgBxCgKlBbBbBeKbBKeUbSbBKjBcfCWgDAcBMbBfBcBRbMV",
   "bEcHbBbEcBPbEcBHbEcHbBbEcPbCFbEcCPcDbgQqDIcGdXWcRbBAfCXdLhWjWlUmNbDbCmDGdBeCcKbhDbLgDLhBRfCS",
   "kBFbMeMkBOcFlBSeBAgKbmBCeCLbBDcLgKnBiBFbxCZdKrJmEMmCEiKdBXcLfBRcDqDbBNfUOcGcBMcGcIbBbBbBbBFc",
   "CBbHbBdDbHdEcGeNfDbHpCbxCtBbcBnBqNbzBHrBeBcKbBdFgBbBbBbEbLcEfFeBrBPbfhCAcruIVgJmBMbBfBcCEhBp",
   "YjHbHbHbHbHbHbHbHbBGbvBsbDzPbFcFeDIcCcDbDMbEfBRbDQrBGbwQtsJTOcmBGUFcpBUcKJdBCuBZbKbELblJcDZc",
   "CPcCbBbIvCCeBtCAmCSkKgYdBbBXcBKmBDdCNoLgBFbCDjOcKgXdCVyDcQcFkGcGcGjHbHbBRbOgETbCcKgQNSmXeBXm",
   "ncOCcECbmHmFfMbNbFbBbCbCbEEbhNZsCMcCCboMeQqQdCyDbgFbFFtKhBAeBbBAlDLdGcGcGcDbjMbBAbTbCbPcObiE",
   "TcrCBfgBfaBDdBXpBbfBGnBEfBRfBEcBKeIbFbqGCcKgBKeBKeBOiCAmLbPbHbCbLbPbHbCdCAmLZjWkIyGbBQbJcrGc",
   "BbBSbCdBcXkXjBFcnTbCkWkBAcsCEgCcmEbCfIbDbBDcDeBbgBDdBDbjIbBEzCCkWkTnSegCVcdBZnBZnBOiKgBMdFbX",
   "jqBQbCdCqDcdBHkBiBHbfWbqVbbXjCTbfQjCIhBnZhKgCBbKeEiBKcBjCReEbNbBbjSbBLgEckHbBbEbPbKhCHfKgEbI",
   "cCcWbHbCbFbKcCcDcBgBfHcHdFlKbBcBbBMbKbBcBbEbInCbdCXfKeEbeCSbBiKgkCCcJxGbiCNdBlKbmCFhKgUbcBBc",
   "PeKgHhdCHdxCWvIcBcIbCbBEbCcJmKcsIcBUcIbCbbCLiBiCWdBsCVhrBHpKgJbBTbJpKyBEcWbOcvHbCbBSdBbCbJiK",
   "gGbCbBLbCbGhKlyXjRbBPdFnLdhBdbBJMdyEHrHOdxkDTpBPGqWkFXRfWLkddCGcosVXhBFbKgDBbKgBEcFlCDjEmKjV",
   "fTqqBTdKhqCMeyCXeCFhRcmCbClCoJCAiBVQbpKnfrEbHbCbLFpBbdDcBoEiPGdkuEDfNdJhKdCgerKtyBUcXuwFdGiI",
   "cHbeEfsDrbDHbCTbCcBcCcEbMbBbHbCNbEcIbHbBCbEbFbBdHbNCcZbZbBFbZbBFbZbBFbZbBFbZbIcBYtsCDeBYiBoB",
   "wFbPbqmBFgGifHbRcHbCbFfCKbhBeiBTdOcKeBmjBFrCGscBQigBRsrHbEbCbPbHPlHbpCYeKbtuEbBBbCbBcBbKbEbB",
   "bBgBeBbBbBbDbCbBcBbBbBbBbBbCbBcEbHbEbEbBbKbRfDbFbRyeBAgBAgBAdykKbnqCLFCbgGDUgIOcINQoLBLpXYdq",
   "wUWcfyHHZfGFGbonhgJG"]

/-- The class of a small letter after a backslash. -/
def letterClass (unicode : Bool) : Char → Option CharSet
  | 'd' => some (if unicode then digits else asciiDigits)
  | 's' => some (if unicode then blanks else asciiBlanks)
  | 'w' => some (if unicode then wordChars else asciiWord)
  | _ => none

/-! ## Classes with a name -/

def ascii : CharSet := .range 0 127

def asciiGraphic : CharSet := .range 33 126

/-- All of these classes are ASCII. -/
def asciiClasses : List (String × CharSet) :=
  [("alnum", asciiLetters.union asciiDigits), ("alpha", asciiLetters), ("ascii", ascii),
   ("blank", (CharSet.single '\t').union (.single ' ')), ("cntrl", (CharSet.range 0 31).union (.range 127 127)),
   ("digit", asciiDigits), ("graph", asciiGraphic), ("lower", .range 97 122), ("print", .range 32 126),
   ("punct", asciiGraphic.diff (asciiLetters.union asciiDigits)), ("space", asciiBlanks),
   ("upper", .range 65 90), ("word", asciiWord),
   ("xdigit", asciiDigits.union ((CharSet.range 65 70).union (.range 97 102)))]

end RecordService.Regex
