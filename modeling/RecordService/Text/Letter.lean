import RecordService.Text.Category
/-!
# Letters

Alphabetic characters are the letters and the numbers that are letters, and some more, most of them the
marks and the circled letters.
-/
namespace RecordService.Text

/-- Alphabetic characters that are neither letters nor letter numbers. -/
def otherAlphabetic : CharSet := .ofRuns
  ["bgfBbdNweObBbCbCbBcuLbwNbHqBdxHeEcCeBbjBbeQdyLdxCdJbDbEecBciMdHgUccCcPbCfDkCbdDcgHcCcCkBkCbdD",
   "cgFeCcCeBbeCdBlDcgIbDbCvCwDeDcgHcCcCjCkCbeBchFdDbDkBboFcfHbDbDiClCbdDcgHbDbDiClCpBmEcgHbDbDkB",
   "kCbdDcxGbBbIsCcjBcHsBdvBcGbCqBghTjLbBKegMbBcExEeDbDcHdEnMbBkEcloCbeCbeCbeCcoThgCbiBeoMeJioFcf",
   "KcUcwClDbxFbwPciDbeJcCcfLbyTpwBIconCAdkgBGbtqaIbiCnqBiBxFdkCbyQbBcfBbmFbcMbtEbwMblBcpOmBiCbtD",
   "byBbDcCfBbsFfBjdIbdzvBdedFcmgDbCfEbeiEcnBmjCczDjzDcbObtClDbtJjBcjDbkMsCcfDbwNoCdoJcBgBcBgbKxE",
   "cgHcCcCkBkCdgJbBcBbEbCdzNbDecSjdHcHbdCdePbBecLdzOjxNjnGbCcCdBbBfmHcGeBbcKbqFbEsLbuOhsIhrIbHdf",
   "WbOesGdBbCbDbBdBcoFbCbEnkEjCbBbwHdDyynRfjcBbCDhEdpCbdayBnkjHbRcHbCbFdwBckhBcBhCfBwvBczwBAgBAg",
   "BA"]

def isAlphabetic (c : Char) : Bool :=
  let g := Category.ofChar c
  g.major == 'L' || g == ⟨'N', 'l'⟩ || otherAlphabetic.contains c

def isNumeric (c : Char) : Bool := (Category.ofChar c).major == 'N'

end RecordService.Text
