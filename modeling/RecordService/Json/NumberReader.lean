import RecordService.Json.Basic
import RecordService.Number.Text
/-!
# Numbers in a document

The digits are gathered into a significand of 64 bits, and later digits only move the exponent.  A
number without fraction and exponent that fits 64 bits is an integer; every other one is a double,
rounded once for the significand and once more for each power of ten.
-/
namespace RecordService.Json

def maxSignificand : Nat := 18446744073709551615

/-- Gathers digits into `n` while the result fits. -/
def gatherDigits : List Char → Nat → Nat × List Char
  | [], n => (n, [])
  | c :: cs, n =>
    if c.isDigit && n * 10 + digitValue c ≤ maxSignificand then gatherDigits cs (n * 10 + digitValue c)
    else (n, c :: cs)

/-! ## Scaling by powers of ten -/

/-- The magnitude of the double `10 ^ k`, for `k` up to 308. -/
def powerOfTen (k : Nat) : Nat := Double.nearest (Nat.pow 10 k * Double.one) 1

/-- Divides by `10 ^ places`, in steps of at most 308 places. -/
def scaleDown (magnitude places : Nat) : Nat :=
  if places ≤ 308 then Double.divMagnitude magnitude (powerOfTen places)
  else if magnitude = 0 then 0
  else scaleDown (Double.divMagnitude magnitude (powerOfTen 308)) (places - 308)
termination_by places

/-- `significand · 10 ^ exponent`, unless it is too large. -/
def scaled (significand : Nat) (exponent : Int) : Option Nat :=
  let magnitude := Double.nearest (significand * Double.one) 1
  if exponent < 0 then some (scaleDown magnitude exponent.natAbs)
  else if magnitude = 0 then some 0
  else if 308 < exponent then none
  else
    let product := Double.mulMagnitude magnitude (powerOfTen exponent.toNat)
    if product < Double.limit then some product else none

def double? (negative : Bool) (significand : Nat) (exponent : Int) : Option Number :=
  (scaled significand exponent).map fun m => .double ⟨negative, m⟩

/-! ## Parts of a number -/

def maxExponent : Nat := 2147483647

def clampExponent (e : Int) : Int :=
  if e < -2147483648 then -2147483648 else if 2147483647 < e then 2147483647 else e

/-- What follows `e`: a sign and at least one digit. -/
def readExponentPart (negative : Bool) (significand : Nat) (start : Int) (cs : List Char) :
    Option (Number × List Char) :=
  let (below, cs) := takeSign cs
  let digits := cs.takeWhile Char.isDigit
  let rest := cs.dropWhile Char.isDigit
  if digits.isEmpty then none
  else if maxExponent < ofDigits digits then
    if significand ≠ 0 && !below then none else some (.double ⟨negative, 0⟩, rest)
  else
    let e : Int := ofDigits digits
    (double? negative significand (clampExponent (if below then start - e else start + e))).map (·, rest)

def finishNumber (negative : Bool) (significand : Nat) (exponent : Int) :
    List Char → Option (Number × List Char)
  | 'e' :: cs => readExponentPart negative significand exponent cs
  | 'E' :: cs => readExponentPart negative significand exponent cs
  | cs => (double? negative significand exponent).map (·, cs)

/-- What follows the point: at least one digit; digits that do not fit are dropped. -/
def readFractionPart (negative : Bool) (significand : Nat) (exponent : Int) (cs : List Char) :
    Option (Number × List Char) :=
  let (n, rest) := gatherDigits cs significand
  let taken := cs.length - rest.length
  let after := rest.dropWhile Char.isDigit
  if taken = 0 && after.length = rest.length then none
  else finishNumber negative n (exponent - taken) after

def wholeNumber (negative : Bool) (significand : Nat) : Number :=
  if !negative then .int significand
  else if significand = 0 || 9223372036854775808 < significand then
    .double ⟨true, Double.nearest (significand * Double.one) 1⟩
  else .int (-(significand : Int))

/-- After the digits before the point; `extra` of them did not fit the significand. -/
def afterWhole (negative : Bool) (significand extra : Nat) : List Char → Option (Number × List Char)
  | '.' :: cs => readFractionPart negative significand extra cs
  | 'e' :: cs => readExponentPart negative significand extra cs
  | 'E' :: cs => readExponentPart negative significand extra cs
  | cs =>
    if extra = 0 then some (wholeNumber negative significand, cs)
    else (double? negative significand extra).map (·, cs)

/-- A zero stands alone before the point. -/
def readMagnitude (negative : Bool) : List Char → Option (Number × List Char)
  | [] => none
  | c :: cs =>
    if !c.isDigit then none
    else if c == '0' then
      if (cs.head?.map Char.isDigit).getD false then none else afterWhole negative 0 0 cs
    else
      let (n, rest) := gatherDigits (c :: cs) 0
      let after := rest.dropWhile Char.isDigit
      afterWhole negative n (rest.length - after.length) after

def readNumber : List Char → Option (Number × List Char)
  | '-' :: cs => readMagnitude true cs
  | cs => readMagnitude false cs

end RecordService.Json
