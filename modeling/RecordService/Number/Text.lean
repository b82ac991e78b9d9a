import RecordService.Number.Double
/-!
# Numbers read from text

Integers are an optional sign and decimal digits.  Doubles are an optional sign and either digits
with an optional point and exponent, or the words for infinity and not-a-number in any case.
-/
namespace RecordService

def digitValue (c : Char) : Nat := c.toNat - 48

def ofDigits (cs : List Char) : Nat := cs.foldl (fun n c => n * 10 + digitValue c) 0

/-! ## Ranges of machine integers -/

def inSigned32 (i : Int) : Bool := -2147483648 ≤ i && i ≤ 2147483647

def inSigned64 (i : Int) : Bool := -9223372036854775808 ≤ i && i ≤ 9223372036854775807

def inUnsigned64 (i : Int) : Bool := 0 ≤ i && i ≤ 18446744073709551615

/-- The integer of 64 bits that is congruent to `i`. -/
def wrapSigned64 (i : Int) : Int := Int.bmod i 18446744073709551616

/-! ## Integers -/

def isNumeral (cs : List Char) : Bool := !cs.isEmpty && cs.all Char.isDigit

/-- An optional sign, then at least one digit. -/
def readSigned : List Char → Option Int
  | '-' :: cs => if isNumeral cs then some (-(ofDigits cs : Int)) else none
  | '+' :: cs => if isNumeral cs then some (ofDigits cs : Int) else none
  | cs => if isNumeral cs then some (ofDigits cs : Int) else none

def readSigned64 (s : String) : Option Int := (readSigned s.toList).filter inSigned64

def readUnsigned : List Char → Option Nat
  | '+' :: cs => if isNumeral cs then some (ofDigits cs) else none
  | cs => if isNumeral cs then some (ofDigits cs) else none

def readUnsigned64 (s : String) : Option Nat := (readUnsigned s.toList).filter fun n => inUnsigned64 n

/-! ## Doubles -/

def takeSign : List Char → Bool × List Char
  | '-' :: cs => (true, cs)
  | '+' :: cs => (false, cs)
  | cs => (false, cs)

/-- The exponent after the digits: nothing, or `e` and an integer. -/
def readExponent : List Char → Option Int
  | [] => some 0
  | c :: cs => if c == 'e' || c == 'E' then readSigned cs else none

def readFraction : List Char → List Char × List Char
  | '.' :: cs => (cs.takeWhile Char.isDigit, cs.dropWhile Char.isDigit)
  | cs => ([], cs)

def readUnsignedDouble (negative : Bool) (cs : List Char) : Option ExtendedDouble :=
  let word := String.ofList (cs.map Char.toLower)
  if word == "inf" || word == "infinity" then some (.infinite negative)
  else if word == "nan" then some .notANumber
  else
    let whole := cs.takeWhile Char.isDigit
    let (fraction, rest) := readFraction (cs.dropWhile Char.isDigit)
    if whole.isEmpty && fraction.isEmpty then none
    else
      (readExponent rest).map fun e =>
        .ofDecimal negative (ofDigits (whole ++ fraction)) (e - fraction.length)

def readDouble (s : String) : Option ExtendedDouble :=
  let (negative, cs) := takeSign s.toList
  readUnsignedDouble negative cs

end RecordService
