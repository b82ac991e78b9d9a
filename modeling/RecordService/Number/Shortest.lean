import RecordService.Number.Double
/-!
# The shortest decimal that reads back

Every real number closer to a double than to its neighbours reads back as that double; a number half
way does so when the double is even.  Of the decimals in that interval the one with the fewest
digits is chosen, and of those the nearest to the double.
-/
namespace RecordService

/-- `digits · 10 ^ exponent`. -/
structure Decimal where
  digits : Nat
  exponent : Int
  deriving DecidableEq, Inhabited

namespace Double

/-! ## The interval

Counted in quarters of a unit, so that half of every gap is whole.  Below a power of two the gap is
half as wide as above it. -/

def quartersBelow (m : Nat) : Nat :=
  if 1 < spacing m && m == Nat.pow 2 (Nat.log2 m) then spacing m else 2 * spacing m

def quartersAbove (m : Nat) : Nat := 2 * spacing m

/-- Whether `digits · 10 ^ exponent` reads back as the magnitude `m`, and how far it is from it.
Everything is multiplied by `10 ^ -exponent` when the exponent is negative. -/
def distance? (m digits : Nat) (exponent : Int) : Option Nat :=
  let scale := Nat.pow 10 (-exponent).toNat
  let value := digits * Nat.pow 10 exponent.toNat * (4 * one)
  let centre := 4 * m * scale
  let low := (4 * m - quartersBelow m) * scale
  let high := (4 * m + quartersAbove m) * scale
  let even := m / spacing m % 2 == 0
  if (low < value && value < high) || (even && (value == low || value == high)) then
    some ((value - centre) + (centre - value))
  else none

/-- The position of the leading digit: the largest `e` with `10 ^ e` at most `m` units. -/
def leadingPlace (m : Nat) : Int :=
  if one ≤ m then (Nat.toDigits 10 (m / one)).length - 1
  else
    match (List.range 330).find? fun k => one ≤ m * Nat.pow 10 k with
    | some k => -(k : Int)
    | none => -330

/-- The better of the two decimals with last place `exponent` that enclose `m` units. -/
def onGrid (m : Nat) (exponent : Int) : Option Decimal :=
  let below := m * Nat.pow 10 (-exponent).toNat / (one * Nat.pow 10 exponent.toNat)
  match distance? m below exponent, distance? m (below + 1) exponent with
  | some a, some b => some ⟨if b < a then below + 1 else below, exponent⟩
  | some _, none => some ⟨below, exponent⟩
  | none, some _ => some ⟨below + 1, exponent⟩
  | none, none => none

/-- One to seventeen digits are tried; seventeen always suffice. -/
def shortest (m : Nat) : Decimal :=
  let place := leadingPlace m
  match (List.range 17).findSome? fun (k : Nat) => onGrid m (place - k) with
  | some d => d
  | none => ⟨0, 0⟩

end Double

/-! ## Layout

A layout says which values are written without an exponent, by the place of the leading digit, and
whether a whole number keeps a point and a zero. -/

structure Layout where
  positional : Int → Bool
  keepsPointZero : Bool

namespace Layout

def zeros (n : Nat) : String := String.ofList (List.replicate n '0')

/-- `digits` with the point after the first `point` of them. -/
def place (l : Layout) (digits : List Char) (point : Int) : String :=
  if point ≤ 0 then "0." ++ zeros (-point).toNat ++ String.ofList digits
  else if digits.length ≤ point then
    String.ofList digits ++ zeros (point - digits.length).toNat ++ (if l.keepsPointZero then ".0" else "")
  else String.ofList (digits.take point.toNat) ++ "." ++ String.ofList (digits.drop point.toNat)

def withExponent (digits : List Char) (leading : Int) : String :=
  let fraction := digits.drop 1
  String.ofList (digits.take 1) ++ (if fraction.isEmpty then "" else "." ++ String.ofList fraction) ++ "e" ++
    (if leading < 0 then "-" else "+") ++ toString leading.natAbs

/-- The decimal digits without the zeros at the end. -/
def significantDigits (n : Nat) : List Char :=
  ((Nat.toDigits 10 n).reverse.dropWhile (· == '0')).reverse

def write (l : Layout) (d : Double) : String :=
  let sign := if d.negative then "-" else ""
  if d.magnitude = 0 then sign ++ (if l.keepsPointZero then "0.0" else "0")
  else
    let decimal := Double.shortest d.magnitude
    let digits := significantDigits decimal.digits
    let leading := (Nat.toDigits 10 decimal.digits).length + decimal.exponent - 1
    sign ++ (if l.positional leading then l.place digits (leading + 1) else withExponent digits leading)

/-- Documents write 0.00001 and above, and below 10^16, without an exponent, and keep `1.0`. -/
def document : Layout := ⟨fun leading => -5 ≤ leading && leading < 16, true⟩

/-- Messages never write an exponent and drop the `.0`. -/
def message : Layout := ⟨fun _ => true, false⟩

end Layout

end RecordService
