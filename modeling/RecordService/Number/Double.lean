/-!
# Finite doubles, exactly

A finite double is a sign and a magnitude, counted in units of 2^-1074: the smallest positive double
is one unit, and every finite double is a whole number of them.  Order, equality and rounding are
then integer arithmetic.  Rounding is to the nearest double, and a tie goes to the even neighbour.
-/
namespace RecordService

structure Double where
  negative : Bool
  magnitude : Nat
  deriving DecidableEq, Inhabited

namespace Double

/-- The number of units in one. -/
def one : Nat := Nat.pow 2 1074

/-- The first magnitude that is too large for a double. -/
def limit : Nat := Nat.pow 2 2098

/-- The value in units, with its sign; both zeros are 0. -/
def toInt (d : Double) : Int := if d.negative then -(d.magnitude : Int) else d.magnitude

/-! ## Rounding

Near a magnitude with more than 53 binary digits the doubles are spaced so that 53 digits remain. -/

def spacing (magnitude : Nat) : Nat := Nat.pow 2 (Nat.log2 magnitude - 52)

/-- The multiple of the spacing nearest to `num / den` units. -/
def nearest (num den : Nat) : Nat :=
  let step := spacing (num / den)
  let quotient := num / (den * step)
  let rest := num % (den * step)
  let up := 2 * rest > den * step || (2 * rest == den * step && quotient % 2 == 1)
  (if up then quotient + 1 else quotient) * step

def ofInt (i : Int) : Double := ⟨i < 0, nearest (i.natAbs * one) 1⟩

/-- The product and the quotient of two magnitudes, rounded. -/
def mulMagnitude (a b : Nat) : Nat := nearest (a * b) one

def divMagnitude (a b : Nat) : Nat := nearest (a * one) b

end Double

/-! ## What a text may denote

Besides the finite doubles there are the two infinities and the value that is not a number, which
is incomparable to everything. -/

inductive ExtendedDouble where
  | finite (value : Double)
  | infinite (negative : Bool)
  | notANumber
  deriving DecidableEq, Inhabited

namespace ExtendedDouble

def compare? : ExtendedDouble → ExtendedDouble → Option Ordering
  | .notANumber, _ => none
  | _, .notANumber => none
  | .finite a, .finite b => some (compare a.toInt b.toInt)
  | .finite _, .infinite negative => some (if negative then .gt else .lt)
  | .infinite negative, .finite _ => some (if negative then .lt else .gt)
  | .infinite true, .infinite true => some .eq
  | .infinite true, .infinite false => some .lt
  | .infinite false, .infinite true => some .gt
  | .infinite false, .infinite false => some .eq

def equals (a b : ExtendedDouble) : Bool := compare? a b == some .eq

/-- `digits · 10 ^ exponent`, rounded once. -/
def ofDecimal (negative : Bool) (digits : Nat) (exponent : Int) : ExtendedDouble :=
  let places := (Nat.toDigits 10 digits).length + exponent
  if digits = 0 || places < -330 then .finite ⟨negative, 0⟩
  else if places > 310 then .infinite negative
  else
    let magnitude :=
      if 0 ≤ exponent then Double.nearest (digits * Nat.pow 10 exponent.toNat * Double.one) 1
      else Double.nearest (digits * Double.one) (Nat.pow 10 (-exponent).toNat)
    if magnitude < Double.limit then .finite ⟨negative, magnitude⟩ else .infinite negative

end ExtendedDouble

end RecordService
