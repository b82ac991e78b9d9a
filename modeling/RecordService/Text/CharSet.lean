/-!
# Sets of characters

A set is given by its borders: the numbers, in increasing order, at which membership changes, beginning
outside.  The complement changes once more, at zero, and two sets are combined in one walk along both
lists of borders.
-/
namespace RecordService

structure CharSet where
  borders : List Nat
  deriving DecidableEq, Inhabited

namespace CharSet

/-- Passes the borders up to `n`, each of which changes whether the walk is inside. -/
def pass (n : Nat) : Bool → List Nat → Bool × List Nat
  | inside, [] => (inside, [])
  | inside, b :: rest => if b ≤ n then pass n (!inside) rest else (inside, b :: rest)

def has (s : CharSet) (n : Nat) : Bool := (pass n false s.borders).1

def contains (s : CharSet) (c : Char) : Bool := s.has c.toNat

def empty : CharSet := ⟨[]⟩

/-- Every number up to the last one of a character. -/
def all : CharSet := ⟨[0, 0x110000]⟩

def range (low high : Nat) : CharSet := if low ≤ high then ⟨[low, high + 1]⟩ else empty

def single (c : Char) : CharSet := range c.toNat c.toNat

/-! ## Combining sets -/

/-- The borders of the combination, from where the walk is inside the first set as `a` tells and inside
the second as `b` tells. -/
def merge (op : Bool → Bool → Bool) (a b : Bool) : List Nat → List Nat → List Nat
  | [], [] => []
  | x :: xs, [] => mark (op a b) (op (!a) b) x (merge op (!a) b xs [])
  | [], y :: ys => mark (op a b) (op a (!b)) y (merge op a (!b) [] ys)
  | x :: xs, y :: ys =>
    if x < y then mark (op a b) (op (!a) b) x (merge op (!a) b xs (y :: ys))
    else if y < x then mark (op a b) (op a (!b)) y (merge op a (!b) (x :: xs) ys)
    else mark (op a b) (op (!a) (!b)) x (merge op (!a) (!b) xs ys)
termination_by xs ys => xs.length + ys.length
where
  mark (before after : Bool) (n : Nat) (rest : List Nat) : List Nat :=
    if before == after then rest else n :: rest

def union (s t : CharSet) : CharSet := ⟨merge (· || ·) false false s.borders t.borders⟩

def inter (s t : CharSet) : CharSet := ⟨merge (· && ·) false false s.borders t.borders⟩

def diff (s t : CharSet) : CharSet := ⟨merge (fun a b => a && !b) false false s.borders t.borders⟩

def symmDiff (s t : CharSet) : CharSet := ⟨merge (· != ·) false false s.borders t.borders⟩

def compl (s : CharSet) : CharSet := all.diff s

/-! ## Other descriptions -/

/-- The ranges of a set, each with its first and its last number. -/
def ranges (s : CharSet) : List (Nat × Nat) := pairUp s.borders
where
  pairUp : List Nat → List (Nat × Nat)
    | low :: next :: rest => (low, next - 1) :: pairUp rest
    | _ => []

/-- The borders of a list of numbers in increasing order. -/
def bordersOf : List Nat → List Nat
  | [] => []
  | n :: rest =>
    match bordersOf rest with
    | m :: more => if m = n then m :: more else if m = n + 1 then n :: more else n :: (n + 1) :: m :: more
    | [] => [n, n + 1]

def ofList (numbers : List Nat) : CharSet := ⟨bordersOf (numbers.mergeSort (· ≤ ·))⟩

/-- The borders behind a run that began at `start`, with the length read so far. -/
def readRuns : List Char → Bool → Nat → Nat → List Nat
  | [], inside, start, length => if inside then [start + length] else []
  | c :: rest, inside, start, length =>
    if c.isUpper == inside then readRuns rest inside start (length * 26 + digit c)
    else (start + length) :: readRuns rest c.isUpper (start + length) (digit c)
where
  digit (c : Char) : Nat := if c.isUpper then c.toNat - 65 else c.toNat - 97

/-- Reads the lengths of the runs outside and inside a set, in turn.  A length is written with the letters
as digits in base 26, small ones for a run outside and capital ones for a run inside. -/
def ofRuns (pieces : List String) : CharSet := ⟨readRuns (pieces.flatMap String.toList) false 0 0⟩

def isEmpty (s : CharSet) : Bool := s.borders.isEmpty

/-- Whether every member is below `n`. -/
def isBelow (n : Nat) (s : CharSet) : Bool := s.borders.all (· ≤ n)

end CharSet

end RecordService
