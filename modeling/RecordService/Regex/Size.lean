import RecordService.Regex.Build
/-!
# The size of an expression

An expression is searched for by automata that read the octets of a text, one of them forwards and one
backwards.  A state takes 32 octets, each of its transitions over a range of octets 8 and each of its
other transitions 4.  An expression is too large when one of its automata takes more than ten mebibytes,
so that a short pattern with large counts is not accepted.
-/
namespace RecordService

namespace Regex

/-! ## Sets as ranges of octets -/

/-- The sequences of octet ranges for the numbers from `low` to `high`, written with a first octet and `more`
further ones of six bits each. -/
def octetRanges (lead : Nat) : Nat → Nat → Nat → List (List (Nat × Nat))
  | 0, low, high => if low ≤ high then [[(lead + low, lead + high)]] else []
  | more + 1, low, high =>
    let unit := 64 ^ (more + 1)
    let (first, last) := (low / unit, high / unit)
    let within (block least greatest : Nat) :=
      (octetRanges 128 more least greatest).map ((lead + block, lead + block) :: ·)
    if high < low then []
    else if first = last then within first (low % unit) (high % unit)
    else
      let startsFull := low % unit == 0
      let endsFull := high % unit == unit - 1
      let head := if startsFull then first else first + 1
      let stop := if endsFull then last + 1 else last
      (if startsFull then [] else within first (low % unit) (unit - 1)) ++
      (if head < stop then
        [(lead + head, lead + (stop - 1)) :: List.replicate (more + 1) (128, 191)]
      else []) ++
      (if endsFull then [] else within last 0 (high % unit))

/-- The lengths of characters in octets: the first octet without its bits, and the least and the greatest number.
Surrogates are no characters. -/
def lengthClasses : List (Nat × Nat × Nat × Nat) :=
  [(0, 0, 0, 0x7F), (0xC0, 1, 0x80, 0x7FF), (0xE0, 2, 0x800, 0xD7FF), (0xE0, 2, 0xE000, 0xFFFF),
   (0xF0, 3, 0x10000, 0x10FFFF)]

def sequencesOf (set : CharSet) : List (List (Nat × Nat)) :=
  set.ranges.flatMap fun r => lengthClasses.flatMap fun (lead, more, low, high) =>
    octetRanges lead more (max r.1 low) (min r.2 high)

/-! ## Automata of sets -/

/-- Both sizes of a part, in octets. -/
structure Size where
  forward : Nat
  backward : Nat
  deriving DecidableEq, Inhabited

namespace Size

def same (n : Nat) : Size := ⟨n, n⟩

def add (a b : Size) : Size := ⟨a.forward + b.forward, a.backward + b.backward⟩

def scale (n : Nat) (a : Size) : Size := ⟨n * a.forward, n * a.backward⟩

instance : Add Size := ⟨add⟩

def limit : Nat := 10485760

def isTooLarge (a : Size) : Bool := limit < a.forward || limit < a.backward

end Size

def sharedStart : List (Nat × Nat) → List (Nat × Nat) → Nat
  | a :: as, b :: bs => if a = b then sharedStart as bs + 1 else 0
  | _, _ => 0

/-- How many beginnings the sequences have; equal ones stand together. -/
def beginnings : List (Nat × Nat) → List (List (Nat × Nat)) → Nat
  | _, [] => 0
  | previous, s :: rest => s.length - sharedStart previous s + beginnings s rest

/-- Sequences that begin alike are put together, without what they begin with. -/
def byFirst : List (List (Nat × Nat)) → List ((Nat × Nat) × List (List (Nat × Nat)))
  | [] => []
  | [] :: rest => byFirst rest
  | (a :: more) :: rest =>
    match byFirst rest with
    | (b, tails) :: others => if a = b then (a, more :: tails) :: others else (a, [more]) :: (b, tails) :: others
    | [] => [(a, [more])]

/-- The states behind the end of the target: each is known by the sequences that are left, and is listed for
each way to it. -/
def statesOf : Nat → List (List (Nat × Nat)) → List (List (List (Nat × Nat)))
  | 0, _ => []
  | steps + 1, sequences =>
    if sequences.all List.isEmpty then []
    else sequences :: (byFirst sequences).flatMap fun (_, tails) => statesOf steps tails

def key (sequences : List (List (Nat × Nat))) : List Nat :=
  sequences.length :: sequences.flatMap fun s => s.flatMap fun r => [r.1, r.2]

/-- Forwards, states with the same sequences left are one, and are followed by one target. -/
def forwardSize (sequences : List (List (Nat × Nat))) : Nat :=
  let states := (statesOf 5 sequences).map fun s => (key s, (byFirst s).length)
  let sorted := states.mergeSort fun a b => !List.lex b.1 a.1 Nat.blt
  sorted.eraseReps.foldl (fun size s => size + (32 + 8 * s.2)) 32

/-- Backwards there is a state for each beginning of a sequence, one that branches to the sequences, and one
target. -/
def backwardSize (sequences : List (List (Nat × Nat))) : Nat :=
  64 + 32 * beginnings [] sequences + 4 * sequences.length

/-- One character is a chain of octets, and a set of ASCII one state and its target. -/
def setSize (set : CharSet) : Size :=
  match set.ranges with
  | [(low, high)] =>
    if low = high then .same (32 * (String.singleton (Char.ofNat low)).utf8ByteSize) else branching
  | _ => branching
where
  branching : Size :=
    if set.isBelow 128 then .same (64 + 8 * set.ranges.length)
    else ⟨forwardSize (sequencesOf set), backwardSize (sequencesOf set)⟩

/-! ## Automata of expressions -/

/-- A repetition that may end takes a state for each choice. -/
def repeatedSize (part : Size) (mayBeEmpty : Bool) (least : Nat) (most : Option Nat) : Size :=
  match least, most with
  | 0, some 1 => part + .same 72
  | 0, none => part + .same (if mayBeEmpty then 112 else 40)
  | least, none => part.scale least + .same 40
  | least, some most =>
    let start := if least = 0 then .same 32 else part.scale least
    if most ≤ least then start else start + .same 32 + (part + .same 40).scale (most - least)

/-- The size of a part; one that is a branch of a choice is counted with the transition to it. -/
def partSize : Bool → Regex → Size
  | isBranch, empty => .same (if isBranch then 36 else 32)
  | isBranch, chars set => setSize set + .same (if isBranch then 4 else 0)
  | isBranch, assertion _ => .same (if isBranch then 36 else 32)
  | isBranch, group r => partSize false r + ⟨64, 0⟩ + .same (if isBranch then 4 else 0)
  | isBranch, cat first second =>
    partSize false first + partSize false second + .same (if isBranch then 4 else 0)
  | isBranch, alt first second =>
    partSize true first + partSize true second + .same (if isBranch then 0 else 64)
  | isBranch, repeated r least most =>
    repeatedSize (partSize false r) (!(r.shortest.any (0 < ·))) least most + .same (if isBranch then 4 else 0)

/-- Whether an anchor stands at one end of every match, before any character, and whether no character is
ever taken. -/
def edge (anchor : Assertion → Bool) (backwards : Bool) : Regex → Bool × Bool
  | empty => (false, true)
  | chars _ => (false, false)
  | assertion a => (anchor a, true)
  | group r => r.edge anchor backwards
  | cat first second =>
    let (a, b) := (first.edge anchor backwards, second.edge anchor backwards)
    let (near, far) := if backwards then (b, a) else (a, b)
    (near.1 || near.2 && far.1, near.2 && far.2)
  | alt first second =>
    let (a, b) := (first.edge anchor backwards, second.edge anchor backwards)
    (a.1 && b.1, a.2 && b.2)
  | repeated r least _ =>
    let a := r.edge anchor backwards
    (0 < least && a.1, a.2)

/-- The whole automata, with what skips to the place where a match begins, unless that is fixed. -/
def size (r : Regex) : Size :=
  let atStart := (r.edge (fun a => a matches .textStart) false).1
  let atEnd := (r.edge (fun a => a matches .textEnd) true).1
  partSize false r + ⟨if atStart then 128 else 208, if atEnd then 64 else 144⟩

end Regex

end RecordService
