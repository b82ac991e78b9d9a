/-!
# UTF-8

A character takes one to four octets.  The first one says how many follow, and the second one may be
restricted so that no character has two forms.  An ill-formed piece ends where no character can begin
with the octets read so far, and stands for itself alone.
-/
namespace RecordService.Text

/-! ## Writing -/

def charOctets (c : Char) : List Nat :=
  let n := c.toNat
  if n < 0x80 then [n]
  else if n < 0x800 then [0xC0 + n / 64, 0x80 + n % 64]
  else if n < 0x10000 then [0xE0 + n / 4096, 0x80 + n / 64 % 64, 0x80 + n % 64]
  else [0xF0 + n / 262144, 0x80 + n / 4096 % 64, 0x80 + n / 64 % 64, 0x80 + n % 64]

def octets (cs : List Char) : List Nat := cs.flatMap charOctets

/-! ## Reading -/

/-- A character that has begun. -/
structure Begun where
  /-- How many octets are still to come, less one. -/
  more : Nat
  /-- The least and the greatest octet that may come next. -/
  low : Nat
  high : Nat
  /-- The bits so far. -/
  bits : Nat

def begin? (octet : Nat) : Option Begun :=
  if 0xC2 ≤ octet && octet ≤ 0xDF then some ⟨0, 0x80, 0xBF, octet - 0xC0⟩
  else if octet == 0xE0 then some ⟨1, 0xA0, 0xBF, 0⟩
  else if octet == 0xED then some ⟨1, 0x80, 0x9F, 13⟩
  else if 0xE1 ≤ octet && octet ≤ 0xEF then some ⟨1, 0x80, 0xBF, octet - 0xE0⟩
  else if octet == 0xF0 then some ⟨2, 0x90, 0xBF, 0⟩
  else if 0xF1 ≤ octet && octet ≤ 0xF3 then some ⟨2, 0x80, 0xBF, octet - 0xF0⟩
  else if octet == 0xF4 then some ⟨2, 0x80, 0x8F, 4⟩
  else none

/-- An octet at the beginning of a character: the piece it completes, or the character it begins. -/
def first (octet : Nat) : List (Option Char) × Option Begun :=
  if octet < 0x80 then ([some (Char.ofNat octet)], none)
  else
    match begin? octet with
    | some b => ([], some b)
    | none => ([none], none)

/-- One more octet: the pieces it completes, and what has begun. -/
def advance : Option Begun → Nat → List (Option Char) × Option Begun
  | none, octet => first octet
  | some b, octet =>
    if b.low ≤ octet && octet ≤ b.high then
      let bits := b.bits * 64 + octet % 64
      match b.more with
      | 0 => ([some (Char.ofNat bits)], none)
      | more + 1 => ([], some ⟨more, 0x80, 0xBF, bits⟩)
    else
      let (pieces, next) := first octet
      (none :: pieces, next)

/-- The pieces of the text; an ill-formed one is none. -/
def decodeFrom : Option Begun → List Nat → List (Option Char)
  | none, [] => []
  | some _, [] => [none]
  | state, octet :: rest => (advance state octet).1 ++ decodeFrom (advance state octet).2 rest

/-- The text, if it is well formed. -/
def decode? (octets : List Nat) : Option (List Char) := (decodeFrom none octets).mapM id

/-- The text with every ill-formed piece replaced. -/
def decodeLossy (octets : List Nat) : List Char := (decodeFrom none octets).map (·.getD '\uFFFD')

end RecordService.Text
