import RecordService.Text.Utf8
/-!
# Percent-encoded text

`%` and two hexadecimal digits stand for an octet.  Anything else stands for itself, also a `%` that is
not followed by two digits.
-/
namespace RecordService.Percent

/-- The value of a hexadecimal digit, which is given by its octet. -/
def digit? (octet : Nat) : Option Nat :=
  if 48 ≤ octet && octet ≤ 57 then some (octet - 48)
  else if 65 ≤ octet && octet ≤ 70 then some (octet - 55)
  else if 97 ≤ octet && octet ≤ 102 then some (octet - 87)
  else none

/-- The octet that two digits stand for. -/
def pair? (a b : Nat) : Option Nat :=
  match digit? a, digit? b with
  | some high, some low => some (16 * high + low)
  | _, _ => none

def decodeOctets : List Nat → List Nat
  | 37 :: a :: b :: rest =>
    match pair? a b with
    | some octet => octet :: decodeOctets rest
    | none => 37 :: decodeOctets (a :: b :: rest)
  | octet :: rest => octet :: decodeOctets rest
  | [] => []

/-- A part of a path, unless its octets are no text. -/
def decode? (part : List Char) : Option String :=
  (Text.decode? (decodeOctets (Text.octets part))).map String.ofList

end RecordService.Percent
