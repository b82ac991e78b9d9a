import RecordService.Json.Printer
/-!
# Bound values

How the database receives a parameter: a type, and either null or bytes.  Integers and doubles take
eight bytes with the most significant first, text is UTF-8, and arrays and objects are a version byte
and their compact document.
-/
namespace RecordService

inductive Bind where
  | null
  | bool (value : Bool)
  | int64 (value : Int)
  | double (value : Double)
  | text (value : String)
  | json (value : Json)

/-- The bits of a double: sign, eleven for the exponent, fifty-two for the fraction. -/
def Double.bits (d : Double) : Nat :=
  let place := Nat.log2 d.magnitude
  let body :=
    if d.magnitude < Nat.pow 2 52 then d.magnitude
    else (place - 51) * Nat.pow 2 52 + (d.magnitude / Nat.pow 2 (place - 52) - Nat.pow 2 52)
  (if d.negative then Nat.pow 2 63 else 0) + body

namespace Bind

/-- An integer that does not fit 64 bits with a sign is bound as a double. -/
def ofJson : Json → Bind
  | .null => .null
  | .bool b => .bool b
  | .num (.int i) =>
    if -9223372036854775808 ≤ i && i ≤ 9223372036854775807 then .int64 i else .double (Double.ofInt i)
  | .num (.double d) => .double d
  | .str s => .text s
  | v => .json v

def typeName : Bind → String
  | .null => "untyped"
  | .bool _ => "BOOL"
  | .int64 _ => "INT8"
  | .double _ => "FLOAT8"
  | .text _ => "TEXT"
  | .json _ => "JSONB"

/-- The last `count` bytes of a number, the most significant first. -/
def bigEndian : Nat → Nat → List UInt8
  | 0, _ => []
  | count + 1, n => bigEndian count (n / 256) ++ [UInt8.ofNat n]

/-- Nothing is sent for null. -/
def bytes? : Bind → Option (List UInt8)
  | .null => none
  | .bool b => some [if b then 1 else 0]
  | .int64 i => some (bigEndian 8 (i % 18446744073709551616).toNat)
  | .double d => some (bigEndian 8 d.bits)
  | .text s => some s.toUTF8.toList
  | .json v => some (1 :: v.compact.toUTF8.toList)

end Bind

end RecordService
