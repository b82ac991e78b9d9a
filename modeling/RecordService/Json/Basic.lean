import RecordService.Number.Shortest
/-!
# JSON values

Objects keep the order of their members, and arrays theirs.  Numbers are either integers or doubles,
and the two never compare equal as values: `1` is not `1.0`.  Equality of objects ignores the order
of the members.
-/
namespace RecordService

inductive Number where
  | int (value : Int)
  | double (value : Double)
  deriving DecidableEq, Inhabited

inductive Json where
  | null
  | bool (value : Bool)
  | num (value : Number)
  | str (value : String)
  | arr (items : List Json)
  | obj (members : List (String × Json))
  deriving Inhabited

/-- One record: the cells of a row by column name, in order. -/
abbrev Row := List (String × Json)

namespace Number

/-- Equality of values of one kind; both zeros are the same double. -/
def same : Number → Number → Bool
  | .int a, .int b => a == b
  | .double a, .double b => a.toInt == b.toInt
  | _, _ => false

/-- The value as a double, rounding integers that need more than 53 binary digits. -/
def toDouble : Number → Double
  | .int i => Double.ofInt i
  | .double d => d

def text : Number → String
  | .int i => toString i
  | .double d => Layout.document.write d

end Number

/-! ## Members

The first member with a name is the one that counts.  Setting a member keeps its place, and a new
member goes to the end. -/

namespace Row

def get? : Row → String → Option Json
  | [], _ => none
  | (k, v) :: rest, name => if k = name then some v else get? rest name

def has (row : Row) (name : String) : Bool := (get? row name).isSome

def set : Row → String → Json → Row
  | [], name, value => [(name, value)]
  | (k, v) :: rest, name, value => if k = name then (k, value) :: rest else (k, v) :: set rest name value

def keys (row : Row) : List String := row.map Prod.fst

end Row

namespace Json

def isNull : Json → Bool
  | .null => true
  | _ => false

def string? : Json → Option String
  | .str s => some s
  | _ => none

def number? : Json → Option Number
  | .num n => some n
  | _ => none

/-- An integer within 64 bits with a sign. -/
def int64? : Json → Option Int
  | .num (.int i) => if -9223372036854775808 ≤ i && i ≤ 9223372036854775807 then some i else none
  | _ => none

/-- The name of the kind of value, as messages give it. -/
def kindName : Json → String
  | .null => "null"
  | .bool _ => "boolean"
  | .num _ => "number"
  | .str _ => "string"
  | .arr _ => "array"
  | .obj _ => "object"

/-! ## Equality -/

mutual
def same : Json → Json → Bool
  | .null, .null => true
  | .bool a, .bool b => a == b
  | .num a, .num b => a.same b
  | .str a, .str b => a == b
  | .arr xs, .arr ys => sameItems xs ys
  | .obj xs, .obj ys => xs.length == ys.length && sameMembers xs ys
  | _, _ => false
termination_by structural x => x

def sameItems : List Json → List Json → Bool
  | [], [] => true
  | x :: xs, y :: ys => same x y && sameItems xs ys
  | _, _ => false
termination_by structural x => x

/-- Every member has a namesake with the same value. -/
def sameMembers : List (String × Json) → List (String × Json) → Bool
  | [], _ => true
  | (k, v) :: xs, ys =>
    (match Row.get? ys k with
      | some w => same v w
      | none => false) && sameMembers xs ys
termination_by structural x => x
end

end Json

end RecordService
