import RecordService.Json.Basic
/-!
# Predicates

A condition on one field of a row, or a composition of conditions.  A list of predicates is read as
their conjunction.  An empty `and` holds of every row and an empty `or` of none, so the latter is the
condition that denies everything.
-/
namespace RecordService

inductive Comparison where
  | eq
  | ne
  | gt
  | gte
  | lt
  | lte
  | like
  | ilike
  deriving DecidableEq

namespace Comparison

def symbol : Comparison → String
  | .eq => "="
  | .ne => "<>"
  | .gt => ">"
  | .gte => ">="
  | .lt => "<"
  | .lte => "<="
  | .like => "LIKE"
  | .ilike => "ILIKE"

/-- Whether the operand is a pattern for text. -/
def takesPattern : Comparison → Bool
  | .like => true
  | .ilike => true
  | _ => false

end Comparison

inductive Predicate where
  | compare (field : String) (op : Comparison) (value : Json)
  | oneOf (field : String) (values : List Json) (negated : Bool)
  | isNull (field : String) (negated : Bool)
  | and (group : List Predicate)
  | or (group : List Predicate)
  deriving Inhabited

namespace Predicate

def eq (field : String) (value : Json) : Predicate := .compare field .eq value

def denyAll : Predicate := .or []

/-! ## Groups of one

A group with a single member is that member. -/

def all : List Predicate → Predicate
  | [p] => p
  | group => .and group

def any : List Predicate → Predicate
  | [p] => p
  | group => .or group

end Predicate

end RecordService
