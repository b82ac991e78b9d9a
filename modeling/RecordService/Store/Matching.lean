import RecordService.Query.Predicate
import RecordService.Store.Compare
/-!
# Which rows a predicate selects

A column that a row lacks is null.  A comparison with null holds of no row, whatever the comparison.
-/
namespace RecordService

def Row.cell (row : Row) (name : String) : Json := (row.get? name).getD .null

namespace Comparison

/-- Of two values that are not null. -/
def holds (op : Comparison) (cell value : Json) : Bool :=
  match op with
  | .eq => Cell.equal cell value
  | .ne => !Cell.equal cell value
  | .gt => Cell.compare? cell value == some .gt
  | .gte => Cell.compare? cell value == some .gt || Cell.compare? cell value == some .eq
  | .lt => Cell.compare? cell value == some .lt
  | .lte => Cell.compare? cell value == some .lt || Cell.compare? cell value == some .eq
  | .like => Cell.like false cell value
  | .ilike => Cell.like true cell value

end Comparison

namespace Predicate

mutual
def holds (row : Row) : Predicate → Bool
  | .compare field op value => !(row.cell field).isNull && !value.isNull && op.holds (row.cell field) value
  | .oneOf field values negated =>
    !(row.cell field).isNull && (values.any (Cell.equal (row.cell field)) != negated)
  | .isNull field negated => (row.cell field).isNull != negated
  | .and group => allHold row group
  | .or group => someHold row group
termination_by structural p => p

def allHold (row : Row) : List Predicate → Bool
  | [] => true
  | p :: rest => holds row p && allHold row rest
termination_by structural ps => ps

def someHold (row : Row) : List Predicate → Bool
  | [] => false
  | p :: rest => holds row p || someHold row rest
termination_by structural ps => ps
end

end Predicate

/-- Whether a row satisfies every predicate. -/
def Row.satisfies (filter : List Predicate) (row : Row) : Bool := Predicate.allHold row filter

end RecordService
