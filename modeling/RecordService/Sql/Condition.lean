import RecordService.Entity
import RecordService.Query.Predicate
import RecordService.Sql.Fragment
/-!
# Conditions

A predicate as an SQL condition.  A value is cast to the type of its column, except a pattern, which is
compared with the column as text.  Empty lists and groups are written as constants.
-/
namespace RecordService.Sql

def cast (e : Entity) (column : String) : Option String := (e.column? column).bind (·.pgType)

def hole (e : Entity) (column : String) (value : Json) : Fragment := [.hole (cast e column) value]

def comparison (e : Entity) (field : String) (op : Comparison) (value : Json) : Fragment :=
  if op.takesPattern then [.name field, .words ("::text " ++ op.symbol ++ " "), .hole none value]
  else [.name field, .words (" " ++ op.symbol ++ " ")] ++ hole e field value

def membership (e : Entity) (field : String) (values : List Json) (negated : Bool) : Fragment :=
  if values.isEmpty then [.words (if negated then "TRUE" else "FALSE")]
  else [.name field, .words (if negated then " NOT IN " else " IN ")] ++
    Fragment.parenthesized (Fragment.commas (values.map (hole e field)))

def nullCheck (field : String) (negated : Bool) : Fragment :=
  [.name field, .words (if negated then " IS NOT NULL" else " IS NULL")]

/-- A group of one needs no parentheses. -/
def grouped (separator empty : String) : List Fragment → Fragment
  | [] => [.words empty]
  | [f] => f
  | fs => Fragment.parenthesized (Fragment.joined separator fs)

mutual
def condition (e : Entity) : Predicate → Fragment
  | .compare field op value => comparison e field op value
  | .oneOf field values negated => membership e field values negated
  | .isNull field negated => nullCheck field negated
  | .and group => grouped " AND " "TRUE" (conditions e group)
  | .or group => grouped " OR " "FALSE" (conditions e group)
termination_by structural p => p

def conditions (e : Entity) : List Predicate → List Fragment
  | [] => []
  | p :: rest => condition e p :: conditions e rest
termination_by structural ps => ps
end

/-- Nothing at all when there is no predicate. -/
def whereClause (e : Entity) (filter : List Predicate) : Fragment :=
  if filter.isEmpty then [] else [.words " WHERE "] ++ Fragment.joined " AND " (conditions e filter)

end RecordService.Sql
