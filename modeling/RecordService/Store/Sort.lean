import RecordService.Query.Page
import RecordService.Sorting.Quick
import RecordService.Store.Matching
/-!
# Ordering rows

Rows are sorted by several columns, of which the first that tells two rows apart decides.
-/
namespace RecordService.OrderBy

/-- The first ordering that tells two rows apart decides. -/
def compareRows : List OrderBy → Row → Row → Ordering
  | [], _, _ => .eq
  | o :: rest, a, b =>
    let order := Cell.sortOrder (a.cell o.field) (b.cell o.field)
    let order := match o.direction with
      | .asc => order
      | .desc => order.swap
    if order = .eq then compareRows rest a b else order

/-- None when the rows are found to be in no order.  They are compared as rows of this list. -/
def sortRows (orderBy : List OrderBy) (rows : List Row) : Option (List Row) :=
  if orderBy.isEmpty then some rows
  else
    let test (a b : {row // row ∈ rows}) : Bool := compareRows orderBy a.1 b.1 == .lt
    (Sorting.sort test rows.attach).map (List.map Subtype.val)

end RecordService.OrderBy
