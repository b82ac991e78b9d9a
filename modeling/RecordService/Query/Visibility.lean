import RecordService.Config.Declaration
import RecordService.Query.Predicate
/-!
# Visibility

Under soft deletion a reader sees the rows that are not marked as deleted.
-/
namespace RecordService

/-- The rows that are not marked as deleted. -/
def SoftDelete.visible (s : SoftDelete) : Predicate :=
  if s.notDeletedValue.isNull then .isNull s.field false else .eq s.field s.notDeletedValue

/-- Nothing is hidden without soft deletion, or when deleted rows are asked for. -/
def visibility (softDelete : Option SoftDelete) (includeDeleted : Bool) : List Predicate :=
  match softDelete with
  | some s => if includeDeleted then [] else [s.visible]
  | none => []

def applyVisibility (predicates : List Predicate) (softDelete : Option SoftDelete) (includeDeleted : Bool) :
    List Predicate :=
  predicates ++ visibility softDelete includeDeleted

end RecordService
