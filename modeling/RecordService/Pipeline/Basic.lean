import RecordService.Pipeline.Context
import RecordService.Query.Scope
import RecordService.Text.Blank
import RecordService.Validate.Validators
/-!
# Pipelines

All that the operations of one entity depend on.  A pipeline is built only for an entity that has a
table, an identifier column and a soft deletion that can be told apart, however the entity came about.
-/
namespace RecordService

structure Pipeline where
  entity : Entity
  validators : Validators
  hooks : Hooks
  scope : Scope

namespace Pipeline

/-- What the declaration asks for and no more. -/
def of (e : Entity) : Pipeline := ⟨e, e.validators, .none, .ofRules e.scope⟩

end Pipeline

namespace SoftDelete

/-- Why records could not be marked as deleted. -/
def fault? (e : Entity) (s : SoftDelete) : Option String :=
  if s.field.isEmpty then some "field is required"
  else if !e.hasColumn s.field then some ("field " ++ s.field ++ " is not a column")
  else
    match s.deletedValue with
    | .literal .null => some "deletedValue must not be null"
    | _ => none

end SoftDelete

namespace Entity

def checkParts (e : Entity) : Except ConfigError Unit :=
  if Text.isAllBlank e.table then .error (.missingReference "table" e.name)
  else if !e.hasColumn e.idField then .error (.invalidIdField e.name e.idField)
  else
    match e.softDelete.bind (SoftDelete.fault? e) with
    | some reason => .error (.softDelete e.name reason)
    | none => .ok ()

end Entity

/-- The pipeline itself, if its entity has all its parts. -/
def Pipeline.checked (p : Pipeline) : Except ConfigError Pipeline := p.entity.checkParts.map fun _ => p

end RecordService
