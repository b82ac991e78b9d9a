import RecordService.Query.Page
import RecordService.Validate.Record
/-!
# Validators

A validator accepts a value, perhaps in another form, or refuses it with issues.  A pipeline needs five
of them: for new records, for changes, for list parameters, for identifiers and for conditions.
-/
namespace RecordService

abbrev Validator := Json → Except ServiceError Json

def expectObject : Json → Except ServiceError Row
  | .obj members => .ok members
  | v => .error (.issue "body" ("expected an object, got " ++ v.kindName))

namespace Entity

/-! ## Records and identifiers -/

def recordValidator (e : Entity) (payload : Payload) : Validator := fun v =>
  expectObject v >>= fun body => (e.checkRecord payload body).map .obj

def idValidator (e : Entity) : Validator := fun v =>
  match e.idType.parse v with
  | .ok id => .ok id
  | .error message => .error (.issue e.idField message)

/-! ## Conditions

Conditions are about columns; the identifier takes its own form unless it is null. -/

def judgeCondition (e : Entity) (name : String) (v : Json) : Verdict :=
  if !e.hasColumn name then .pass
  else if name = e.idField && !v.isNull then .ofExcept (e.idType.parse v)
  else .keep v

def keptConditions (e : Entity) (body : Row) : Row :=
  body.filterMap fun (name, v) => (e.judgeCondition name v).kept?.map (name, ·)

def conditionIssues (e : Entity) (body : Row) : List Issue :=
  body.filterMap fun (name, v) => (e.judgeCondition name v).refusal?.map (⟨name, ·⟩)

def conditionValidator (e : Entity) : Validator := fun v => do
  let body ← expectObject v
  ServiceError.ofIssues (e.conditionIssues body)
  return .obj (e.keptConditions body)

end Entity

/-! ## List parameters -/

namespace ListParams

def ofJson (v : Json) : Except ServiceError ListParams :=
  match decode v with
  | .ok p => .ok p
  | .error _ => .error (.issue "params" "cannot be read as list parameters")

/-- Null asks for everything in the standard way. -/
def read : Json → Except ServiceError ListParams
  | .null => .ok standard
  | v => ofJson v

def issues (p : ListParams) : List Issue :=
  (if p.page = some 0 then [⟨"page", "must be at least 1"⟩] else []) ++
  (if p.perPage = some 0 then [⟨"perPage", "must be at least 1"⟩] else [])

def validator : Validator := fun v => do
  let p ← read v
  ServiceError.ofIssues p.issues
  return p.encode

end ListParams

/-! ## The set of five -/

structure Validators where
  record : Validator
  changes : Validator
  list : Validator
  id : Validator
  conditions : Validator

/-- The validators that follow from the columns of an entity and its rules. -/
def Entity.validators (e : Entity) : Validators where
  record := e.recordValidator .record
  changes := e.recordValidator .changes
  list := ListParams.validator
  id := e.idValidator
  conditions := e.conditionValidator

end RecordService
