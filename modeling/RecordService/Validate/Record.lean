import RecordService.Entity
import RecordService.Validate.Id
import RecordService.Validate.Rule
/-!
# Records

A payload is either a whole record to be stored or the changes to one.  The members that are no columns
are passed over, as is the identifier among changes.  What is wrong is found in three steps: member by
member, then what is missing, then rule by rule.
-/
namespace RecordService

inductive Payload where
  | record
  | changes
  deriving DecidableEq

/-! ## Members -/

inductive Verdict where
  | keep (value : Json)
  | pass
  | refuse (message : String)

namespace Verdict

def kept? : Verdict → Option Json
  | keep v => some v
  | _ => none

def refusal? : Verdict → Option String
  | refuse message => some message
  | _ => none

def ofExcept : Except String Json → Verdict
  | .ok v => .keep v
  | .error message => .refuse message

end Verdict

namespace Entity

/-- A column that is filled without the caller's help. -/
def isManaged (e : Entity) (name : String) : Bool :=
  name == e.idField || e.createdAt == some name || e.updatedAt == some name ||
    e.softDelete.any (·.field == name)

def judge (e : Entity) (payload : Payload) (name : String) (v : Json) : Verdict :=
  match e.column? name with
  | none => .pass
  | some c =>
    if name = e.idField then
      match payload with
      | .record => .ofExcept (e.idType.parse v)
      | .changes => .pass
    else if v.isNull && !c.nullable then .refuse "must not be null"
    else .keep v

def keptMembers (e : Entity) (payload : Payload) (body : Row) : Row :=
  body.filterMap fun (name, v) => (e.judge payload name v).kept?.map (name, ·)

def memberIssues (e : Entity) (payload : Payload) (body : Row) : List Issue :=
  body.filterMap fun (name, v) => (e.judge payload name v).refusal?.map (⟨name, ·⟩)

/-! ## Missing members -/

/-- Whether a record has to hold the column. -/
def needs (e : Entity) (c : Column) : Bool := !c.nullable && !c.hasDefault && !e.isManaged c.name

def missingIssues (e : Entity) : Payload → Row → List Issue
  | .record, kept => (e.columns.filter fun c => e.needs c && !kept.has c.name).map fun c => ⟨c.name, "is required"⟩
  | .changes, _ => []

/-! ## Rules -/

/-- Whether the rule asks for a value that is not there. -/
def lacks (payload : Payload) (r : Rule) (value : Option Json) : Bool :=
  payload == .record && r.required == some true && value.all Json.isNull

/-- A field that is already refused is not reported as missing once more. -/
def ruleIssues (payload : Payload) (kept : Row) (found : List Issue) (name : String) (r : Rule) : List Issue :=
  if lacks payload r (kept.get? name) then
    if found.any (·.field == name) then [] else [⟨name, "is required"⟩]
  else (kept.get? name).elim [] fun v => (r.faults v).map (⟨name, ·⟩)

/-! ## The whole payload -/

def recordIssues (e : Entity) (payload : Payload) (body : Row) : List Issue :=
  let kept := e.keptMembers payload body
  let found := e.memberIssues payload body ++ e.missingIssues payload kept
  found ++ e.rules.flatMap fun (name, r) => ruleIssues payload kept found name r

/-- The members to be stored, when nothing is wrong. -/
def checkRecord (e : Entity) (payload : Payload) (body : Row) : Except ServiceError Row :=
  (ServiceError.ofIssues (e.recordIssues payload body)).map fun _ => e.keptMembers payload body

end Entity

end RecordService
