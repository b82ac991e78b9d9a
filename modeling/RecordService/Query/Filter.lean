import RecordService.Query.Predicate
/-!
# Filters

A filter is a JSON object.  A field maps to a value it must equal, or to an object of operators; `AND`
and `OR` hold arrays of nested filters.  Compiling a filter never fails: an unknown operator, a field
that may not be filtered by, a null value or a malformed part contributes nothing, and a group whose
entries contribute nothing leaves no trace.
-/
namespace RecordService.Filter

def andKey : String := "AND"

def orKey : String := "OR"

/-! ## One field -/

/-- A single operand stands for a list of one. -/
def operandList : Json → Option (List Json)
  | .null => none
  | .arr values => some values
  | single => some [single]

def comparison (field : String) (op : Comparison) (operand : Json) : Option Predicate :=
  if operand.isNull then none else some (.compare field op operand)

def compileOperator (field : String) (op : String × Json) : Option Predicate :=
  match op.1 with
  | "equals" => if op.2.isNull then some (.isNull field false) else comparison field .eq op.2
  | "not" => if op.2.isNull then some (.isNull field true) else comparison field .ne op.2
  | "gt" => comparison field .gt op.2
  | "gte" => comparison field .gte op.2
  | "lt" => comparison field .lt op.2
  | "lte" => comparison field .lte op.2
  | "like" => comparison field .like op.2
  | "ilike" => comparison field .ilike op.2
  | "in" => (operandList op.2).map fun values => .oneOf field values false
  | "notIn" => (operandList op.2).map fun values => .oneOf field values true
  | _ => none

def compileValue (field : String) : Json → List Predicate
  | .null => []
  | .arr _ => []
  | .obj operators => operators.filterMap (compileOperator field)
  | scalar => [.eq field scalar]

def compileField (allowed : String → Bool) (field : String × Json) : List Predicate :=
  if field.1 = andKey || field.1 = orKey || !allowed field.1 then [] else compileValue field.1 field.2

/-! ## Groups

`assemble` joins the three parts of a filter: what all of the `AND` entries ask, what one of the `OR`
entries asks, and the plain fields. -/

def assemble (ands ors fields : List Predicate) : List Predicate :=
  (if ands.isEmpty then [] else [.all ands]) ++ (if ors.isEmpty then [] else [.any ors]) ++ fields

def entry (parts : List Predicate) : List Predicate := if parts.isEmpty then [] else [.all parts]

mutual
/-- The entries of the group under `key`, each as one predicate. -/
def groupAt (allowed : String → Bool) (key : String) : List (String × Json) → List Predicate
  | [] => []
  | (k, v) :: rest => if k = key then groupOf allowed v else groupAt allowed key rest
termination_by structural members => members

def groupOf (allowed : String → Bool) : Json → List Predicate
  | .arr entries => groupEntries allowed entries
  | _ => []
termination_by structural v => v

def groupEntries (allowed : String → Bool) : List Json → List Predicate
  | [] => []
  | v :: rest => groupEntry allowed v ++ groupEntries allowed rest
termination_by structural entries => entries

def groupEntry (allowed : String → Bool) : Json → List Predicate
  | .obj members =>
    entry (assemble (groupAt allowed andKey members) (groupAt allowed orKey members)
      (members.flatMap (compileField allowed)))
  | _ => []
termination_by structural v => v
end

/-- The predicates of a filter, to be read as their conjunction. -/
def compile (allowed : String → Bool) (filter : Row) : List Predicate :=
  assemble (groupAt allowed andKey filter) (groupAt allowed orKey filter) (filter.flatMap (compileField allowed))

end RecordService.Filter
