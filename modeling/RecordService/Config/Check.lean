import RecordService.Config.Declaration
import RecordService.Error
import RecordService.Text.Blank
/-!
# Checking declarations

Every column a declaration speaks of is one of its columns, and its parts fit together.  The checks run
in a fixed order and the first that fails is the one reported.
-/
namespace RecordService.Declaration

def columnNames (d : Declaration) : List String := d.columns.map (·.name)

def require (holds : Bool) (error : ConfigError) : Except ConfigError Unit :=
  if holds then .ok () else .error error

def requireColumn (d : Declaration) (kind column : String) : Except ConfigError Unit :=
  require (d.columnNames.contains column) (.missingReference kind (d.name ++ "." ++ column))

def requireColumns (d : Declaration) (kind : String) : List String → Except ConfigError Unit
  | [] => .ok ()
  | c :: rest => do
    d.requireColumn kind c
    requireColumns d kind rest

def distinct : List String → Bool
  | [] => true
  | s :: rest => !rest.contains s && distinct rest

def checkScope (d : Declaration) : List ScopeRule → Except ConfigError Unit
  | [] => .ok ()
  | rule :: rest => do
    require (!Text.isAllBlank rule.key) (.invalid (d.name ++ ": scope key must not be empty"))
    d.requireColumn "scope column" rule.column
    checkScope d rest

/-- A deleted record has to be told apart from one that is not. -/
def markersDiffer (s : SoftDelete) : Bool :=
  match s.deletedValue with
  | .now => true
  | .literal v => !v.isNull && !v.same s.notDeletedValue

def checkSoftDelete (d : Declaration) (s : SoftDelete) : Except ConfigError Unit := do
  require (!Text.isAllBlank s.field) (.softDelete d.name "field is required")
  require (d.columnNames.contains s.field) (.softDelete d.name ("field '" ++ s.field ++ "' is not a column"))
  require (s.field != d.idField) (.softDelete d.name "field must not be the id field")
  require (markersDiffer s) (.softDelete d.name "deletedValue must be set and differ from notDeletedValue")

def checkPages (d : Declaration) : Except ConfigError Unit := do
  require (d.pagination.default != some 0 && d.pagination.max != some 0)
    (.invalid (d.name ++ ": page sizes must be at least 1"))
  match d.pagination.default, d.pagination.max with
  | some size, some max =>
    require (size ≤ max)
      (.invalid (d.name ++ ": defaultPageSize " ++ toString size ++ " exceeds maxPageSize " ++ toString max))
  | _, _ => return

/-- The columns that hold the times of creation and of the last change. -/
def timestampColumns (d : Declaration) : List String :=
  match d.timestamps with
  | some t => t.createdAt.toList ++ t.updatedAt.toList
  | none => []

def check (d : Declaration) : Except ConfigError Unit := do
  require (!Text.isAllBlank d.name) (.invalid "entity name must not be empty")
  require (!Text.isAllBlank d.table) (.missingReference "table" d.name)
  require (distinct d.columnNames) (.invalid (d.name ++ ": duplicate column names"))
  require (d.columnNames.contains d.idField) (.invalidIdField d.name d.idField)
  d.requireColumns "filter column" (d.allowedFilters.getD [])
  d.requireColumns "search column" d.searchFields
  d.checkScope d.scope
  d.requireColumns "timestamp column" d.timestampColumns
  match d.softDelete with
  | some s => d.checkSoftDelete s
  | none => pure ()
  d.checkPages
  d.requireColumns "validation column" (d.rules.map Prod.fst)

/-- Each declaration in turn, and no name twice; `seen` holds the names so far. -/
def checkFrom (seen : List String) : List Declaration → Except ConfigError Unit
  | [] => .ok ()
  | d :: rest => do
    d.check
    require (!seen.contains d.name) (.duplicateEntity d.name)
    checkFrom (d.name :: seen) rest

def checkAll (ds : List Declaration) : Except ConfigError Unit := checkFrom [] ds

end RecordService.Declaration
