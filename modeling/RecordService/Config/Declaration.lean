import RecordService.Json.Basic
/-!
# Entity declarations

An entity is declared by its table, its columns and the rules its records obey.  A declaration is
what a configuration file says; `Entity` is what it means once settings have filled the gaps.
-/
namespace RecordService

/-! ## Columns -/

inductive ColumnType where
  | plain (name : String)
  | withParams (name : String) (params : Option (List Nat))

def ColumnType.name : ColumnType → String
  | .plain name => name
  | .withParams name _ => name

/-- A literal is a value; an expression is evaluated by the database. -/
inductive ColumnDefault where
  | literal (text : String)
  | expression (text : String)

structure ColumnDeclaration where
  name : String
  type : ColumnType
  nullable : Bool
  default : Option ColumnDefault

inductive IdType where
  | uuid
  | bigint
  | int
  | text
  deriving DecidableEq, Inhabited

def IdType.words : List (String × IdType) :=
  [("uuid", .uuid), ("bigint", .bigint), ("int", .int), ("text", .text)]

def IdType.name : IdType → String
  | .uuid => "uuid"
  | .bigint => "bigint"
  | .int => "int"
  | .text => "text"

/-! ## Soft deletion

A deleted record keeps its row; a field tells it apart. -/

/-- What deletion writes: the time of the call, or a value. -/
inductive DeletedValue where
  | now
  | literal (value : Json)

structure SoftDelete where
  field : String
  deletedValue : DeletedValue
  notDeletedValue : Json

namespace SoftDelete

/-- The time of deletion in `field`, null while the record is there. -/
def timestamp (field : String) : SoftDelete := ⟨field, .now, .null⟩

/-- The value that marks a record as deleted at the time `now`. -/
def marker (s : SoftDelete) (now : String) : Json :=
  match s.deletedValue with
  | .now => .str now
  | .literal v => v

end SoftDelete

/-! ## The rest of a declaration -/

structure Timestamps where
  createdAt : Option String
  updatedAt : Option String

structure PageSizes where
  default : Option Nat
  max : Option Nat

/-- Records are restricted to those whose `column` holds the caller's value for `key`. -/
structure ScopeRule where
  key : String
  column : String
  /-- Whether a caller without a value sees nothing rather than everything. -/
  required : Bool

/-- What a column's values have to satisfy. -/
structure Rule where
  required : Option Bool
  format : Option String
  maxLength : Option Nat
  minLength : Option Nat
  pattern : Option String
  allowed : Option (List Json)
  minimum : Option Double
  maximum : Option Double

structure Declaration where
  name : String
  schema : Option String
  table : String
  idField : String
  idType : IdType
  columns : List ColumnDeclaration
  /-- Without a list every column can be filtered by. -/
  allowedFilters : Option (List String)
  searchFields : List String
  softDelete : Option SoftDelete
  timestamps : Option Timestamps
  pagination : PageSizes
  scope : List ScopeRule
  rules : List (String × Rule)

end RecordService
