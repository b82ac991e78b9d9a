import RecordService.Config.Check
import RecordService.Config.Settings
import RecordService.Text.Fold
/-!
# Entities

An entity is a checked declaration with every gap filled: the schema and the page sizes come from the
settings, the filterable columns and the database type of each column are settled.
-/
namespace RecordService

structure Column where
  name : String
  nullable : Bool
  /-- Whether the database fills the column when a row leaves it out. -/
  hasDefault : Bool
  /-- The default, when it is a value rather than an expression. -/
  defaultLiteral : Option String
  /-- The type that values bound for the column are cast to, when it is known. -/
  pgType : Option String

structure Entity where
  name : String
  schema : String
  table : String
  idField : String
  idType : IdType
  columns : List Column
  allowedFilters : List String
  searchFields : List String
  softDelete : Option SoftDelete
  createdAt : Option String
  updatedAt : Option String
  defaultPageSize : Nat
  maxPageSize : Nat
  scope : List ScopeRule
  rules : List (String × Rule)

namespace Entity

def findColumn : List Column → String → Option Column
  | [], _ => none
  | c :: rest, name => if c.name = name then some c else findColumn rest name

def column? (e : Entity) (name : String) : Option Column := findColumn e.columns name

def hasColumn (e : Entity) (name : String) : Bool := (e.column? name).isSome

def columnNames (e : Entity) : List String := e.columns.map (·.name)

/-- The name a store keeps the table under. -/
def qualifiedName (e : Entity) : String := e.schema ++ "." ++ e.table

end Entity

/-! ## Column types

Spellings of one database type are brought together.  A name with a schema is a type of its own. -/

def startsWith (start s : String) : Bool := start.toList.isPrefixOf s.toList

def isInfix (part : List Char) : List Char → Bool
  | [] => part.isEmpty
  | c :: cs => part.isPrefixOf (c :: cs) || isInfix part cs

def containsText (part s : String) : Bool := isInfix part.toList s.toList

namespace ColumnType

def pgType (t : ColumnType) : Option String :=
  let lower := Text.lowerAscii t.name
  if lower == "timestamptz" || lower == "timestamp with time zone" then some "timestamptz"
  else if lower == "timestamp" || startsWith "timestamp " lower then some "timestamp"
  else if lower == "date" then some "date"
  else if containsText "uuid" lower then some "uuid"
  else if ["integer", "int", "int4", "serial"].contains lower then some "integer"
  else if ["bigint", "int8", "bigserial"].contains lower then some "bigint"
  else if ["smallint", "int2"].contains lower then some "smallint"
  else if lower == "boolean" || lower == "bool" then some "boolean"
  else if lower == "text" || startsWith "varchar" lower || startsWith "character varying" lower then some "text"
  else if lower == "numeric" || lower == "decimal" then some "numeric"
  else if lower == "jsonb" || lower == "json" then some lower
  else if t.name.toList.contains '.' then some t.name
  else none

end ColumnType

/-! ## Resolving declarations -/

namespace Declaration

def resolveColumn (c : ColumnDeclaration) : Column where
  name := c.name
  nullable := c.nullable
  hasDefault := c.default.isSome
  defaultLiteral :=
    match c.default with
    | some (.literal text) => some text
    | _ => none
  pgType := c.type.pgType

def resolveOne (settings : Settings) (d : Declaration) : Except ConfigError Entity := do
  let defaultPageSize := d.pagination.default.getD settings.defaultPageSize
  let maxPageSize := d.pagination.max.getD settings.maxPageSize
  require (defaultPageSize ≤ maxPageSize)
    (.invalid (d.name ++ ": default page size " ++ toString defaultPageSize ++ " exceeds max page size " ++
      toString maxPageSize))
  return {
    name := d.name
    schema := d.schema.getD settings.defaultSchema
    table := d.table
    idField := d.idField
    idType := d.idType
    columns := d.columns.map resolveColumn
    allowedFilters := d.allowedFilters.getD d.columnNames
    searchFields := d.searchFields
    softDelete := d.softDelete
    createdAt := d.timestamps.bind (·.createdAt)
    updatedAt := d.timestamps.bind (·.updatedAt)
    defaultPageSize
    maxPageSize
    scope := d.scope
    rules := d.rules
  }

/-- The entities of a checked list of declarations. -/
def resolve (settings : Settings) (ds : List Declaration) : Except ConfigError (List Entity) := do
  checkAll ds
  ds.mapM (resolveOne settings)

end Declaration

end RecordService
