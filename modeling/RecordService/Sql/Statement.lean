import RecordService.Query.Selection
import RecordService.Sql.Condition
/-!
# Statements

The five statements over the table of an entity.  A statement says what is written and read; its
fragment is the SQL for it.
-/
namespace RecordService

/-- What one row gives one column. -/
inductive Entry where
  | value (v : Json)
  | default
  | null

inductive Statement where
  | select (selection : Selection)
  | count (filter : List Predicate)
  | insert (columns : List String) (tuples : List (List Entry))
  | update (changes : Row) (filter : List Predicate)
  | delete (filter : List Predicate)

namespace Statement

/-! ## Building

A column takes part in an insertion when a row gives it or the database does not fill it.  A row that
leaves it out then gets the default, or null without one. -/

def provided (rows : List Row) (name : String) : Bool := rows.any (Row.has · name)

def insertColumns (e : Entity) (rows : List Row) : List String :=
  let names := (e.columns.filter fun c => provided rows c.name || !c.hasDefault).map (·.name)
  if names.isEmpty then [e.idField] else names

def hasDefault (e : Entity) (column : String) : Bool := ((e.column? column).map (·.hasDefault)).getD false

def entry (e : Entity) (row : Row) (column : String) : Entry :=
  match row.get? column with
  | some v => .value v
  | none => if hasDefault e column then .default else .null

def ofInsert (e : Entity) (rows : List Row) : Statement :=
  let columns := insertColumns e rows
  .insert columns (rows.map fun row => columns.map (entry e row))

/-- The changes that can be made: of columns, and never of the identifier. -/
def settable (e : Entity) (changes : Row) : Row := changes.filter fun c => c.1 ≠ e.idField && e.hasColumn c.1

/-- Without anything to change, the rows are only read. -/
def ofUpdate (e : Entity) (changes : Row) (filter : List Predicate) : Statement :=
  if (settable e changes).isEmpty then .select (.allOf filter) else .update (settable e changes) filter

/-! ## Fragments -/

def table (e : Entity) : Fragment := [.name e.schema, .words ".", .name e.table]

/-- Types of their own and exact numbers are read as text. -/
def readAsText (c : Column) : Bool :=
  match c.pgType with
  | some type => type.toList.contains '.' || type == "numeric"
  | none => false

def readColumn (c : Column) : Fragment :=
  if readAsText c then [.name c.name, .words "::text AS ", .name c.name] else [.name c.name]

def columnList (e : Entity) : Fragment := Fragment.commas (e.columns.map readColumn)

def orderItem (o : OrderBy) : Fragment :=
  [.name o.field, .words (match o.direction with | .asc => " ASC" | .desc => " DESC")]

def orderClause (e : Entity) (orderBy : List OrderBy) : Fragment :=
  let known := orderBy.filter fun o => e.hasColumn o.field
  if known.isEmpty then [] else [.words " ORDER BY "] ++ Fragment.commas (known.map orderItem)

def windowClause (word : String) : Option Nat → Fragment
  | some n => [.words (word ++ toString n)]
  | none => []

def entryFragment (e : Entity) (column : String) : Entry → Fragment
  | .value v => Sql.hole e column v
  | .default => [.words "DEFAULT"]
  | .null => [.words "NULL"]

def tuple (e : Entity) (columns : List String) (entries : List Entry) : Fragment :=
  Fragment.parenthesized (Fragment.commas (List.zipWith (entryFragment e) columns entries))

def assignment (e : Entity) (change : String × Json) : Fragment :=
  [.name change.1, .words " = "] ++ Sql.hole e change.1 change.2

def returning (e : Entity) : Fragment := [.words " RETURNING "] ++ columnList e

def fragment (e : Entity) : Statement → Fragment
  | .select s =>
    [.words "SELECT "] ++ columnList e ++ [.words " FROM "] ++ table e ++ Sql.whereClause e s.filter ++
      orderClause e s.orderBy ++ windowClause " LIMIT " s.limit ++ windowClause " OFFSET " s.offset
  | .count filter => [.words "SELECT COUNT(*) FROM "] ++ table e ++ Sql.whereClause e filter
  | .insert columns tuples =>
    [.words "INSERT INTO "] ++ table e ++ [.words " ("] ++ Fragment.commas (columns.map fun c => [.name c]) ++
      [.words ") VALUES "] ++ Fragment.commas (tuples.map (tuple e columns)) ++ returning e
  | .update changes filter =>
    [.words "UPDATE "] ++ table e ++ [.words " SET "] ++ Fragment.commas (changes.map (assignment e)) ++
      Sql.whereClause e filter ++ returning e
  | .delete filter => [.words "DELETE FROM "] ++ table e ++ Sql.whereClause e filter ++ returning e

def sql (e : Entity) (s : Statement) : String := (s.fragment e).sql

def params (e : Entity) (s : Statement) : List Json := (s.fragment e).params

end Statement

end RecordService
