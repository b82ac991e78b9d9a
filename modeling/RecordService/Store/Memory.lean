import RecordService.Json.Reader
import RecordService.Store.Call
import RecordService.Store.Sort
/-!
# The memory store

Tables are kept under their qualified names.  A table is its rows, in the order they were inserted, and
the last identifier it counted to.  Rows hold the columns of the entity, in their order.
-/
namespace RecordService

/-- The orderings that count: those by a column. -/
def Entity.ordersBy (e : Entity) (orderBy : List OrderBy) : List OrderBy := orderBy.filter fun o => e.hasColumn o.field

structure Table where
  rows : List Row
  lastId : Int

namespace Table

def empty : Table := ⟨[], 0⟩

/-! ## Reading -/

def window (limit offset : Option Nat) (rows : List Row) : List Row :=
  let rest := rows.drop (offset.getD 0)
  match limit with
  | some n => rest.take n
  | none => rest

/-- None when the sort breaks off. -/
def select (t : Table) (e : Entity) (s : Selection) : Option (List Row) :=
  (OrderBy.sortRows (e.ordersBy s.orderBy) (t.rows.filter (Row.satisfies s.filter))).map (window s.limit s.offset)

def count (t : Table) (filter : List Predicate) : Nat := (t.rows.filter (Row.satisfies filter)).length

/-! ## Inserting

A row without an identifier gets a fresh one: the next integer, or the text drawn for it.  Other columns
it leaves out get their default, which is JSON when it reads as JSON and text otherwise. -/

def defaultValue (c : Column) : Json :=
  match c.defaultLiteral with
  | some text => (Json.read text).getD (.str text)
  | none => .null

/-- A fresh identifier, and the counter behind it. -/
def freshId (e : Entity) (draw : String) (lastId : Int) : Json × Int :=
  match e.idType with
  | .uuid => (.str draw, lastId)
  | .text => (.str draw, lastId)
  | .bigint => (.num (.int (wrapSigned64 (lastId + 1))), wrapSigned64 (lastId + 1))
  | .int => (.num (.int (wrapSigned64 (lastId + 1))), wrapSigned64 (lastId + 1))

def complete (e : Entity) (input : Row) (fresh : Json) : Row :=
  e.columns.map fun c =>
    (c.name, match input.get? c.name with
      | some v => v
      | none => if c.name = e.idField then fresh else defaultValue c)

/-- The counter never falls behind an identifier that is an integer. -/
def countId (e : Entity) (row : Row) (lastId : Int) : Int :=
  match (row.cell e.idField).int64? with
  | some n => max lastId n
  | none => lastId

/-- The row to be stored for an input, and the counter behind it. -/
def prepare (e : Entity) (draw : String) (input : Row) (lastId : Int) : Row × Int :=
  if input.has e.idField || !e.hasColumn e.idField then
    let row := complete e input .null
    (row, countId e row lastId)
  else
    let (fresh, counter) := freshId e draw lastId
    let row := complete e input fresh
    (row, countId e row counter)

def hasId (e : Entity) (id : Json) (rows : List Row) : Bool :=
  rows.any fun r => match r.get? e.idField with
    | some v => Cell.equal v id
    | none => false

def duplicate (e : Entity) (id : Json) : ServiceError :=
  .store ("duplicate key value for " ++ e.table ++ "." ++ e.idField ++ ": " ++ id.compact)

/-- Adds the inputs to a table one after the other; all of them or none are added. -/
def insertAll (e : Entity) : List String → List Row → Table → Except ServiceError (List Row × Table)
  | _, [], t => .ok ([], t)
  | draws, input :: inputs, t =>
    let (row, lastId) := prepare e (draws.headD "") input t.lastId
    if hasId e (row.cell e.idField) t.rows then .error (duplicate e (row.cell e.idField))
    else (insertAll e draws.tail inputs ⟨t.rows ++ [row], lastId⟩).map fun (rows, t) => (row :: rows, t)

/-! ## Changing and removing -/

def assign (e : Entity) : Row → Row → Row
  | [], row => row
  | (k, v) :: changes, row =>
    assign e changes (if k ≠ e.idField && e.hasColumn k then row.set k v else row)

def updateRows (e : Entity) (changes : Row) (filter : List Predicate) (rows : List Row) : List Row :=
  rows.map fun r => if r.satisfies filter then assign e changes r else r

def update (t : Table) (e : Entity) (changes : Row) (filter : List Predicate) : List Row × Table :=
  ((t.rows.filter (Row.satisfies filter)).map (assign e changes), ⟨updateRows e changes filter t.rows, t.lastId⟩)

def delete (t : Table) (filter : List Predicate) : List Row × Table :=
  (t.rows.filter (Row.satisfies filter), ⟨t.rows.filter fun r => !r.satisfies filter, t.lastId⟩)

end Table

structure MemoryStore where
  tables : List (String × Table)

namespace MemoryStore

def empty : MemoryStore := ⟨[]⟩

def find : List (String × Table) → String → Table
  | [], _ => .empty
  | (k, t) :: rest, name => if k = name then t else find rest name

def put : List (String × Table) → String → Table → List (String × Table)
  | [], name, t => [(name, t)]
  | (k, u) :: rest, name, t => if k = name then (k, t) :: rest else (k, u) :: put rest name t

def table (s : MemoryStore) (e : Entity) : Table := find s.tables e.qualifiedName

def setTable (s : MemoryStore) (e : Entity) (t : Table) : MemoryStore := ⟨put s.tables e.qualifiedName t⟩

/-- Every row of the entity, in the order of insertion. -/
def rowsOf (s : MemoryStore) (e : Entity) : List Row := (s.table e).rows

def select (s : MemoryStore) (e : Entity) (selection : Selection) : Except ServiceError (List Row) :=
  match (s.table e).select e selection with
  | some rows => .ok rows
  | none => .error (.store .disorder)

def count (s : MemoryStore) (e : Entity) (filter : List Predicate) : Nat := (s.table e).count filter

/-- `draws` are the texts for identifiers, one for each row. -/
def insert (s : MemoryStore) (e : Entity) (draws : List String) (rows : List Row) :
    Except ServiceError (List Row × MemoryStore) :=
  (Table.insertAll e draws rows (s.table e)).map fun (stored, t) => (stored, s.setTable e t)

def update (s : MemoryStore) (e : Entity) (changes : Row) (filter : List Predicate) : List Row × MemoryStore :=
  let (rows, t) := (s.table e).update e changes filter
  (rows, s.setTable e t)

def delete (s : MemoryStore) (e : Entity) (filter : List Predicate) : List Row × MemoryStore :=
  let (rows, t) := (s.table e).delete filter
  (rows, s.setTable e t)

/-! ## As a backend -/

def answer (draws : List String) (e : Entity) (call : RowCall) (s : MemoryStore) :
    Except ServiceError (List Row) × MemoryStore :=
  match call with
  | .select selection => (s.select e selection, s)
  | .insert rows =>
    match s.insert e draws rows with
    | .ok (stored, s) => (.ok stored, s)
    | .error error => (.error error, s)
  | .update changes filter =>
    let (rows, s) := s.update e changes filter
    (.ok rows, s)
  | .delete filter =>
    let (rows, s) := s.delete e filter
    (.ok rows, s)

def backend (draws : List String) : Backend MemoryStore where
  rows := answer draws
  count e filter s := (.ok (s.count e filter), s)
  ping _ := .ok ()

end MemoryStore

end RecordService
