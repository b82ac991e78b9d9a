import RecordService.Pipeline.Basic
import RecordService.Pipeline.Program
import RecordService.Pipeline.Request
import RecordService.Query.Filter
import RecordService.Query.Visibility
/-!
# Performing an operation

Each operation validates what it is given, lets the hooks revise it, works out which rows it is about and
makes its calls to the store, of which only the last one changes anything.  The rows are those with the
identity in question, within the scope of the caller, and where it matters not marked as deleted.  `now`
is the time that is written into the rows; a list of records reads the clock for each of them.
-/
namespace RecordService

/-- The members of a record; null stands for none. -/
def recordOf : Json → Except ServiceError Row
  | .null => .ok []
  | v => expectObject v

namespace Entity

/-! ## Times -/

/-- Writes the time where the row has no value of its own. -/
def stampMissing (now : String) (row : Row) (column : String) : Row :=
  if (row.get? column).all Json.isNull then row.set column (.str now) else row

def stampCreated (e : Entity) (now : String) (row : Row) : Row :=
  (e.createdAt.toList ++ e.updatedAt.toList).foldl (stampMissing now) row

def stampUpdated (e : Entity) (now : String) (row : Row) : Row :=
  match e.updatedAt with
  | some column => row.set column (.str now)
  | none => row

def notFound (e : Entity) (id : Json) : ServiceError := .notFound (e.name ++ " " ++ id.compact)

def requireSoftDelete (e : Entity) : Except ServiceError SoftDelete :=
  match e.softDelete with
  | some s => .ok s
  | none => .error (.usage (e.name ++ " has no soft delete configured"))

/-- The members that are columns and not the identifier. -/
def changesOf (e : Entity) (data : Row) : Row := data.filter fun (k, _) => k != e.idField && e.hasColumn k

def idEquals (e : Entity) (id : Json) : Predicate := .eq e.idField id

def idAmong (e : Entity) (ids : List Json) : Predicate := .oneOf e.idField ids false

/-! ## Reading -/

/-- Null conditions, and those that are not about a column, say nothing. -/
def conditionsOf (e : Entity) (conditions : Row) : List Predicate :=
  (conditions.filter fun (k, v) => !v.isNull && e.hasColumn k).map fun (k, v) => .eq k v

/-- The term in any of the search fields, in any letter case. -/
def searchFor (e : Entity) (term : String) : List Predicate :=
  if Text.isAllBlank term || e.searchFields.isEmpty then []
  else [.any (e.searchFields.map fun f => .compare f .ilike (.str ("%" ++ Text.trim term ++ "%")))]

/-- What the parameters of a list ask of a row. -/
def asked (e : Entity) (params : ListParams) : List Predicate :=
  params.filters.elim [] (Filter.compile e.allowedFilters.contains) ++ params.search.elim [] e.searchFor

/-- The order asked for, as far as it is about columns, or that of the identifiers. -/
def orderOf (e : Entity) (params : ListParams) : List OrderBy :=
  let known := params.orderBy.filter fun o => e.hasColumn o.field
  if known.isEmpty then [⟨e.idField, .asc⟩] else known

def boundsOf (e : Entity) (params : ListParams) : PageBounds :=
  paginate params.page params.perPage e.defaultPageSize e.maxPageSize

end Entity

namespace Pipeline

/-! ## Parts of an operation -/

/-- The predicates, the scope of the caller, and what is not deleted. -/
def reach (p : Pipeline) (ctx : Context) (predicates : List Predicate) (includeDeleted : Bool) : List Predicate :=
  applyVisibility (p.scope.apply predicates ctx.scope ctx.actor) p.entity.softDelete includeDeleted

def rows (p : Pipeline) (ctx : Context) (call : RowCall) : Program (List Row) :=
  .call (.rows ctx.store p.entity call)

def permit (operation : Operation) (data : Json) (ctx : Context) : Program Bool :=
  if ctx.skipValidation then pure false else .call (.permit operation data ctx)

/-- The data as the validator leaves it, or as it is. -/
def validated (operation : Operation) (data : Json) (ctx : Context) (validator : Validator) : Program Json := do
  if ← permit operation data ctx then validator data else return data

/-- A result about one element of a list. -/
def inElement {α : Type} (i : Nat) (result : Except ServiceError α) : Except ServiceError α :=
  result.mapError (ServiceError.atIndex i)

def checkIds (validator : Validator) : Nat → List Json → Except ServiceError (List Json)
  | _, [] => .ok []
  | i, id :: rest => do
    let id ← inElement i (validator id)
    return id :: (← checkIds validator (i + 1) rest)

def validatedIds (p : Pipeline) (operation : Operation) (ids : List Json) (ctx : Context) :
    Program (List Json) := do
  if ← permit operation (.arr ids) ctx then checkIds p.validators.id 0 ids else return ids

/-- Marks the rows as deleted, or removes them when there is no mark. -/
def remove (p : Pipeline) (now : String) (ctx : Context) (filter : List Predicate) : Program Answer := do
  let removed ← p.rows ctx <|
    match p.entity.softDelete with
    | some s => .update (p.entity.stampUpdated now [(s.field, s.marker now)]) filter
    | none => .delete filter
  return .affected removed.length

/-- How many rows the mark was taken from. -/
def unmark (p : Pipeline) (now : String) (ctx : Context) (s : SoftDelete) (filter : List Predicate) :
    Program Nat := do
  let restored ← p.rows ctx (.update (p.entity.stampUpdated now [(s.field, s.notDeletedValue)]) filter)
  return restored.length

/-- A count of none means that there was nothing with the identifier. -/
def affectedOrNotFound (p : Pipeline) (id : Json) (count : Nat) : Except ServiceError Answer :=
  if count = 0 then .error (p.entity.notFound id) else .ok (.affected count)

def firstOrNotFound (p : Pipeline) (id : Json) (rows : List Row) : Except ServiceError Answer :=
  match rows.head? with
  | some row => .ok (.row row)
  | none => .error (p.entity.notFound id)

/-! ## The operations -/

def create (p : Pipeline) (now : String) (ctx : Context) (data : Json) : Program Answer := do
  let data ← validated .create data ctx p.validators.record
  let data ← Program.call (.revise .create data)
  let row ← recordOf data
  let stored ← p.rows ctx (.insert [p.entity.stampCreated now row])
  match stored.getLast? with
  | some row => return .row row
  | none => .fail (.database .noRow)

def findOne (p : Pipeline) (ctx : Context) (conditions : Json) (includeDeleted : Bool) : Program Answer := do
  let conditions ← validated .findOne conditions ctx p.validators.conditions
  let predicates := p.entity.conditionsOf (← recordOf conditions)
  if predicates.isEmpty then
    .fail (.usage ("findOne on " ++ p.entity.name ++ " requires at least one condition"))
  else
    let rows ← p.rows ctx (.select (.firstOf (p.reach ctx predicates includeDeleted)))
    return .found rows.head?

def list (p : Pipeline) (ctx : Context) (params : ListParams) : Program Answer := do
  let params ← if ← permit .list params.encode ctx then
      (p.validators.list params.encode >>= ListParams.ofJson : Except ServiceError ListParams)
    else pure params
  let bounds := p.entity.boundsOf params
  let filter := p.reach ctx (p.entity.asked params) params.includeDeleted
  let rows ← p.rows ctx (.select ⟨filter, p.entity.orderOf params, some bounds.perPage, some bounds.offset⟩)
  let total ← Program.call (.count ctx.store p.entity filter)
  return .page (Page.of rows bounds total)

/-- Without changes the record is only read. -/
def update (p : Pipeline) (now : String) (ctx : Context) (id data : Json) : Program Answer := do
  let (id, data) ← if ← permit .update data ctx then
      (do return (← p.validators.id id, ← p.validators.changes data) : Except ServiceError (Json × Json))
    else pure (id, data)
  let data ← Program.call (.revise .update data)
  let changes := p.entity.changesOf (← recordOf data)
  let filter := p.reach ctx [p.entity.idEquals id] false
  let rows ← p.rows ctx <|
    if changes.isEmpty then .select (.firstOf filter)
    else .update (p.entity.stampUpdated now changes) filter
  p.firstOrNotFound id rows

def deleteOne (p : Pipeline) (now : String) (ctx : Context) (id : Json) : Program Answer := do
  let id ← validated .deleteOne id ctx p.validators.id
  p.remove now ctx (p.reach ctx [p.entity.idEquals id] true)

def restore (p : Pipeline) (now : String) (ctx : Context) (id : Json) : Program Answer := do
  let s ← p.entity.requireSoftDelete
  let id ← validated .restore id ctx p.validators.id
  let count ← p.unmark now ctx s (p.reach ctx [p.entity.idEquals id] true)
  p.affectedOrNotFound id count

/-- A record is looked up by its identifier alone, and removed within the scope. -/
def permanentDelete (p : Pipeline) (ctx : Context) (id : Json) : Program Answer := do
  let id ← validated .permanentDelete id ctx p.validators.id
  let present ← p.rows ctx (.select (.firstOf [p.entity.idEquals id]))
  if present.isEmpty then .fail (p.entity.notFound id)
  else
    let removed ← p.rows ctx (.delete (p.reach ctx [p.entity.idEquals id] true))
    p.affectedOrNotFound id removed.length

/-- The rows to be stored for a list of records, the first of which has the index `i`. -/
def rowsFor (p : Pipeline) (clock : Nat → String) (validate : Bool) : Nat → List Json → Program (List Row)
  | _, [] => return []
  | i, record :: rest => do
    let record ← if validate then inElement i (p.validators.record record) else pure record
    let record ← Program.call (.revise .create record)
    let row ← inElement i (recordOf record)
    return p.entity.stampCreated (clock i) row :: (← p.rowsFor clock validate (i + 1) rest)

def bulkCreate (p : Pipeline) (clock : Nat → String) (ctx : Context) (records : List Json) : Program Answer := do
  if records.isEmpty then return .created []
  else
    let validate ← permit .bulkCreate (.arr records) ctx
    let rows ← p.rowsFor clock validate 0 records
    return .created (← p.rows ctx (.insert rows))

def bulkDelete (p : Pipeline) (now : String) (ctx : Context) (ids : List Json) : Program Answer := do
  if ids.isEmpty then return .affected 0
  else
    let ids ← p.validatedIds .bulkDelete ids ctx
    p.remove now ctx (p.reach ctx [p.entity.idAmong ids] true)

def bulkRestore (p : Pipeline) (now : String) (ctx : Context) (ids : List Json) : Program Answer := do
  let s ← p.entity.requireSoftDelete
  if ids.isEmpty then return .affected 0
  else
    let ids ← p.validatedIds .bulkRestore ids ctx
    return .affected (← p.unmark now ctx s (p.reach ctx [p.entity.idAmong ids] true))

def perform (p : Pipeline) (now : String) (ctx : Context) : Request → Program Answer
  | .create data => p.create now ctx data
  | .findOne conditions includeDeleted => p.findOne ctx conditions includeDeleted
  | .list params => p.list ctx params
  | .update id data => p.update now ctx id data
  | .deleteOne id => p.deleteOne now ctx id
  | .restore id => p.restore now ctx id
  | .permanentDelete id => p.permanentDelete ctx id
  | .bulkCreate records => p.bulkCreate (fun _ => now) ctx records
  | .bulkDelete ids => p.bulkDelete now ctx ids
  | .bulkRestore ids => p.bulkRestore now ctx ids

end Pipeline

end RecordService
