import RecordService.Entity
import RecordService.Error
import RecordService.Query.Selection
import RecordService.Sql.Statement
/-!
# Store calls

A store answers four calls with rows, the ones it read or changed, and counts rows.  A `Backend` says how
a store with states of one type answers each call; a call that fails may still be answered by a state.
-/
namespace RecordService

inductive RowCall where
  | select (selection : Selection)
  | insert (rows : List Row)
  | update (changes : Row) (filter : List Predicate)
  | delete (filter : List Predicate)

namespace RowCall

def name : RowCall → String
  | .select _ => "select"
  | .insert _ => "insert"
  | .update _ _ => "update"
  | .delete _ => "delete"

/-- Whether the call may change what is stored. -/
def mutates : RowCall → Bool
  | .select _ => false
  | _ => true

/-- The statement that asks a database for the same. -/
def statement (e : Entity) : RowCall → Statement
  | .select selection => .select selection
  | .insert rows => .ofInsert e rows
  | .update changes filter => .ofUpdate e changes filter
  | .delete filter => .delete filter

end RowCall

structure Backend (σ : Type) where
  rows : Entity → RowCall → σ → Except ServiceError (List Row) × σ
  count : Entity → List Predicate → σ → Except ServiceError Nat × σ
  /-- Whether the store can be reached at all. -/
  ping : σ → Except ServiceError Unit

namespace Backend

/-- Holds nothing and accepts everything. -/
def vacant (σ : Type) : Backend σ := ⟨fun _ _ s => (.ok [], s), fun _ _ s => (.ok 0, s), fun _ => .ok ()⟩

/-- Fails every call. -/
def failing (σ : Type) (error : ServiceError) : Backend σ :=
  ⟨fun _ _ s => (.error error, s), fun _ _ s => (.error error, s), fun _ => .error error⟩

/-- A store whose state is a part of a larger one. -/
def within {σ τ : Type} (part : τ → σ) (put : σ → τ → τ) (b : Backend σ) : Backend τ where
  rows e call t := let (answer, s) := b.rows e call (part t); (answer, put s t)
  count e filter t := let (answer, s) := b.count e filter (part t); (answer, put s t)
  ping t := b.ping (part t)

end Backend

end RecordService
