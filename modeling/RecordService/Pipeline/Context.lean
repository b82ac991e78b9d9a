import RecordService.Error
import RecordService.Json.Basic
import RecordService.Pipeline.Operation
/-!
# Contexts and hooks

A context says on whose behalf an operation runs, and hooks let an application take part in it: one may
decline the validation of the data or refuse the data, and one revises a record before it is stored.
-/
namespace RecordService

structure Context where
  /-- The store to use instead of the usual one. -/
  store : Option String
  actor : Option Json
  /-- The caller's values for the scope. -/
  scope : Option Row
  skipValidation : Bool

/-- Nobody in particular, with nothing out of the ordinary. -/
def Context.standard : Context := ⟨none, none, none, false⟩

/-- What is revised: a record to be stored, or the changes to one. -/
inductive Stage where
  | create
  | update
  deriving DecidableEq

structure Hooks where
  /-- Whether the data is to be validated. -/
  permit : Operation → Json → Context → Except ServiceError Bool
  revise : Stage → Json → Except ServiceError Json

/-- Everything is validated and nothing revised. -/
def Hooks.none : Hooks := ⟨fun _ _ _ => .ok true, fun _ data => .ok data⟩

end RecordService
