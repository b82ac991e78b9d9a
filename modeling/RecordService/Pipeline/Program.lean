import RecordService.Pipeline.Context
import RecordService.Store.Call
/-!
# Programs

An operation is a program: it asks hooks and stores, one call after the other, and ends in a value or an
error.  What it asks next depends on the replies so far and on nothing else.  A reply may be an error, and
`bind` ends at the first one.
-/
namespace RecordService

inductive Call where
  | permit (operation : Operation) (data : Json) (context : Context)
  | revise (stage : Stage) (data : Json)
  | rows (store : Option String) (entity : Entity) (call : RowCall)
  | count (store : Option String) (entity : Entity) (filter : List Predicate)

namespace Call

abbrev Reply : Call → Type
  | .permit _ _ _ => Bool
  | .revise _ _ => Json
  | .rows _ _ _ => List Row
  | .count _ _ _ => Nat

/-- Whether the call is to a store. -/
def isStoreCall : Call → Bool
  | .rows _ _ _ => true
  | .count _ _ _ => true
  | _ => false

/-- Whether the call may change what is stored. -/
def mutates : Call → Bool
  | .rows _ _ call => call.mutates
  | _ => false

end Call

inductive Program (α : Type) where
  | done (result : Except ServiceError α)
  | ask (call : Call) (next : Except ServiceError call.Reply → Program α)

namespace Program

variable {α β σ : Type}

def bind : Program α → (α → Program β) → Program β
  | .done (.ok a), f => f a
  | .done (.error e), _ => .done (.error e)
  | .ask call next, f => .ask call fun reply => (next reply).bind f

instance : Monad Program where
  pure a := .done (.ok a)
  bind := bind

instance : MonadLift (Except ServiceError) Program := ⟨.done⟩

def fail (e : ServiceError) : Program α := .done (.error e)

def call (c : Call) : Program c.Reply := .ask c .done

end Program

/-! ## Running

The surroundings answer every call, and a call to a store may change the state they are in. -/

structure Surroundings (σ : Type) where
  hooks : Hooks
  /-- The stores by name, and the usual one. -/
  stores : Option String → Backend σ

namespace Surroundings

variable {σ : Type}

def reply (w : Surroundings σ) : (c : Call) → σ → Except ServiceError c.Reply × σ
  | .permit operation data context, s => (w.hooks.permit operation data context, s)
  | .revise stage data, s => (w.hooks.revise stage data, s)
  | .rows store e call, s => (w.stores store).rows e call s
  | .count store e filter, s => (w.stores store).count e filter s

end Surroundings

namespace Program

variable {α σ : Type}

def run (w : Surroundings σ) : Program α → σ → Except ServiceError α × σ
  | .done result, s => (result, s)
  | .ask call next, s => (next (w.reply call s).1).run w (w.reply call s).2

/-- The calls that are made on the way, in their order. -/
def calls (w : Surroundings σ) : Program α → σ → List Call
  | .done _, _ => []
  | .ask call next, s => call :: (next (w.reply call s).1).calls w (w.reply call s).2

end Program

end RecordService
