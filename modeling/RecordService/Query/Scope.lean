import RecordService.Config.Declaration
import RecordService.Query.Predicate
/-!
# Scope

What a caller may see.  Each scope function restricts the rows by the caller's value for its key and by
the acting person; together they form an ordered map from keys to functions.
-/
namespace RecordService

/-- The value for the key and the actor, when there are any, give a restriction or none. -/
abbrev ScopeFunction := Option Json → Option Json → Option Predicate

structure Scope where
  functions : List (String × ScopeFunction)

namespace Scope

def none : Scope := ⟨[]⟩

def put (key : String) (f : ScopeFunction) : List (String × ScopeFunction) → List (String × ScopeFunction)
  | [] => [(key, f)]
  | (k, g) :: rest => if k = key then (k, f) :: rest else (k, g) :: put key f rest

/-- A second function for a key takes the place of the first. -/
def insert (s : Scope) (key : String) (f : ScopeFunction) : Scope := ⟨put key f s.functions⟩

def keys (s : Scope) : List String := s.functions.map Prod.fst

def isEmpty (s : Scope) : Bool := s.functions.isEmpty

/-- The restriction of every function, in the order of the keys. -/
def restrictions (s : Scope) (values : Option Row) (actor : Option Json) : List Predicate :=
  s.functions.filterMap fun (key, f) => f (values.bind (Row.get? · key)) actor

def apply (s : Scope) (predicates : List Predicate) (values : Option Row) (actor : Option Json) :
    List Predicate :=
  predicates ++ s.restrictions values actor

/-! ## Declared rules -/

/-- The column holds the caller's value.  Without one, nothing matches when it is required and
everything does when it is not. -/
def columnEquals (column : String) (required : Bool) : ScopeFunction := fun value _ =>
  match value with
  | some v =>
    if v.isNull then (if required then some .denyAll else Option.none) else some (.eq column v)
  | Option.none => if required then some .denyAll else Option.none

def ofRules (rules : List ScopeRule) : Scope :=
  rules.foldl (fun s r => s.insert r.key (columnEquals r.column r.required)) none

end Scope

end RecordService
