import RecordService.Json.Basic
/-!
# Typed readings of JSON

A decoder reads a value of one type or says why it cannot.  A record is read either from an object,
whose members are visited in their order and whose unknown members are ignored, or from an array that
lists the fields by position.  The first fault met is the one reported.
-/
namespace RecordService

inductive DecodeError where
  | shape
  | explained (message : String)
  deriving DecidableEq

abbrev Decoder (α : Type) := Json → Except DecodeError α

namespace Decoder

/-! ## Single values -/

def string : Decoder String
  | .str s => .ok s
  | _ => .error .shape

def bool : Decoder Bool
  | .bool b => .ok b
  | _ => .error .shape

/-- An integer from 0 to `limit`. -/
def natural (limit : Nat) : Decoder Nat
  | .num (.int i) => if 0 ≤ i && i ≤ limit then .ok i.toNat else .error .shape
  | _ => .error .shape

def natural64 : Decoder Nat := natural 18446744073709551615

def natural32 : Decoder Nat := natural 4294967295

def double : Decoder Double
  | .num n => .ok n.toDouble
  | _ => .error .shape

def any : Decoder Json := .ok

def object : Decoder Row
  | .obj members => .ok members
  | _ => .error .shape

def list {α : Type} (item : Decoder α) : Decoder (List α)
  | .arr items => items.mapM item
  | _ => .error .shape

/-- Null stands for absence. -/
def optional {α : Type} (inner : Decoder α) : Decoder (Option α)
  | .null => .ok none
  | v => (inner v).map some

/-- One of several words, alone or as the only member of an object whose value is null. -/
def choice {α : Type} (words : List (String × α)) : Decoder α
  | .str s => ((words.lookup s).map .ok).getD (.error .shape)
  | .obj [(s, .null)] => ((words.lookup s).map .ok).getD (.error .shape)
  | _ => .error .shape

/-- The values of an object, by name. -/
def table {α : Type} (item : Decoder α) : Decoder (List (String × α))
  | .obj members => members.mapM fun m => (item m.2).map (m.1, ·)
  | _ => .error .shape

/-! ## Records -/

/-- A named field, and what its value does to a record under construction. -/
structure Field (σ : Type) where
  name : String
  read : Json → σ → Except DecodeError σ

def Field.of {σ α : Type} (name : String) (value : Decoder α) (assign : σ → α → σ) : Field σ :=
  ⟨name, fun v record => (value v).map (assign record)⟩

def findField {σ : Type} : List (Field σ) → String → Option (Field σ)
  | [], _ => none
  | f :: rest, name => if f.name = name then some f else findField rest name

def visitMembers {σ : Type} (fields : List (Field σ)) : Row → σ → Except DecodeError σ
  | [], record => .ok record
  | (name, v) :: rest, record =>
    match findField fields name with
    | some f => f.read v record >>= visitMembers fields rest
    | none => visitMembers fields rest record

/-- By position; a value beyond the last field is a fault. -/
def visitItems {σ : Type} : List (Field σ) → List Json → σ → Except DecodeError σ
  | _, [], record => .ok record
  | [], _ :: _, _ => .error .shape
  | f :: fields, v :: rest, record => f.read v record >>= visitItems fields rest

/-- The fields a record must be given, by object or by position. -/
def mentions {σ : Type} (fields : List (Field σ)) (required : List String) : Json → Bool
  | .obj members => required.all (Row.has members)
  | .arr items => required.all fun name => (fields.take items.length).any (·.name == name)
  | _ => false

def record {σ : Type} (fields : List (Field σ)) (required : List String) (start : σ) : Decoder σ := fun v => do
  let done ← match v with
    | .obj members => visitMembers fields members start
    | .arr items => visitItems fields items start
    | _ => .error .shape
  if mentions fields required v then return done else .error .shape

end Decoder

end RecordService
