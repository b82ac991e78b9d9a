import RecordService.Error
import RecordService.Number.Text
import RecordService.Text.Blank
/-!
# Settings

What holds for the whole service: where it listens, where its declarations are, and what an entity
gets that does not say otherwise.
-/
namespace RecordService

structure Settings where
  databaseUrl : Option String
  configPath : Option String
  defaultSchema : String
  defaultPageSize : Nat
  maxPageSize : Nat
  bindAddr : String

namespace Settings

def standard : Settings := ⟨none, none, "public", 20, 100, "0.0.0.0:3000"⟩

/-! ## From named values

A value of blanks only counts as missing; the others are trimmed. -/

def given (lookup : String → Option String) (key : String) : Option String :=
  ((lookup key).map Text.trim).filter fun s => !s.isEmpty

def pageSize (lookup : String → Option String) (key : String) (fallback : Nat) : Except ConfigError Nat :=
  match given lookup key with
  | none => .ok fallback
  | some s =>
    match readUnsigned64 s with
    | some n => .ok n
    | none => .error (.load (key ++ " must be a positive integer, got '" ++ s ++ "'"))

def ofLookup (lookup : String → Option String) : Except ConfigError Settings := do
  let defaultPageSize ← pageSize lookup "CRUD_DEFAULT_PAGE_SIZE" standard.defaultPageSize
  let maxPageSize ← pageSize lookup "CRUD_MAX_PAGE_SIZE" standard.maxPageSize
  if defaultPageSize = 0 || maxPageSize = 0 then
    .error (.load "page sizes must be at least 1")
  return {
    databaseUrl := given lookup "DATABASE_URL"
    configPath := given lookup "CONFIG_PATH"
    defaultSchema := (given lookup "CRUD_SCHEMA").getD standard.defaultSchema
    defaultPageSize
    maxPageSize
    bindAddr := (given lookup "CRUD_BIND_ADDR").getD standard.bindAddr
  }

end Settings

end RecordService
