import RecordService.Error
import RecordService.Json.Basic
/-!
# Responses

A success is an envelope around its data.  A failure names a code, the text of the error and, for a
validation failure, every issue.
-/
namespace RecordService

/-- A refusal of the framework is plain text; what it says is free. -/
inductive Body where
  | empty
  | json (value : Json)
  | text

structure Response where
  status : Nat
  body : Body

namespace Response

def empty (status : Nat) : Response := ⟨status, .empty⟩

/-- No response: the connection is closed, and nothing is sent over it. -/
def closed : Response := empty 0

def refusal (status : Nat) : Response := ⟨status, .text⟩

def envelope (status : Nat) (data : Json) : Response := ⟨status, .json (.obj [("data", data)])⟩

def ok (data : Json) : Response := envelope 200 data

def created (data : Json) : Response := envelope 201 data

end Response

/-! ## Errors as responses -/

namespace ServiceError

/-- The code of a database for a value that has to be unique and is not. -/
def uniqueViolation : String := "23505"

def status : ServiceError → Nat
  | .config _ => 500
  | .usage _ => 400
  | .notFound _ => 404
  | .validation _ => 422
  | .database .noRow => 404
  | .database (.refused code _) => if code = some uniqueViolation then 409 else 500
  | .store _ => 500
  | .badRequest _ => 400

def code : ServiceError → String
  | .config _ => "config_error"
  | .usage _ => "usage_error"
  | .notFound _ => "not_found"
  | .validation _ => "validation_error"
  | .database .noRow => "not_found"
  | .database (.refused code _) => if code = some uniqueViolation then "conflict" else "database_error"
  | .store _ => "store_error"
  | .badRequest _ => "bad_request"

def issueJson (i : Issue) : Json := .obj [("field", .str i.field), ("message", .str i.message)]

def details : ServiceError → Row
  | .validation issues => [("details", .arr (issues.map issueJson))]
  | _ => []

def body (e : ServiceError) : Json :=
  .obj [("error", .obj ([("code", .str e.code), ("message", .str e.message)] ++ e.details))]

def response : ServiceError → Response
  | .store .disorder => .closed
  | e => ⟨e.status, .json e.body⟩

end ServiceError

end RecordService
