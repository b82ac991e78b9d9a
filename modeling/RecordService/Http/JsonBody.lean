import RecordService.Http.Request
import RecordService.Http.Response
import RecordService.Json.Skip
/-!
# JSON bodies

A body is taken when it is declared to be JSON.  The value at its head counts, and what follows it is not
looked at.  A list of identifiers is read as it comes: whichever fault is met first is the one reported, be
it that the text is no JSON or that the value has another shape.
-/
namespace RecordService

inductive BodyFault where
  | mediaType
  | length
  | malformed
  | shape
  deriving DecidableEq

namespace BodyFault

def status : BodyFault → Nat
  | .mediaType => 415
  | .length => 413
  | .malformed => 400
  | .shape => 422

def response (f : BodyFault) : Response := .refusal f.status

end BodyFault

namespace JsonBody

/-! ## Any value -/

def any (cs : List Char) : Except BodyFault Json :=
  match Json.readFirst cs with
  | some (v, _) => .ok v
  | none => .error .malformed

/-! ## Identifiers -/

/-- The fault of a value that should have been a list. -/
def notList : List Char → BodyFault
  | '{' :: _ => .shape
  | cs => if (Json.readScalar cs).isSome then .shape else .malformed

/-- A list inside another container. -/
def innerList (cs : List Char) : Except BodyFault (List Json × List Char) :=
  match Json.skipSpace cs with
  | '[' :: rest =>
    match Json.readValue (Json.maxDepth - 1) ('[' :: rest) with
    | some (.arr items, rest) => .ok (items, rest)
    | _ => .error .malformed
  | cs => .error (notList cs)

/-- What follows a colon. -/
def afterColon (cs : List Char) : Except BodyFault (List Char) :=
  match Json.skipSpace cs with
  | ':' :: rest => .ok rest
  | _ => .error .malformed

def idsKey : String := "ids"

/-- The value of one member: the list when it is the one asked for, and what follows. -/
def member (name : String) (found : Option (List Json)) (cs : List Char) :
    Except BodyFault (Option (List Json) × List Char) :=
  if name = idsKey then
    if found.isSome then .error .shape
    else (afterColon cs >>= innerList).map fun (items, rest) => (some items, rest)
  else do
    match Json.skipValue (← afterColon cs) with
    | some rest => return (found, rest)
    | none => .error .malformed

/-- The members behind an opening brace or a comma.  Each step takes at least one character. -/
def members : Nat → Option (List Json) → List Char → Except BodyFault (List Json)
  | 0, _, _ => .error .malformed
  | steps + 1, found, cs =>
    match Json.skipSpace cs with
    | '"' :: cs =>
      match Json.readString cs with
      | some (name, rest) => do
        let (found, rest) ← member name found rest
        match Json.skipSpace rest with
        | ',' :: rest => members steps found rest
        | '}' :: _ =>
          match found with
          | some ids => return ids
          | none => .error .shape
        | _ => .error .malformed
      | none => .error .malformed
    | _ => .error .malformed

def onlyItem (cs : List Char) : Except BodyFault (List Json) := do
  let (items, rest) ← innerList cs
  match Json.skipSpace rest with
  | ']' :: _ => return items
  | _ => .error .malformed

/-- An object with a list of identifiers, or an array with that list as its only item. -/
def ids (cs : List Char) : Except BodyFault (List Json) :=
  match Json.skipSpace cs with
  | '{' :: rest =>
    match Json.skipSpace rest with
    | '}' :: _ => .error .shape
    | cs => members (cs.length + 1) none cs
  | '[' :: rest =>
    match Json.skipSpace rest with
    | ']' :: _ => .error .shape
    | cs => onlyItem cs
  | cs => .error (notList cs)

end JsonBody

/-- The body of a request, as a reader of JSON text takes it. -/
def HttpRequest.readBody {α : Type} (r : HttpRequest) (read : List Char → Except BodyFault α) :
    Except BodyFault α :=
  if !(r.header? "Content-Type").any MediaType.isJson then .error .mediaType
  else if r.isTooLong then .error .length
  else read r.body.toList

end RecordService
