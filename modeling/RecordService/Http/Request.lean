import RecordService.Http.MediaType
import RecordService.Number.Text
import RecordService.Pipeline.Context
import RecordService.Text.Blank
import RecordService.Text.Split
/-!
# Requests over HTTP

What a request says, and on whose behalf it is made: one header names the tenant, another the actor.
-/
namespace RecordService

structure HttpRequest where
  method : String
  /-- The path and the query are as they were sent. -/
  path : String
  query : String
  headers : List (String × String)
  body : String

namespace HttpRequest

/-- What is left of a target that names a scheme and a host: the path, the query and the fragment. -/
def afterHost : List Char → List Char
  | ':' :: '/' :: '/' :: rest => rest.dropWhile fun c => !(c == '/' || c == '?' || c == '#')
  | _ :: rest => afterHost rest
  | [] => []

/-- A target is a path and perhaps a query, and may name a host before them; a fragment does not belong
to it. -/
def of (method target : String) (headers : List (String × String)) (body : String) : HttpRequest :=
  let target := if target.startsWith "/" then target.toList else afterHost target.toList
  let target := target.takeWhile (· != '#')
  match Text.cutOnce '?' target with
  | some (path, query) => ⟨method, String.ofList path, String.ofList query, headers, body⟩
  | none => ⟨method, String.ofList target, "", headers, body⟩

/-! ## Headers -/

/-- A header is read only when all of it is visible ASCII, blanks or tabs. -/
def isReadable (value : String) : Bool := value.toList.all fun c => c == '\t' || (32 ≤ c.toNat && c.toNat < 127)

def findHeader (name : String) : List (String × String) → Option String
  | [] => none
  | (n, value) :: rest => if Text.equalIgnoringAsciiCase n name then some value else findHeader name rest

/-- The first header with the name counts, if it can be read. -/
def header? (r : HttpRequest) (name : String) : Option String := (findHeader name r.headers).filter isReadable

/-- A header that is not blank, without the blanks around it. -/
def word? (r : HttpRequest) (name : String) : Option String :=
  ((r.header? name).map Text.trim).filter (!·.isEmpty)

/-! ## The caller -/

def context (r : HttpRequest) : Context where
  store := none
  actor := (r.word? "X-Actor-ID").map fun id => .obj [("id", .str id)]
  scope := (r.word? "X-Tenant-ID").map fun tenant => [("tenantId", .str tenant)]
  skipValidation := false

/-! ## The size of the body -/

/-- The largest body that is taken, in octets. -/
def maxBody : Nat := 2097152

def declaredLength? (r : HttpRequest) : Option Nat := (r.header? "Content-Length").bind readUnsigned64

def declaresTooMuch (r : HttpRequest) : Bool := r.declaredLength?.any (maxBody < ·)

/-- Whether the body is longer than declared, or than any body may be. -/
def isTooLong (r : HttpRequest) : Bool := min maxBody (r.declaredLength?.getD maxBody) < r.body.utf8ByteSize

end HttpRequest

end RecordService
