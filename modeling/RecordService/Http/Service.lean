import RecordService.Http.Endpoint
import RecordService.Http.JsonBody
import RecordService.Http.ListQuery
import RecordService.Pipeline.Perform
/-!
# The service

The pipelines of all entities behind one set of endpoints.  A request is first understood: it is refused,
answered at once, or leads to one operation of one pipeline.  Only then a store is asked.
-/
namespace RecordService

structure Service where
  pipelines : List Pipeline

namespace Service

/-- One pipeline for each entity. -/
def of (entities : List Entity) : Except ConfigError Service :=
  (entities.mapM fun e => (Pipeline.of e).checked).map (⟨·⟩)

def findPipeline (name : String) : List Pipeline → Option Pipeline
  | [] => none
  | p :: rest => if p.entity.name = name then some p else findPipeline name rest

def pipeline (s : Service) (name : String) : Except ServiceError Pipeline :=
  match findPipeline name s.pipelines with
  | some p => .ok p
  | none => .error (.notFound ("entity " ++ name))

/-- The names of the entities in alphabetical order. -/
def names (s : Service) : List String := (s.pipelines.map (·.entity.name)).mergeSort fun a b => decide (a ≤ b)

end Service

/-! ## Understanding a request -/

/-- What a request comes to before any store is asked. -/
inductive Plan where
  | answer (response : Response)
  /-- Asks whether the store can be reached. -/
  | probe
  /-- Performs an operation and makes a response of its result. -/
  | perform (pipeline : Pipeline) (context : Context) (request : Request)
      (respond : Except ServiceError Answer → Response)

/-- Understanding a request, or the response that refuses it. -/
abbrev Understanding (α : Type) := Except Response α

namespace Understanding

variable {α : Type}

def orRefuse (status : Nat) : Option α → Understanding α
  | some a => .ok a
  | none => .error (.refusal status)

def ofFault (result : Except BodyFault α) : Understanding α := result.mapError BodyFault.response

def ofService (result : Except ServiceError α) : Understanding α := result.mapError ServiceError.response

/-- A part of the path as text. -/
def part (raw : List Char) : Understanding String := orRefuse 400 (Percent.decode? raw)

end Understanding

namespace Response

def ofResult (status : Nat) : Except ServiceError Answer → Response
  | .ok answer => envelope status answer.encode
  | .error e => e.response

/-- A record that is not there is an error. -/
def ofFound (entity id : String) : Except ServiceError Answer → Response
  | .ok (.found none) => (ServiceError.notFound (entity ++ " " ++ id)).response
  | result => ofResult 200 result

end Response

namespace Service

open Understanding

/-! ## The operations behind the endpoints -/

def planList (s : Service) (r : HttpRequest) (entity : List Char) : Understanding Plan := do
  let entity ← part entity
  let query ← orRefuse 400 (ListQuery.ofForm? (.ofText r.query))
  let p ← ofService (s.pipeline entity)
  let params ← ofService query.params
  return .perform p r.context (.list params) (.ofResult 200)

def planCreate (s : Service) (r : HttpRequest) (entity : List Char) : Understanding Plan := do
  let entity ← part entity
  let body ← ofFault (r.readBody JsonBody.any)
  let p ← ofService (s.pipeline entity)
  return .perform p r.context (.create body) (.ofResult 201)

def planBulkCreate (s : Service) (r : HttpRequest) (entity : List Char) : Understanding Plan := do
  let entity ← part entity
  let body ← ofFault (r.readBody JsonBody.any)
  let p ← ofService (s.pipeline entity)
  match body with
  | .arr records => return .perform p r.context (.bulkCreate records) (.ofResult 201)
  | _ => .error (ServiceError.badRequest "body must be a JSON array").response

def planOnIds (s : Service) (r : HttpRequest) (entity : List Char) (request : List Json → Request) :
    Understanding Plan := do
  let entity ← part entity
  let ids ← ofFault (r.readBody JsonBody.ids)
  let p ← ofService (s.pipeline entity)
  return .perform p r.context (request ids) (.ofResult 200)

def planRead (s : Service) (r : HttpRequest) (entity id : List Char) : Understanding Plan := do
  let entity ← part entity
  let id ← part id
  let includeDeleted ← orRefuse 400 (Form.flag? (.ofText r.query) "includeDeleted")
  let p ← ofService (s.pipeline entity)
  return .perform p r.context (.findOne (.obj [(p.entity.idField, .str id)]) includeDeleted) (.ofFound entity id)

def planUpdate (s : Service) (r : HttpRequest) (entity id : List Char) : Understanding Plan := do
  let entity ← part entity
  let id ← part id
  let body ← ofFault (r.readBody JsonBody.any)
  let p ← ofService (s.pipeline entity)
  return .perform p r.context (.update (.str id) body) (.ofResult 200)

def planOnId (s : Service) (r : HttpRequest) (entity id : List Char) (request : Json → Request) :
    Understanding Plan := do
  let entity ← part entity
  let id ← part id
  let p ← ofService (s.pipeline entity)
  return .perform p r.context (request (.str id)) (.ofResult 200)

/-- A method that an endpoint does not have is refused. -/
def planAt (s : Service) (r : HttpRequest) (endpoint : Endpoint) (method : String) : Understanding Plan :=
  match endpoint, method with
  | .health, "GET" => .ok (.answer ⟨200, .json (.obj [("status", .str "ok")])⟩)
  | .ready, "GET" => .ok .probe
  | .version, "GET" => .ok (.answer ⟨200, .json (.obj [("name", .str "crud-engine"), ("version", .str "0.1.0")])⟩)
  | .collection entity, "GET" => s.planList r entity
  | .collection entity, "POST" => s.planCreate r entity
  | .bulk entity, "POST" => s.planBulkCreate r entity
  | .bulkDelete entity, "POST" => s.planOnIds r entity .bulkDelete
  | .bulkRestore entity, "POST" => s.planOnIds r entity .bulkRestore
  | .record entity id, "GET" => s.planRead r entity id
  | .record entity id, "PATCH" => s.planUpdate r entity id
  | .record entity id, "DELETE" => s.planOnId r entity id .deleteOne
  | .restore entity id, "POST" => s.planOnId r entity id .restore
  | .permanent entity id, "DELETE" => s.planOnId r entity id .permanentDelete
  | _, _ => .error (.empty 405)

/-- Asking for the head of a response is asking for the response. -/
def methodOf (r : HttpRequest) : String := if r.method = "HEAD" then "GET" else r.method

def plan (s : Service) (r : HttpRequest) : Plan :=
  match Endpoint.ofPath r.path with
  | none => .answer (.empty 404)
  | some endpoint =>
    if endpoint.isLimited && r.declaresTooMuch then .answer (.refusal 413)
    else
      match s.planAt r endpoint (methodOf r) with
      | .ok plan => plan
      | .error response => .answer response

/-! ## Answering it -/

def readiness (s : Service) (status : Nat) (state store : String) : Response :=
  ⟨status, .json (.obj [("status", .str state), ("store", .str store), ("entities", .arr (s.names.map .str))])⟩

variable {σ : Type}

/-- Carries a plan out at the time `now`. -/
def carryOut (s : Service) (now : String) (stores : Option String → Backend σ) : Plan → σ → Response × σ
  | .answer response, state => (response, state)
  | .probe, state =>
    match (stores none).ping state with
    | .ok _ => (s.readiness 200 "ok" "ok", state)
    | .error _ => (s.readiness 503 "degraded" "unavailable", state)
  | .perform p ctx request respond, state =>
    let (result, state) := (p.perform now ctx request).run ⟨p.hooks, stores⟩ state
    (respond result, state)

/-- The calls that are made while a plan is carried out. -/
def callsOf (now : String) (stores : Option String → Backend σ) : Plan → σ → List Call
  | .perform p ctx request _, state => (p.perform now ctx request).calls ⟨p.hooks, stores⟩ state
  | _, _ => []

/-- Only the head of a response is asked for, where the whole of it could be got. -/
def isHeadOnly (r : HttpRequest) : Bool := r.method = "HEAD" && (Endpoint.ofPath r.path).any (·.hasGet)

/-- The response to a request; the head alone has no body. -/
def serve (s : Service) (now : String) (stores : Option String → Backend σ) (r : HttpRequest) (state : σ) :
    Response × σ :=
  let (response, state) := s.carryOut now stores (s.plan r) state
  (if isHeadOnly r then ⟨response.status, .empty⟩ else response, state)

def calls (s : Service) (now : String) (stores : Option String → Backend σ) (r : HttpRequest) (state : σ) :
    List Call :=
  callsOf now stores (s.plan r) state

end Service

end RecordService
