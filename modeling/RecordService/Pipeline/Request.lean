import RecordService.Pipeline.Operation
import RecordService.Query.Page
/-!
# Requests and answers

An operation together with what it is given, and what it comes to.
-/
namespace RecordService

inductive Request where
  | create (data : Json)
  | findOne (conditions : Json) (includeDeleted : Bool)
  | list (params : ListParams)
  | update (id data : Json)
  | deleteOne (id : Json)
  | restore (id : Json)
  | permanentDelete (id : Json)
  | bulkCreate (records : List Json)
  | bulkDelete (ids : List Json)
  | bulkRestore (ids : List Json)

def Request.operation : Request → Operation
  | .create _ => .create
  | .findOne _ _ => .findOne
  | .list _ => .list
  | .update _ _ => .update
  | .deleteOne _ => .deleteOne
  | .restore _ => .restore
  | .permanentDelete _ => .permanentDelete
  | .bulkCreate _ => .bulkCreate
  | .bulkDelete _ => .bulkDelete
  | .bulkRestore _ => .bulkRestore

inductive Answer where
  | row (row : Row)
  | found (row : Option Row)
  | page (page : Page)
  | affected (count : Nat)
  | created (items : List Row)

namespace Answer

def encode : Answer → Json
  | .row r => .obj r
  | .found r => Json.ofOption .obj r
  | .page p => p.encode
  | .affected count => .obj [("success", .bool true), ("count", Json.ofNat count)]
  | .created items =>
    .obj [("success", .bool true), ("count", Json.ofNat items.length), ("items", .arr (items.map .obj))]

end Answer

end RecordService
