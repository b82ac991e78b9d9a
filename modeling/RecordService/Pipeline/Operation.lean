/-!
# Operations

The ten things that can be done with the records of an entity.
-/
namespace RecordService

inductive Operation where
  | create
  | findOne
  | list
  | update
  | deleteOne
  | restore
  | permanentDelete
  | bulkCreate
  | bulkDelete
  | bulkRestore
  deriving DecidableEq

namespace Operation

def name : Operation → String
  | .create => "create"
  | .findOne => "findOne"
  | .list => "list"
  | .update => "update"
  | .deleteOne => "deleteOne"
  | .restore => "restore"
  | .permanentDelete => "permanentDelete"
  | .bulkCreate => "bulkCreate"
  | .bulkDelete => "bulkDelete"
  | .bulkRestore => "bulkRestore"

def everyOne : List Operation :=
  [.create, .findOne, .list, .update, .deleteOne, .restore, .permanentDelete, .bulkCreate, .bulkDelete,
   .bulkRestore]

def words : List (String × Operation) := everyOne.map fun o => (o.name, o)

end Operation

end RecordService
