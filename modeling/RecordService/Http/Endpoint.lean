import RecordService.Text.Split
/-!
# Endpoints

The paths that are served, with the parts of a path that are not fixed as they were sent.  The last part
of a path is never empty, and a fixed word takes precedence over a part of any form.
-/
namespace RecordService

inductive Endpoint where
  | health
  | ready
  | version
  | collection (entity : List Char)
  | bulk (entity : List Char)
  | bulkDelete (entity : List Char)
  | bulkRestore (entity : List Char)
  | record (entity id : List Char)
  | restore (entity id : List Char)
  | permanent (entity id : List Char)
  deriving DecidableEq

namespace Endpoint

/-- The endpoints of entities, by what follows `/api/`. -/
def ofParts : List (List Char) → Option Endpoint
  | [entity] => if entity.isEmpty then none else some (.collection entity)
  | [entity, id] =>
    if id.isEmpty then none
    else if id = "bulk".toList then some (.bulk entity)
    else some (.record entity id)
  | [entity, id, action] =>
    if id = "bulk".toList && action = "delete".toList then some (.bulkDelete entity)
    else if id = "bulk".toList && action = "restore".toList then some (.bulkRestore entity)
    else if action = "restore".toList then some (.restore entity id)
    else if action = "permanent".toList then some (.permanent entity id)
    else none
  | _ => none

def ofPath (path : String) : Option Endpoint :=
  match Text.pieces '/' path.toList with
  | [[], word] =>
    if word = "health".toList then some .health
    else if word = "ready".toList then some .ready
    else if word = "version".toList then some .version
    else none
  | [] :: word :: parts => if word = "api".toList then ofParts parts else none
  | _ => none

/-- Whether the size of a body is limited. -/
def isLimited : Endpoint → Bool
  | .health => false
  | .ready => false
  | .version => false
  | _ => true

/-- Whether there is something to get. -/
def hasGet : Endpoint → Bool
  | .health => true
  | .ready => true
  | .version => true
  | .collection _ => true
  | .record _ _ => true
  | _ => false

end Endpoint

end RecordService
