/-!
# Errors

What can go wrong, and the one text for each cause.  `ConfigError` is about declarations and settings,
`ServiceError` about a call.
-/
namespace RecordService

/-! ## Configuration -/

/-- Why a file of declarations was not loaded. -/
inductive FileFault where
  | unreadable
  | notJson
  | notDeclaration
  | declaration (message : String)
  deriving DecidableEq

def FileFault.message : FileFault → String
  | .unreadable => "cannot be read"
  | .notJson => "is not a JSON document"
  | .notDeclaration => "is not an entity declaration"
  | .declaration message => message

inductive ConfigError where
  | missingReference (kind id : String)
  | invalidIdField (entity column : String)
  | duplicateEntity (name : String)
  | softDelete (entity reason : String)
  | load (detail : String)
  | file (path : String) (fault : FileFault)
  | invalid (detail : String)
  deriving DecidableEq

def ConfigError.message : ConfigError → String
  | .missingReference kind id => "missing reference: " ++ kind ++ " '" ++ id ++ "'"
  | .invalidIdField entity column => "invalid id field: entity " ++ entity ++ " column " ++ column
  | .duplicateEntity name => "duplicate entity name: " ++ name
  | .softDelete entity reason => "invalid soft delete config for " ++ entity ++ ": " ++ reason
  | .load detail => "config load: " ++ detail
  | .file path fault => "config load: " ++ path ++ ": " ++ fault.message
  | .invalid detail => "validation: " ++ detail

/-! ## Validation issues -/

/-- One rejected field. -/
structure Issue where
  field : String
  message : String
  deriving DecidableEq

/-- All issues, in the order they were found. -/
def Issue.summary (issues : List Issue) : String :=
  String.intercalate "; " (issues.map fun i => i.field ++ " " ++ i.message)

/-! ## Calls -/

/-- What a database may answer instead of rows. -/
inductive DatabaseFault where
  | noRow
  | refused (code : Option String) (message : String)
  deriving DecidableEq

def DatabaseFault.message : DatabaseFault → String
  | .noRow => "no rows returned by a query that expected to return at least one row"
  | .refused _ message => "error returned from database: " ++ message

/-- What a store may answer instead of rows. -/
inductive StoreFault where
  | refused (detail : String)
  /-- The rows have no order to be sorted by.  The sort breaks off and takes the call down with it: what waits for the
  rows goes on no more than behind any other fault, and whoever waits for the call is not answered. -/
  | disorder
  deriving DecidableEq

namespace StoreFault

/-- What a store refuses, it refuses with a text. -/
instance : Coe String StoreFault := ⟨refused⟩

def message : StoreFault → String
  | .refused detail => detail
  | .disorder => "user-provided comparison function does not correctly implement a total order"

end StoreFault

inductive ServiceError where
  | config (cause : ConfigError)
  | usage (detail : String)
  | notFound (detail : String)
  | validation (issues : List Issue)
  | database (fault : DatabaseFault)
  | store (fault : StoreFault)
  | badRequest (detail : String)
  deriving DecidableEq

namespace ServiceError

def message : ServiceError → String
  | .config cause => cause.message
  | .usage detail => "usage: " ++ detail
  | .notFound detail => "not found: " ++ detail
  | .validation issues => "validation: " ++ Issue.summary issues
  | .database fault => "database: " ++ fault.message
  | .store fault => "store: " ++ fault.message
  | .badRequest detail => "bad request: " ++ detail

/-- A failure with a single issue. -/
def issue (field message : String) : ServiceError := .validation [⟨field, message⟩]

/-- Success when there is no issue. -/
def ofIssues : List Issue → Except ServiceError Unit
  | [] => .ok ()
  | issues => .error (.validation issues)

/-- The issues of a failure in one element of a list name the element. -/
def atIndex (index : Nat) : ServiceError → ServiceError
  | .validation issues => .validation (issues.map fun i => ⟨toString index ++ "." ++ i.field, i.message⟩)
  | other => other

end ServiceError

end RecordService
