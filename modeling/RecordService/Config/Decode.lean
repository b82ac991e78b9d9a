import RecordService.Config.Declaration
import RecordService.Json.Decode
import RecordService.Text.Fold
import RecordService.Text.Quoted
/-!
# Reading declarations

The written form of a declaration.  Only the name, the table and the columns have to be given.
-/
namespace RecordService

/-! ## Columns -/

def ColumnType.paramFields : List (Decoder.Field (Option String × Option (List Nat))) :=
  [.of "name" .string fun r v => (some v, r.2),
   .of "params" (.optional (.list .natural32)) fun r v => (r.1, v)]

/-- A name, or an object with a name and parameters. -/
def ColumnType.decode : Decoder ColumnType
  | .str s => .ok (.plain s)
  | .obj members => do
    let (name, params) ← Decoder.visitMembers paramFields members (none, none)
    match name with
    | some name => return .withParams name params
    | none => .error .shape
  | _ => .error .shape

/-- Takes a member out of an object; the last member moves into its place. -/
def takeMember (name : String) (members : Row) : Option Json × Row :=
  match members.findIdx? (·.1 == name) with
  | none => (none, members)
  | some i =>
    let value := members[i]?.map Prod.snd
    let last := members.getLast?
    let rest := members.dropLast
    (value, match last with
      | some m => if i < rest.length then rest.set i m else rest
      | none => rest)

def ColumnDefault.unknownKeys (keys : List String) : DecodeError :=
  .explained ("column default must be a string, \x7b \"expression\": \"...\" \x7d, or \x7b \"value\": \"...\" \x7d; " ++
    "got object with keys: [" ++ String.intercalate ", " (keys.map Text.quoted) ++ "]")

def ColumnDefault.wrongKind (v : Json) : DecodeError :=
  .explained ("column default must be a string or \x7b \"expression\": \"...\" \x7d; got " ++ v.kindName)

/-- The members looked at so far are gone when the rest is reported. -/
def ColumnDefault.ofMembers (members : Row) : Except DecodeError ColumnDefault :=
  match takeMember "expression" members with
  | (some (.str s), _) => .ok (.expression s)
  | (_, members) =>
    match takeMember "value" members with
    | (some (.str s), _) => .ok (.literal s)
    | (some _, members) => .error (unknownKeys members.keys)
    | (none, members) =>
      match takeMember "literal" members with
      | (some (.str s), _) => .ok (.literal s)
      | (_, members) => .error (unknownKeys members.keys)

def ColumnDefault.decode : Decoder ColumnDefault
  | .str s => .ok (.literal s)
  | .obj members => ofMembers members
  | v => .error (wrongKind v)

namespace ColumnDeclaration

def fields : List (Decoder.Field ColumnDeclaration) :=
  [.of "name" .string fun c v => { c with name := v },
   .of "type" ColumnType.decode fun c v => { c with type := v },
   .of "nullable" .bool fun c v => { c with nullable := v },
   .of "default" (.optional ColumnDefault.decode) fun c v => { c with default := v }]

def decode : Decoder ColumnDeclaration := .record fields ["name", "type"] ⟨"", .plain "", true, none⟩

end ColumnDeclaration

/-! ## Soft deletion, times, pages and scope -/

/-- The word `now` in any letter case, or a value. -/
def DeletedValue.decode : Decoder DeletedValue
  | .str s => .ok (if Text.equalIgnoringAsciiCase s "now" then .now else .literal (.str s))
  | v => .ok (.literal v)

namespace SoftDelete

def fields : List (Decoder.Field SoftDelete) :=
  [.of "field" .string fun s v => { s with field := v },
   .of "deletedValue" DeletedValue.decode fun s v => { s with deletedValue := v },
   .of "notDeletedValue" .any fun s v => { s with notDeletedValue := v }]

def decode : Decoder SoftDelete := .record fields ["field"] ⟨"", .now, .null⟩

end SoftDelete

namespace Timestamps

def fields : List (Decoder.Field Timestamps) :=
  [.of "createdAt" (.optional .string) fun t v => { t with createdAt := v },
   .of "updatedAt" (.optional .string) fun t v => { t with updatedAt := v }]

def decode : Decoder Timestamps := .record fields [] ⟨none, none⟩

end Timestamps

namespace PageSizes

def fields : List (Decoder.Field PageSizes) :=
  [.of "defaultPageSize" (.optional .natural64) fun p v => { p with default := v },
   .of "maxPageSize" (.optional .natural64) fun p v => { p with max := v }]

def decode : Decoder PageSizes := .record fields [] ⟨none, none⟩

end PageSizes

namespace ScopeRule

def fields : List (Decoder.Field ScopeRule) :=
  [.of "key" .string fun r v => { r with key := v },
   .of "column" .string fun r v => { r with column := v },
   .of "required" .bool fun r v => { r with required := v }]

def decode : Decoder ScopeRule := .record fields ["key", "column"] ⟨"", "", false⟩

end ScopeRule

/-! ## Rules -/

namespace Rule

def none : Rule := ⟨.none, .none, .none, .none, .none, .none, .none, .none⟩

def fields : List (Decoder.Field Rule) :=
  [.of "required" (.optional .bool) fun r v => { r with required := v },
   .of "format" (.optional .string) fun r v => { r with format := v },
   .of "maxLength" (.optional .natural32) fun r v => { r with maxLength := v },
   .of "minLength" (.optional .natural32) fun r v => { r with minLength := v },
   .of "pattern" (.optional .string) fun r v => { r with pattern := v },
   .of "allowed" (.optional (.list .any)) fun r v => { r with allowed := v },
   .of "minimum" (.optional .double) fun r v => { r with minimum := v },
   .of "maximum" (.optional .double) fun r v => { r with maximum := v }]

def decode : Decoder Rule := .record fields [] none

end Rule

/-! ## Declarations -/

namespace Declaration

def fields : List (Decoder.Field Declaration) :=
  [.of "name" .string fun d v => { d with name := v },
   .of "schema" (.optional .string) fun d v => { d with schema := v },
   .of "table" .string fun d v => { d with table := v },
   .of "idField" .string fun d v => { d with idField := v },
   .of "idType" (.choice IdType.words) fun d v => { d with idType := v },
   .of "columns" (.list ColumnDeclaration.decode) fun d v => { d with columns := v },
   .of "allowedFilters" (.optional (.list .string)) fun d v => { d with allowedFilters := v },
   .of "searchFields" (.list .string) fun d v => { d with searchFields := v },
   .of "softDelete" (.optional SoftDelete.decode) fun d v => { d with softDelete := v },
   .of "timestamps" (.optional Timestamps.decode) fun d v => { d with timestamps := v },
   .of "pagination" PageSizes.decode fun d v => { d with pagination := v },
   .of "scope" (.list ScopeRule.decode) fun d v => { d with scope := v },
   .of "validation" (.table Rule.decode) fun d v => { d with rules := v }]

/-- A declaration that says nothing yet. -/
def blank : Declaration :=
  ⟨"", none, "", "id", .uuid, [], none, [], none, none, ⟨none, none⟩, [], []⟩

def decode : Decoder Declaration := .record fields ["name", "table", "columns"] blank

end Declaration

end RecordService
