import RecordService.Error
import RecordService.Http.Form
import RecordService.Json.Reader
import RecordService.Query.Page
import RecordService.Text.Blank
import RecordService.Text.Fold
/-!
# The query of a list

A list is asked for with short texts: the filter as a JSON document, the order as `field:direction` items
separated by commas.  The direction may be left out, and stands in any letter case.
-/
namespace RecordService

structure ListQuery where
  page : Option Nat
  perPage : Option Nat
  search : Option String
  filters : Option String
  orderBy : Option String
  includeDeleted : Bool

namespace ListQuery

def standard : ListQuery := ⟨none, none, none, none, none, false⟩

def fields : List (Decoder.Field ListQuery) :=
  [.of "page" (.optional .natural64) fun q v => { q with page := v },
   .of "perPage" (.optional .natural64) fun q v => { q with perPage := v },
   .of "search" (.optional .string) fun q v => { q with search := v },
   .of "filters" (.optional .string) fun q v => { q with filters := v },
   .of "orderBy" (.optional .string) fun q v => { q with orderBy := v },
   .of "includeDeleted" .bool fun q v => { q with includeDeleted := v }]

/-- By position every field but the last has to be given. -/
def requiredIn : Json → List String
  | .arr _ => ["page", "perPage", "search", "filters", "orderBy"]
  | _ => []

def decode : Decoder ListQuery := fun v => Decoder.record fields (requiredIn v) standard v

/-- The fields of a form that are not about a list mean nothing. -/
def ofForm? (form : Form) : Option ListQuery := do
  let page ← form.readable? "page" readUnsigned64
  let perPage ← form.readable? "perPage" readUnsigned64
  let search ← form.single? "search"
  let filters ← form.single? "filters"
  let orderBy ← form.single? "orderBy"
  let includeDeleted ← form.flag? "includeDeleted"
  return { page, perPage, search, filters, orderBy, includeDeleted }

/-! ## Filters -/

def parseFilters (text : String) : Except ServiceError Row :=
  match Json.read text with
  | some (.obj members) => .ok members
  | some _ => .error (.badRequest "filters must be a JSON object")
  | none => .error (.badRequest "filters: not a JSON document")

/-- A text of blanks only is no filter. -/
def readFilters : Option String → Except ServiceError (Option Row)
  | none => .ok none
  | some text => if Text.isAllBlank text then .ok none else (parseFilters (Text.trim text)).map some

/-! ## Order -/

def direction (word : List Char) : Except ServiceError SortDirection :=
  match (Text.trimChars word).map Char.toLower with
  | ['a', 's', 'c'] => .ok .asc
  | ['d', 'e', 's', 'c'] => .ok .desc
  | other => .error (.badRequest ("invalid sort direction: " ++ String.ofList other))

def parseOrderItem (item : List Char) : Except ServiceError OrderBy :=
  match Text.cutOnce ':' item with
  | some (field, word) => (direction word).map fun d => ⟨String.ofList (Text.trimChars field), d⟩
  | none => .ok ⟨String.ofList item, .asc⟩

/-- The items between commas; one of blanks only is passed over. -/
def parseOrder (text : String) : Except ServiceError (List OrderBy) :=
  (((Text.pieces ',' text.toList).map Text.trimChars).filter (!·.isEmpty)).mapM parseOrderItem

def readOrder : Option String → Except ServiceError (List OrderBy)
  | none => .ok []
  | some text => parseOrder text

def params (q : ListQuery) : Except ServiceError ListParams := do
  let filters ← readFilters q.filters
  let orderBy ← readOrder q.orderBy
  return { page := q.page, perPage := q.perPage, search := q.search, filters, orderBy,
           includeDeleted := q.includeDeleted }

end ListQuery

end RecordService
