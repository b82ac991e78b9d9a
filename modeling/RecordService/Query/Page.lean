import RecordService.Config.Encode
import RecordService.Json.Decode
/-!
# Lists and pages

What a caller asks of a list, the window of rows that answers it, and the figures that go with a page.
Page numbers, sizes and counts are integers of 64 bits.
-/
namespace RecordService

/-! ## Order -/

inductive SortDirection where
  | asc
  | desc
  deriving DecidableEq

def SortDirection.words : List (String × SortDirection) := [("asc", .asc), ("desc", .desc)]

def SortDirection.name : SortDirection → String
  | .asc => "asc"
  | .desc => "desc"

structure OrderBy where
  field : String
  direction : SortDirection
  deriving DecidableEq

namespace OrderBy

def fields : List (Decoder.Field OrderBy) :=
  [.of "field" .string fun o v => { o with field := v },
   .of "direction" (.choice SortDirection.words) fun o v => { o with direction := v }]

def decode : Decoder OrderBy := .record fields ["field"] ⟨"", .asc⟩

def encode (o : OrderBy) : Json := .obj [("field", .str o.field), ("direction", .str o.direction.name)]

end OrderBy

/-! ## What a caller asks for -/

structure ListParams where
  page : Option Nat
  perPage : Option Nat
  search : Option String
  filters : Option Row
  orderBy : List OrderBy
  includeDeleted : Bool

namespace ListParams

/-- The first page of everything, in the standard order. -/
def standard : ListParams := ⟨none, none, none, none, [], false⟩

def fields : List (Decoder.Field ListParams) :=
  [.of "page" (.optional .natural64) fun p v => { p with page := v },
   .of "perPage" (.optional .natural64) fun p v => { p with perPage := v },
   .of "search" (.optional .string) fun p v => { p with search := v },
   .of "filters" (.optional .object) fun p v => { p with filters := v },
   .of "orderBy" (.list OrderBy.decode) fun p v => { p with orderBy := v },
   .of "includeDeleted" .bool fun p v => { p with includeDeleted := v }]

def decode : Decoder ListParams := .record fields [] standard

def member {α : Type} (name : String) (write : α → Json) : Option α → Row
  | some v => [(name, write v)]
  | none => []

/-- What is not asked for is left out. -/
def encode (p : ListParams) : Json :=
  .obj (member "page" Json.ofNat p.page ++ member "perPage" Json.ofNat p.perPage ++
    member "search" .str p.search ++ member "filters" .obj p.filters ++
    (if p.orderBy.isEmpty then [] else [("orderBy", .arr (p.orderBy.map OrderBy.encode))]) ++
    [("includeDeleted", .bool p.includeDeleted)])

end ListParams

/-! ## The window -/

structure PageBounds where
  page : Nat
  perPage : Nat
  offset : Nat
  deriving DecidableEq

/-- The product, or the greatest 64-bit integer when it is larger. -/
def saturatingMul (a b : Nat) : Nat := min (a * b) 18446744073709551615

/-- The largest offset a database accepts. -/
def maxOffset : Nat := 9223372036854775807

/-- Pages count from one and hold at least one row; zero is taken for one. -/
def paginate (page perPage : Option Nat) (defaultSize maxSize : Nat) : PageBounds :=
  let perPage := max (min (perPage.getD defaultSize) maxSize) 1
  let page := max (page.getD 1) 1
  ⟨page, perPage, min (saturatingMul (page - 1) perPage) maxOffset⟩

/-! ## The answer -/

structure Page where
  results : List Row
  page : Nat
  perPage : Nat
  totalItems : Nat
  totalPages : Nat
  hasNextPage : Bool
  hasPreviousPage : Bool

namespace Page

/-- The least number of pages of a size that hold so many items. -/
def count (items size : Nat) : Nat := items / size + (if items % size = 0 then 0 else 1)

def of (results : List Row) (bounds : PageBounds) (totalItems : Nat) : Page where
  results
  page := bounds.page
  perPage := bounds.perPage
  totalItems
  totalPages := count totalItems bounds.perPage
  hasNextPage := bounds.page < count totalItems bounds.perPage
  hasPreviousPage := 0 < totalItems && 1 < bounds.page

def encode (p : Page) : Json :=
  .obj [("results", .arr (p.results.map .obj)), ("page", Json.ofNat p.page), ("perPage", Json.ofNat p.perPage),
    ("totalItems", Json.ofNat p.totalItems), ("totalPages", Json.ofNat p.totalPages),
    ("hasNextPage", .bool p.hasNextPage), ("hasPreviousPage", .bool p.hasPreviousPage)]

end Page

end RecordService
