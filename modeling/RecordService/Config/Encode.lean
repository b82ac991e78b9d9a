import RecordService.Config.Declaration
/-!
# Writing declarations

Every field is written, an absent one as null.
-/
namespace RecordService

namespace Json

def ofOption {α : Type} (write : α → Json) : Option α → Json
  | some v => write v
  | none => .null

def ofNat (n : Nat) : Json := .num (.int n)

def ofDouble (d : Double) : Json := .num (.double d)

end Json

open Json

def ColumnType.encode : ColumnType → Json
  | .plain name => .str name
  | .withParams name params =>
    .obj [("name", .str name), ("params", ofOption (fun ps => .arr (ps.map ofNat)) params)]

def ColumnDefault.encode : ColumnDefault → Json
  | .literal text => .obj [("Literal", .str text)]
  | .expression text => .obj [("Expression", .obj [("expression", .str text)])]

def ColumnDeclaration.encode (c : ColumnDeclaration) : Json :=
  .obj [("name", .str c.name), ("type", c.type.encode), ("nullable", .bool c.nullable),
    ("default", ofOption ColumnDefault.encode c.default)]

def DeletedValue.encode : DeletedValue → Json
  | .now => .str "now"
  | .literal v => v

def SoftDelete.encode (s : SoftDelete) : Json :=
  .obj [("field", .str s.field), ("deletedValue", s.deletedValue.encode), ("notDeletedValue", s.notDeletedValue)]

def Timestamps.encode (t : Timestamps) : Json :=
  .obj [("createdAt", ofOption .str t.createdAt), ("updatedAt", ofOption .str t.updatedAt)]

def PageSizes.encode (p : PageSizes) : Json :=
  .obj [("defaultPageSize", ofOption ofNat p.default), ("maxPageSize", ofOption ofNat p.max)]

def ScopeRule.encode (r : ScopeRule) : Json :=
  .obj [("key", .str r.key), ("column", .str r.column), ("required", .bool r.required)]

def Rule.encode (r : Rule) : Json :=
  .obj [("required", ofOption .bool r.required), ("format", ofOption .str r.format),
    ("maxLength", ofOption ofNat r.maxLength), ("minLength", ofOption ofNat r.minLength),
    ("pattern", ofOption .str r.pattern), ("allowed", ofOption .arr r.allowed),
    ("minimum", ofOption ofDouble r.minimum), ("maximum", ofOption ofDouble r.maximum)]

def Declaration.encode (d : Declaration) : Json :=
  .obj [("name", .str d.name), ("schema", ofOption .str d.schema), ("table", .str d.table),
    ("idField", .str d.idField), ("idType", .str d.idType.name),
    ("columns", .arr (d.columns.map ColumnDeclaration.encode)),
    ("allowedFilters", ofOption (fun fs => .arr (fs.map .str)) d.allowedFilters),
    ("searchFields", .arr (d.searchFields.map .str)),
    ("softDelete", ofOption SoftDelete.encode d.softDelete),
    ("timestamps", ofOption Timestamps.encode d.timestamps),
    ("pagination", d.pagination.encode),
    ("scope", .arr (d.scope.map ScopeRule.encode)),
    ("validation", .obj (d.rules.map fun r => (r.1, r.2.encode)))]

end RecordService
