import RecordService.Proofs.Config.WellFormed
import RecordService.Proofs.Http.Order
import RecordService.Proofs.Record.Obedience
import RecordService.Proofs.Sql.Cast
import RecordService.Text.Letter
/-!
# Column types — what becomes of a type with a schema

A name with a dot can only be mistaken for a spelling of another type by a test that looks at a part of the name: `uuid` is
looked for anywhere in it and `varchar` at its beginning (`ColumnType.pgType_of_qualified`).  So a type with a schema is kept
for its column, as the cast of what is bound for the column and in the reading of the column, exactly when neither word stands
there (`Declaration.keeps_type_iff`).
-/
namespace RecordService

/-! ## Parts of texts -/

theorem isInfix_iff {part : List Char} : ∀ {cs : List Char}, isInfix part cs = true ↔ part <:+: cs
  | [] => by rw [isInfix, List.isEmpty_iff, List.infix_nil]
  | c :: cs => by rw [isInfix, Bool.or_eq_true, List.isPrefixOf_iff_prefix, isInfix_iff, List.infix_cons_iff]

namespace Text

theorem toList_lowerAscii (s : String) : (lowerAscii s).toList = s.toList.map Char.toLower := String.toList_ofList

/-- The word is somewhere in the text, in small letters or capitals. -/
def HoldsWord (word s : String) : Prop := ∃ part, part <:+: s.toList ∧ AnyCase part word.toList

/-- The text begins with the word, in small letters or capitals. -/
def OpensWithWord (word s : String) : Prop := ∃ part, part <+: s.toList ∧ AnyCase part word.toList

variable {word s : String}

theorem containsText_lowerAscii_iff (hword : ∀ small ∈ word.toList, 97 ≤ small.toNat ∧ small.toNat ≤ 122) :
    containsText word (lowerAscii s) = true ↔ HoldsWord word s := by
  rw [containsText, isInfix_iff, toList_lowerAscii, List.infix_map_iff]
  refine exists_congr fun part => and_congr_right fun _ => ?_
  rw [← map_toLower_eq_iff hword, eq_comm]

theorem startsWith_lowerAscii_iff (hword : ∀ small ∈ word.toList, 97 ≤ small.toNat ∧ small.toNat ≤ 122) :
    startsWith word (lowerAscii s) = true ↔ OpensWithWord word s := by
  rw [startsWith, List.isPrefixOf_iff_prefix, toList_lowerAscii, List.prefix_map_iff]
  refine exists_congr fun part => and_congr_right fun _ => ?_
  rw [← map_toLower_eq_iff hword, eq_comm]

/-- No letter becomes a blank. -/
theorem blank_not_mem_lowerAscii (h : ' ' ∉ s.toList) : ' ' ∉ (lowerAscii s).toList := by
  rw [toList_lowerAscii]
  intro hmem
  obtain ⟨c, hc, hlower⟩ := List.mem_map.1 hmem
  have hnat := toNat_toLower c
  rw [hlower] at hnat
  have hblank : c.toNat = ' '.toNat := by
    show c.toNat = 32
    replace hnat : 32 = if 65 ≤ c.toNat ∧ c.toNat ≤ 90 then c.toNat + 32 else c.toNat := hnat
    split at hnat <;> omega
  exact h (Char.toNat_inj.1 hblank ▸ hc)

end Text

/-! ## Names of types -/

namespace ColumnType

def isNameChar (c : Char) : Bool := Text.isAlphabetic c || Text.isNumeric c || c == '_'

/-- Letters, digits and underscores, at least one of them. -/
def IsIdentifier (s : String) : Prop := s ≠ "" ∧ s.toList.all isNameChar = true

/-- Two identifiers with a dot between them. -/
def Qualified (name : String) : Prop :=
  ∃ schema type, IsIdentifier schema ∧ IsIdentifier type ∧ name = schema ++ "." ++ type

theorem blank_not_nameChar : isNameChar ' ' = false := by decide +kernel

theorem Qualified.dot_mem {name : String} (h : Qualified name) : '.' ∈ name.toList := by
  obtain ⟨schema, type, -, -, rfl⟩ := h
  simp

theorem Qualified.blank_not_mem {name : String} (h : Qualified name) : ' ' ∉ name.toList := by
  obtain ⟨schema, type, ⟨-, hschema⟩, ⟨-, htype⟩, rfl⟩ := h
  intro hmem
  simp only [String.toList_append, List.mem_append] at hmem
  rcases hmem with (hmem | hmem) | hmem
  · exact Bool.false_ne_true (blank_not_nameChar.symm.trans (List.all_eq_true.1 hschema _ hmem))
  · exact absurd hmem (by decide)
  · exact Bool.false_ne_true (blank_not_nameChar.symm.trans (List.all_eq_true.1 htype _ hmem))

/-- **Of the tests for other types, two can catch a name with a schema**: the one for `uuid` first, then the one for
`varchar`. -/
theorem pgType_of_qualified {t : ColumnType} (h : Qualified t.name) :
    t.pgType = if containsText "uuid" (Text.lowerAscii t.name) then some "uuid"
      else if startsWith "varchar" (Text.lowerAscii t.name) then some "text"
      else some t.name := by
  have hword : ∀ word : String, '.' ∉ word.toList → Text.lowerAscii t.name ≠ word := by
    intro word hnot heq
    refine hnot ?_
    rw [← heq, Text.toList_lowerAscii]
    exact List.mem_map_of_mem (f := Char.toLower) h.dot_mem
  have hblank : ∀ start : String, ' ' ∈ start.toList → startsWith start (Text.lowerAscii t.name) = false := by
    intro start hmem
    refine Bool.eq_false_iff.2 fun hstarts => Text.blank_not_mem_lowerAscii h.blank_not_mem ?_
    exact (List.isPrefixOf_iff_prefix.1 hstarts).subset hmem
  unfold pgType
  simp (disch := decide) [hword, hblank, h.dot_mem]

theorem Qualified.ne_of_dot_not_mem {name word : String} (h : Qualified name) (hword : '.' ∉ word.toList) : word ≠ name :=
  fun heq => hword (heq ▸ h.dot_mem)

end ColumnType

/-! ## Columns -/

/-- **The column keeps the type**: what is bound for it, save patterns, is cast to the type, and it is read as text. -/
structure Entity.KeepsType (e : Entity) (column type : String) : Prop where
  cast : Sql.cast e column = some type
  bound : ∀ (c : StoreCall) (n : Nat) (value : Json), (c.bindings e)[n]? = some ⟨some column, value⟩ →
    ((c.statement e).fragment e).Casts n type value
  read : ∀ c ∈ e.columns, c.name = column →
    Statement.readColumn c = [.name column, .words "::text AS ", .name column]

theorem Entity.keepsType_iff_cast {e : Entity} (hnames : e.columnNames.Nodup) {column type : String}
    (hdot : '.' ∈ type.toList) : e.KeepsType column type ↔ Sql.cast e column = some type := by
  refine ⟨KeepsType.cast, fun h => ⟨h, fun _ _ _ hn => StoreCall.casts_of_binding h hn, ?_⟩⟩
  rintro c hc rfl
  have htype : c.pgType = some type := by
    rwa [Sql.cast, Entity.column?, findColumn_of_mem hnames hc] at h
  have hread : Statement.readAsText c = true := by
    rw [Statement.readAsText, htype]
    exact Bool.or_eq_true_iff.2 (.inl (List.contains_iff_mem.2 hdot))
  rw [Statement.readColumn, if_pos hread]

namespace Declaration

open ColumnType

variable {settings : Settings} {d : Declaration} {e : Entity} {c : ColumnDeclaration}

theorem nodup_of_resolveOne (hcheck : d.check = .ok ()) (h : d.resolveOne settings = .ok e) : e.columnNames.Nodup :=
  columnNames_of_resolveOne h ▸ (check_ok_iff.1 hcheck).2.2.1

theorem cast_of_resolveOne (hcheck : d.check = .ok ()) (h : d.resolveOne settings = .ok e) (hc : c ∈ d.columns) :
    Sql.cast e c.name = c.type.pgType := by
  have hnames := nodup_of_resolveOne hcheck h
  obtain ⟨_, -, h⟩ := ok_of_bind h
  cases h
  have hcolumn : resolveColumn c ∈ d.columns.map resolveColumn := List.mem_map_of_mem hc
  exact congrArg (Option.bind · Column.pgType) (Entity.findColumn_of_mem hnames hcolumn)

/-- **A type with a schema is kept exactly when it is not mistaken for another one**: when `uuid` is nowhere in its name and
`varchar` not at the beginning.  Otherwise the values of the column are cast to `uuid`, or else to `text`. -/
theorem keeps_type_iff (hcheck : d.check = .ok ()) (h : d.resolveOne settings = .ok e) (hc : c ∈ d.columns)
    (hqualified : Qualified c.type.name) :
    (e.KeepsType c.name c.type.name ↔
        ¬ Text.HoldsWord "uuid" c.type.name ∧ ¬ Text.OpensWithWord "varchar" c.type.name) ∧
      (Text.HoldsWord "uuid" c.type.name → Sql.cast e c.name = some "uuid") ∧
      (¬ Text.HoldsWord "uuid" c.type.name → Text.OpensWithWord "varchar" c.type.name →
        Sql.cast e c.name = some "text") := by
  rw [Entity.keepsType_iff_cast (nodup_of_resolveOne hcheck h) hqualified.dot_mem, cast_of_resolveOne hcheck h hc,
    pgType_of_qualified hqualified, ← Text.containsText_lowerAscii_iff (by simp),
    ← Text.startsWith_lowerAscii_iff (by simp)]
  have huuid : some "uuid" ≠ some c.type.name := Option.some_inj.ne.2 (hqualified.ne_of_dot_not_mem (by decide))
  have htext : some "text" ≠ some c.type.name := Option.some_inj.ne.2 (hqualified.ne_of_dot_not_mem (by decide))
  cases containsText "uuid" (Text.lowerAscii c.type.name) with
  | true => simpa using huuid
  | false =>
    cases startsWith "varchar" (Text.lowerAscii c.type.name) with
    | true => simpa using htext
    | false => simp

end Declaration

/-- Notes of a kind, which has a type of its own. -/
def Notes.ofKind (type : String) : Declaration where
  name := "note"
  schema := none
  table := "notes"
  idField := "id"
  idType := .text
  columns := [⟨"id", .plain "text", false, none⟩, ⟨"kind", .plain type, true, none⟩]
  allowedFilters := none
  searchFields := []
  softDelete := none
  timestamps := none
  pagination := ⟨none, none⟩
  scope := []
  rules := []

namespace Declaration

open ColumnType

theorem keeps_type_iff_status : ∃ e,
    (Notes.ofKind "sample.status").check = .ok () ∧ (Notes.ofKind "sample.status").resolveOne .standard = .ok e ∧
      Qualified "sample.status" ∧ e.KeepsType "kind" "sample.status" := by
  have hcheck : (Notes.ofKind "sample.status").check = .ok () := rfl
  have hqualified : Qualified "sample.status" :=
    ⟨"sample", "status", ⟨by decide, by decide +kernel⟩, ⟨by decide, by decide +kernel⟩, by decide⟩
  have hc : (⟨"kind", .plain "sample.status", true, none⟩ : ColumnDeclaration) ∈ (Notes.ofKind "sample.status").columns :=
    List.mem_cons_of_mem _ List.mem_cons_self
  obtain ⟨e, hresolve⟩ : ∃ e, (Notes.ofKind "sample.status").resolveOne .standard = .ok e := ⟨_, rfl⟩
  refine ⟨e, hcheck, hresolve, hqualified, (keeps_type_iff hcheck hresolve hc hqualified).1.2 ?_⟩
  rw [← Text.containsText_lowerAscii_iff (by simp), ← Text.startsWith_lowerAscii_iff (by simp)]
  decide

/-- A kind that has `uuid` in its name is compared as one. -/
theorem uuid_kind_not_kept : ∃ e,
    (Notes.ofKind "sample.uuid_kind").check = .ok () ∧
      (Notes.ofKind "sample.uuid_kind").resolveOne .standard = .ok e ∧ Qualified "sample.uuid_kind" ∧
      ¬ e.KeepsType "kind" "sample.uuid_kind" ∧
      (Statement.select (.allOf [.eq "kind" (.str "a")])).sql e =
        "SELECT \"id\", \"kind\" FROM \"public\".\"notes\" WHERE \"kind\" = $1::uuid" := by
  have hqualified : Qualified "sample.uuid_kind" :=
    ⟨"sample", "uuid_kind", ⟨by decide, by decide +kernel⟩, ⟨by decide, by decide +kernel⟩, by decide⟩
  refine ⟨_, rfl, rfl, hqualified, fun h => ?_, by decide⟩
  exact absurd h.cast (by decide)

end Declaration

end RecordService
