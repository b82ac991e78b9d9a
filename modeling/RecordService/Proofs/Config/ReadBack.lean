import RecordService.Config.Decode
import RecordService.Proofs.Json.Decode
/-!
# Declarations written and read again — what survives

What a decoder yields is in the range that it reads (`Declaration.decode_yields`), and what is in range is read back as
it was written, part by part.  The default of a column is the one part that is not: it is written under the name of its
kind, which is no key that a default is read from (`ColumnDefault.decode_encode`).
-/
namespace RecordService

open Decoder

/-! ## Types of columns -/

namespace ColumnType

/-- The parameters are numbers of 32 bits. -/
def InRange (t : ColumnType) : Prop :=
  ∀ name params, t = .withParams name (some params) → ∀ n ∈ params, n ≤ 4294967295

theorem decode_yields : Yields decode InRange := by
  intro v t h
  cases v with
  | str s =>
    cases h
    intro name params heq
    cases heq
  | obj members =>
    obtain ⟨⟨name?, params?⟩, hvisit, h⟩ := ok_of_bind h
    have hparams : ∀ ps ∈ params?, ∀ n ∈ ps, n ≤ 4294967295 := by
      refine visitMembers_keeps (P := fun r => ∀ ps ∈ r.2, ∀ n ∈ ps, n ≤ 4294967295) ?_ hvisit
        (fun ps hps => by cases hps)
      exact List.forall_mem_cons.2 ⟨.of_assign fun _ _ hr => hr,
        List.forall_mem_singleton.2 (.of (natural_yields _).list.optional fun _ _ _ hps => hps)⟩
    cases name? with
    | none => cases h
    | some name =>
      cases h
      intro name' params heq
      cases heq
      exact hparams params rfl
  | _ => cases h

theorem decode_encode {t : ColumnType} (h : t.InRange) : decode t.encode = .ok t := by
  cases t with
  | plain name => rfl
  | withParams name params =>
    have hparams : optional (list natural32) (Json.ofOption (fun ps => .arr (ps.map Json.ofNat)) params) = .ok params :=
      optional_ofOption (fun _ => rfl) fun ps hps => list_map fun n hn => natural_ofNat (h name ps (hps ▸ rfl) n hn)
    rw [encode, decode, visitMembers_inOrder _ rfl (by decide)]
    simp only [paramFields, List.map_cons, visitItems_of, string_str, hparams, ok_bind]
    rfl

end ColumnType

/-! ## Defaults -/

namespace ColumnDefault

/-- The key that a default is written under. -/
def writtenKey : ColumnDefault → String
  | .literal _ => "Literal"
  | .expression _ => "Expression"

/-- **No default is read back.** -/
theorem decode_encode (c : ColumnDefault) : decode c.encode = .error (unknownKeys [c.writtenKey]) := by cases c <;> rfl

end ColumnDefault

namespace ColumnDeclaration

theorem decode_yields : Yields decode fun c => c.type.InRange :=
  .record (fun _ _ heq => by cases heq) <| List.forall_mem_cons.2 ⟨.of_assign fun _ _ hc => hc,
    List.forall_mem_cons.2 ⟨.of ColumnType.decode_yields fun _ _ _ ht => ht,
    List.forall_mem_cons.2 ⟨.of_assign fun _ _ hc => hc,
    List.forall_mem_singleton.2 (.of_assign fun _ _ hc => hc)⟩⟩⟩

/-- A column is read back when it has no default, and refused when it has one. -/
theorem decode_encode {c : ColumnDeclaration} (h : c.type.InRange) : decode c.encode =
    match c.default with
    | none => .ok c
    | some default => .error (ColumnDefault.unknownKeys [default.writtenKey]) := by
  obtain ⟨name, type, nullable, default⟩ := c
  have hdefault : optional ColumnDefault.decode (Json.ofOption ColumnDefault.encode default) =
      match default with
      | none => .ok none
      | some c => .error (ColumnDefault.unknownKeys [c.writtenKey]) := by
    cases default with
    | none => rfl
    | some c =>
      rw [Json.ofOption, optional_of_ne_null _ (by cases c <;> rfl), ColumnDefault.decode_encode]
      rfl
  rw [decode, encode, record_inOrder rfl (by decide) rfl]
  simp only [fields, List.map_cons, visitItems_of, string_str, bool_bool, ColumnType.decode_encode h, hdefault, ok_bind]
  cases default <;> rfl

/-- The first column with a default is the one that a list of columns is refused for. -/
theorem list_decode_encode : ∀ {cs : List ColumnDeclaration}, (∀ c ∈ cs, c.type.InRange) →
    list decode (.arr (cs.map encode)) =
      match cs.findSome? (·.default) with
      | none => .ok cs
      | some default => .error (ColumnDefault.unknownKeys [default.writtenKey])
  | [], _ => rfl
  | c :: cs, h => by
    obtain ⟨hc, hcs⟩ := List.forall_mem_cons.1 h
    have hrest := list_decode_encode hcs
    rw [list] at hrest ⊢
    rw [List.map_cons, List.mapM_cons, decode_encode hc, hrest, List.findSome?_cons]
    cases c.default with
    | some default => rfl
    | none => cases cs.findSome? (·.default) <;> rfl

end ColumnDeclaration

/-! ## Identifiers -/

theorem IdType.choice_name (t : IdType) : choice words (.str t.name) = .ok t := by cases t <;> rfl

/-! ## Soft deletion -/

namespace DeletedValue

/-- No text that would be taken for the word `now` is a value. -/
def Distinguished (m : DeletedValue) : Prop := ∀ s, m = .literal (.str s) → Text.equalIgnoringAsciiCase s "now" = false

theorem decode_yields : Yields decode Distinguished := by
  intro v m h s hs
  unfold decode at h
  split at h
  · split at h
    · cases h
      cases hs
    · rename_i hnow
      cases h
      cases hs
      exact Bool.eq_false_iff.2 hnow
  · rename_i hstr
    cases h
    cases hs
    exact absurd rfl (hstr s)

theorem decode_encode {m : DeletedValue} (h : m.Distinguished) : decode m.encode = .ok m := by
  cases m with
  | now => rfl
  | literal v =>
    cases v with
    | str s =>
      show Except.ok (if Text.equalIgnoringAsciiCase s "now" then now else literal (.str s)) = _
      rw [h s rfl]
      rfl
    | _ => rfl

end DeletedValue

namespace SoftDelete

theorem decode_yields : Yields decode fun s => s.deletedValue.Distinguished :=
  .record (fun _ heq => by cases heq) <| List.forall_mem_cons.2 ⟨.of_assign fun _ _ hs => hs,
    List.forall_mem_cons.2 ⟨.of DeletedValue.decode_yields fun _ _ _ hm => hm,
    List.forall_mem_singleton.2 (.of_assign fun _ _ hs => hs)⟩⟩

theorem decode_encode {s : SoftDelete} (h : s.deletedValue.Distinguished) : decode s.encode = .ok s := by
  rw [decode, encode, record_inOrder rfl (by decide) rfl]
  simp only [fields, List.map_cons, visitItems_of, string_str, any_eq, DeletedValue.decode_encode h, ok_bind]
  rfl

end SoftDelete

/-! ## Times, scope and pages -/

theorem Timestamps.decode_encode (t : Timestamps) : decode t.encode = .ok t := by
  rw [decode, encode, record_inOrder rfl (by decide) rfl]
  simp only [fields, List.map_cons, visitItems_of, optional_str, ok_bind]
  rfl

theorem ScopeRule.decode_encode (r : ScopeRule) : decode r.encode = .ok r := rfl

namespace PageSizes

/-- The sizes are numbers of 64 bits. -/
structure InRange (p : PageSizes) : Prop where
  default : ∀ n ∈ p.default, n ≤ 18446744073709551615
  max : ∀ n ∈ p.max, n ≤ 18446744073709551615

theorem decode_yields : Yields decode InRange :=
  .record ⟨fun _ hn => (by cases hn), fun _ hn => (by cases hn)⟩ <| List.forall_mem_cons.2
    ⟨.of (natural_yields _).optional fun _ _ hp hn => { hp with default := hn },
    List.forall_mem_singleton.2 (.of (natural_yields _).optional fun _ _ hp hn => { hp with max := hn })⟩

theorem decode_encode {p : PageSizes} (h : p.InRange) : decode p.encode = .ok p := by
  have hdefault : optional natural64 (Json.ofOption Json.ofNat p.default) = .ok p.default := optional_ofNat h.default
  have hmax : optional natural64 (Json.ofOption Json.ofNat p.max) = .ok p.max := optional_ofNat h.max
  rw [decode, encode, record_inOrder rfl (by decide) rfl]
  simp only [fields, List.map_cons, visitItems_of, hdefault, hmax, ok_bind]
  rfl

end PageSizes

/-! ## Rules -/

namespace Rule

/-- The lengths are numbers of 32 bits. -/
structure InRange (r : Rule) : Prop where
  maxLength : ∀ n ∈ r.maxLength, n ≤ 4294967295
  minLength : ∀ n ∈ r.minLength, n ≤ 4294967295

theorem decode_yields : Yields decode InRange := by
  refine .record ⟨fun _ hn => (by cases hn), fun _ hn => (by cases hn)⟩ ?_
  simp only [fields, List.forall_mem_cons, List.not_mem_nil, false_imp_iff, implies_true, and_true]
  refine ⟨?required, ?format, ?maxLength, ?minLength, ?pattern, ?allowed, ?minimum, ?maximum⟩
  case maxLength => exact .of (natural_yields _).optional fun _ _ hr hn => { hr with maxLength := hn }
  case minLength => exact .of (natural_yields _).optional fun _ _ hr hn => { hr with minLength := hn }
  all_goals exact .of_assign fun _ _ hr => { hr with }

theorem decode_encode {r : Rule} (h : r.InRange) : decode r.encode = .ok r := by
  have hrequired : optional bool (Json.ofOption .bool r.required) = .ok r.required :=
    optional_ofOption (fun _ => rfl) fun b _ => bool_bool b
  have hmax : optional natural32 (Json.ofOption Json.ofNat r.maxLength) = .ok r.maxLength := optional_ofNat h.maxLength
  have hmin : optional natural32 (Json.ofOption Json.ofNat r.minLength) = .ok r.minLength := optional_ofNat h.minLength
  have hallowed : optional (list any) (Json.ofOption .arr r.allowed) = .ok r.allowed :=
    optional_ofOption (fun _ => rfl) fun vs _ => list_any vs
  have hdouble : ∀ d, optional double (Json.ofOption Json.ofDouble d) = .ok d := fun d =>
    optional_ofOption (fun _ => rfl) fun x _ => double_ofDouble x
  rw [decode, encode, record_inOrder rfl (by decide) rfl]
  simp only [fields, List.map_cons, visitItems_of, optional_str, hrequired, hmax, hmin, hallowed, hdouble, ok_bind]
  rfl

end Rule

/-! ## The whole declaration -/

namespace Declaration

/-- **A declaration that can be read** is one of parts that can. -/
structure InRange (d : Declaration) : Prop where
  columns : ∀ c ∈ d.columns, c.type.InRange
  softDelete : ∀ s ∈ d.softDelete, s.deletedValue.Distinguished
  pagination : d.pagination.InRange
  rules : ∀ r ∈ d.rules, r.2.InRange

theorem inRange_blank : blank.InRange where
  columns := fun _ hc => by cases hc
  softDelete := fun _ hs => by cases hs
  pagination := ⟨fun _ hn => (by cases hn), fun _ hn => (by cases hn)⟩
  rules := fun _ hr => by cases hr

theorem decode_yields : Yields decode InRange := by
  refine .record inRange_blank ?_
  simp only [fields, List.forall_mem_cons, List.not_mem_nil, false_imp_iff, implies_true, and_true]
  refine ⟨?name, ?schema, ?table, ?idField, ?idType, ?columns, ?allowedFilters, ?searchFields, ?softDelete,
    ?timestamps, ?pagination, ?scope, ?rules⟩
  case columns => exact .of ColumnDeclaration.decode_yields.list fun _ _ hd hcs => { hd with columns := hcs }
  case softDelete => exact .of SoftDelete.decode_yields.optional fun _ _ hd hs => { hd with softDelete := hs }
  case pagination => exact .of PageSizes.decode_yields fun _ _ hd hp => { hd with pagination := hp }
  case rules => exact .of Rule.decode_yields.table fun _ _ hd hrs => { hd with rules := hrs }
  all_goals exact .of_assign fun _ _ hd => { hd with }

/-- **What becomes of a declaration that is written and read again**: it is refused for the first column with a default,
and is the same when there is none. -/
theorem decode_encode {d : Declaration} (h : d.InRange) : decode d.encode =
    match d.columns.findSome? (·.default) with
    | none => .ok d
    | some default => .error (ColumnDefault.unknownKeys [default.writtenKey]) := by
  have hfilters : optional (list string) (Json.ofOption (fun fs => .arr (fs.map .str)) d.allowedFilters) =
      .ok d.allowedFilters :=
    optional_ofOption (fun _ => rfl) fun fs _ => list_map fun f _ => string_str f
  have hsearch : list string (.arr (d.searchFields.map .str)) = .ok d.searchFields := list_map fun f _ => string_str f
  have hsoft : optional SoftDelete.decode (Json.ofOption SoftDelete.encode d.softDelete) = .ok d.softDelete :=
    optional_ofOption (fun _ => rfl) fun s hs => SoftDelete.decode_encode (h.softDelete s hs)
  have htimes : optional Timestamps.decode (Json.ofOption Timestamps.encode d.timestamps) = .ok d.timestamps :=
    optional_ofOption (fun _ => rfl) fun t _ => Timestamps.decode_encode t
  have hscope : list ScopeRule.decode (.arr (d.scope.map ScopeRule.encode)) = .ok d.scope :=
    list_map fun r _ => ScopeRule.decode_encode r
  have hrules : Decoder.table Rule.decode (.obj (d.rules.map fun r => (r.1, r.2.encode))) = .ok d.rules :=
    table_map fun r hr => Rule.decode_encode (h.rules r hr)
  rw [decode, encode, record_inOrder rfl (by decide) rfl]
  simp only [fields, List.map_cons, visitItems_of, string_str, optional_str, IdType.choice_name, hfilters, hsearch,
    hsoft, htimes, PageSizes.decode_encode h.pagination, hscope, hrules, ColumnDeclaration.list_decode_encode h.columns,
    ok_bind]
  cases d.columns.findSome? (·.default) <;> rfl

/-- **A declaration that was read survives being written and read again exactly when no column of it has a default**,
and nothing else is ever read for it. -/
theorem survives_iff {v : Json} {d : Declaration} (h : decode v = .ok d) :
    (decode d.encode = .ok d ↔ ∀ c ∈ d.columns, c.default = none) ∧ ∀ d', decode d.encode = .ok d' → d' = d := by
  rw [decode_encode (decode_yields v d h)]
  cases hdefault : d.columns.findSome? (·.default) with
  | none =>
    rw [List.findSome?_eq_none_iff] at hdefault
    exact ⟨⟨fun _ => hdefault, fun _ => rfl⟩, fun d' hd' => (Except.ok.inj hd').symm⟩
  | some default =>
    obtain ⟨c, hc, hsome⟩ := List.exists_of_findSome?_eq_some hdefault
    refine ⟨⟨fun hread => (by cases hread), fun hnone => ?_⟩, fun d' hd' => (by cases hd')⟩
    rw [hnone c hc] at hsome
    cases hsome

end Declaration

namespace Notes

/-- The declaration of notes with a title, as a file gives it. -/
def written (title : Row) : Json :=
  .obj [("name", .str "note"), ("table", .str "notes"),
    ("columns", .arr [.obj [("name", .str "id"), ("type", .str "text")],
      .obj ([("name", .str "title"), ("type", .str "text")] ++ title)])]

end Notes

namespace Declaration

/-- Titles without a default. -/
theorem survives_iff_notes :
    ∃ d, decode (Notes.written [("nullable", .bool false)]) = .ok d ∧ d.columns.length = 2 ∧
      decode d.encode = .ok d := by
  refine ⟨_, rfl, rfl, (survives_iff (v := Notes.written [("nullable", .bool false)]) rfl).1.2 ?_⟩
  intro c hc
  rcases List.mem_cons.1 hc with rfl | hc
  · rfl
  · cases List.mem_singleton.1 hc
    rfl

/-- The text that titles default to is written as an object that no default is read from. -/
theorem default_not_read_back :
    ∃ d, decode (Notes.written [("default", .str "draft")]) = .ok d ∧
      decode d.encode = .error (ColumnDefault.unknownKeys ["Literal"]) := ⟨_, rfl, rfl⟩

end Declaration
end RecordService
