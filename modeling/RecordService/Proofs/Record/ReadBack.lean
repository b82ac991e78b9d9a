import RecordService.Proofs.Record.Creation
import RecordService.Proofs.SoftDelete.Reversal
/-!
# Reading back — when a new record is found by its identifier

The row that creation answers with is the only one with its identifier.  It is found with it when the identifier can be
read again, and when the field for the marks of deletion, which the record says nothing of, comes out as that of a record
that is not deleted (`reads_back_iff`).  Neither is always so: the identifier may be counted beyond its type, or be the
time of creation, and the field may be left without a value.
-/
namespace RecordService

/-! ## What a new row holds -/

namespace Table

/-- A row with an identifier of its own is the only one with it. -/
theorem not_satisfies_of_hasId {e : Entity} {id : Json} {rows : List Row} (h : hasId e id rows = false) :
    ∀ row ∈ rows, row.satisfies [e.idEquals id] = false := by
  intro row hrow
  have hnot := List.any_eq_false.1 h row hrow
  rw [Row.satisfies_singleton]
  unfold Entity.idEquals Predicate.eq
  cases hget : row.get? e.idField with
  | none => simp [Predicate.holds, Row.cell, hget, Json.isNull]
  | some v =>
    rw [hget] at hnot
    simp [Predicate.holds, Comparison.holds, Row.cell, hget, hnot]

end Table

namespace Entity

variable {e : Entity}

/-- What the field for the marks holds in a new row that says nothing of it: the time, when it is written there, or else
what the column has for it. -/
def initialMark (e : Entity) (now : String) (s : SoftDelete) : Json :=
  if e.stamps s.field then .str now else (e.column? s.field).elim .null Table.defaultValue

/-- **The identifier of a new row can be read again**: it was given; or it is a text, or a number that was counted within
the bounds of its type, and not a time instead of either. -/
def ReadableId (e : Entity) (body : Row) (lastId : Int) : Prop :=
  (body.get? e.idField).isSome = true ∨
    if e.stamps e.idField then e.idType = .text else e.idType = .int → inSigned32 (wrapSigned64 (lastId + 1)) = true

section
variable {body : Row} {now draw : String} (hcolumn : e.hasColumn e.idField = true)
  (hissues : e.recordIssues .record body = [])
include hcolumn hissues

/-- An identifier that cannot be read again is there all the same. -/
theorem parse_newRow_id (hnow : Text.HasZone now) (hdraw : Uuid.parse draw = some draw) (lastId : Int) :
    (e.idType.parse ((e.newRow now draw body lastId).cell e.idField) =
        .ok ((e.newRow now draw body lastId).cell e.idField) ∧ e.ReadableId body lastId) ∨
      (((e.newRow now draw body lastId).cell e.idField).isNull = false ∧
        (∃ message, e.idType.parse ((e.newRow now draw body lastId).cell e.idField) = .error message) ∧
        ¬e.ReadableId body lastId) := by
  rw [newRow, Table.cell_prepare_id hcolumn]
  unfold ReadableId
  cases hbody : body.get? e.idField with
  | some v =>
    obtain ⟨id, hparse, hget⟩ := get?_stampCreated_of_id hcolumn hissues now hbody
    rw [hget]
    exact .inl ⟨IdType.parse_parse hparse, .inl rfl⟩
  | none =>
    rw [get?_stampCreated_of_no_id hissues now hbody]
    cases e.stamps e.idField with
    | true =>
      rcases IdType.parse_time hnow e.idType with ⟨hparse, htext⟩ | ⟨herror, hother⟩
      · exact .inl ⟨hparse, .inr htext⟩
      · exact .inr ⟨rfl, herror, by simpa using hother⟩
    | false =>
      have hcounted := Table.inSigned64_wrapSigned64 (lastId + 1)
      have hdrawn : draw ≠ "" := by
        rintro rfl
        cases hdraw
      unfold Table.freshId
      cases e.idType with
      | uuid => exact .inl ⟨IdType.parseUuid_str hdraw, .inr (by simp)⟩
      | text => exact .inl ⟨IdType.parseText_str hdrawn, .inr (by simp)⟩
      | bigint => exact .inl ⟨IdType.parseBigint_int hcounted, .inr (by simp)⟩
      | int =>
        cases hrange : inSigned32 (wrapSigned64 (lastId + 1)) with
        | true => exact .inl ⟨(IdType.parseInt_int hcounted).trans (if_pos hrange), .inr (by simp)⟩
        | false =>
          refine .inr ⟨rfl, ⟨_, (IdType.parseInt_int hcounted).trans (if_neg (by simp [hrange]))⟩, by simp⟩

theorem cell_newRow_mark {s : SoftDelete} (hm : e.MarksIn s) (hsilent : body.get? s.field = none) (lastId : Int) :
    (e.newRow now draw body lastId).cell s.field = e.initialMark now s := by
  have hkept : (e.keptMembers .record body).get? s.field = none := by
    rw [get?_keptMembers _ (memberIssues_of_recordIssues hissues), hsilent]
    rfl
  obtain ⟨c, hc⟩ := Option.isSome_iff_exists.1 hm.field
  rw [Row.cell, newRow, Table.get?_prepare hcolumn, get?_stampCreated, hkept, hc]
  unfold initialMark
  cases e.stamps s.field with
  | true => rfl
  | false => simp [hc, hm.other]

/-- What the record says of a column is stored there. -/
theorem get?_newRow_of_kept {name : String} {v : Json} (hv : body.get? name = some v) (hname : e.hasColumn name = true)
    (hother : name ≠ e.idField) (hstamps : e.stamps name = false) (lastId : Int) :
    (e.newRow now draw body lastId).get? name = some v := by
  have hmembers := memberIssues_of_recordIssues hissues
  obtain ⟨c, hc⟩ := Option.isSome_iff_exists.1 hname
  have hjudge : e.judge .record name v = .keep v := by
    have hrefusal := refusal_of_memberIssues hmembers hv
    unfold judge at hrefusal ⊢
    rw [hc] at hrefusal ⊢
    dsimp only at hrefusal ⊢
    rw [if_neg hother] at hrefusal ⊢
    split at hrefusal
    · cases hrefusal
    · rename_i hnull
      rw [if_neg hnull]
  rw [newRow, Table.get?_prepare hcolumn, get?_stampCreated, hstamps, get?_keptMembers _ hmembers, hv, hc,
    Option.bind_some, hjudge]
  rfl

end

end Entity

/-! ## Finding it -/

namespace Pipeline

variable {e : Entity} {o reader : Occasion}

/-- No record is found by a value that cannot be read as an identifier. -/
theorem lookup_refused (hcolumn : e.hasColumn e.idField = true) {id : Json} {message : String}
    (hskip : reader.context.skipValidation = false) (hnull : id.isNull = false)
    (hid : e.idType.parse id = .error message) (includeDeleted : Bool) (t : MemoryStore) :
    ∃ error, ((Pipeline.of e).runOn reader (lookup e id includeDeleted) t).1 = .error error := by
  have hjudge : e.judgeCondition e.idField id = .refuse message := by
    simp [Entity.judgeCondition, hcolumn, hnull, hid, Verdict.ofExcept]
  have hvalidated : Hooks.none.validated .findOne (.obj [(e.idField, id)]) reader.context
      (Pipeline.of e).validators.conditions = .error (.validation [⟨e.idField, message⟩]) := by
    rw [Hooks.validated_none, hskip]
    exact Entity.conditionValidator_of_refuse hjudge
  have hplan : (Pipeline.of e).plan reader (lookup e id includeDeleted) = .error (.validation [⟨e.idField, message⟩]) := by
    show Intended.findOne (Pipeline.of e) .none reader.context (.obj [(e.idField, id)]) includeDeleted = _
    rw [Intended.findOne, hvalidated]
    rfl
  exact ⟨_, by rw [runOn_of_refusal hplan]⟩

/-- What was added last to a table without its identifier is found if it is visible, and nothing else is. -/
theorem lookup_of_added (hcolumn : e.hasColumn e.idField = true) (hscope : e.scope = []) {row : Row} {rows : List Row}
    {t : MemoryStore} (hskip : reader.context.skipValidation = false)
    (hid : e.idType.parse (row.cell e.idField) = .ok (row.cell e.idField))
    (hfresh : Table.hasId e (row.cell e.idField) rows = false) (hrows : t.rowsOf e = rows ++ [row]) :
    ((Pipeline.of e).runOn reader (lookup e (row.cell e.idField) false) t).1 =
      .ok (.found (if row.satisfies (visibility e.softDelete false) then some row else none)) := by
  obtain ⟨hnull, hself⟩ : (row.cell e.idField).isNull = false ∧
      Cell.equal (row.cell e.idField) (row.cell e.idField) = true := by
    rcases IdType.scalar_of_parse hid with ⟨s, hs⟩ | ⟨n, hn⟩
    · rw [hs]
      exact ⟨rfl, Cell.equal_self rfl⟩
    · rw [hn]
      exact ⟨rfl, Cell.equal_self rfl⟩
  rw [runOn_lookup hcolumn hscope (Entity.idFor_of_parse hskip hid) hnull]
  have hothers : rows.filter (Row.satisfies ([e.idEquals (row.cell e.idField)] ++ visibility e.softDelete false)) = [] :=
    List.filter_eq_nil_iff.2 fun other hother => by
      rw [Row.satisfies_append, Table.not_satisfies_of_hasId hfresh other hother]
      simp
  have hrow : row.satisfies ([e.idEquals (row.cell e.idField)] ++ visibility e.softDelete false) =
      row.satisfies (visibility e.softDelete false) := by
    rw [Row.satisfies_append, e.satisfies_idEquals hnull, hself, Bool.true_and]
  show Except.ok (Answer.found ((t.rowsOf e).filter _).head?) = _
  rw [hrows, List.filter_append, hothers, List.nil_append, List.filter_singleton, hrow]
  cases row.satisfies (visibility e.softDelete false) <;> rfl

/-! ## There and back -/

/-- **Of a record that was created and says nothing of the field for the marks, the row that creation answered with is
found by its identifier exactly when the identifier can be read again and the field came out as that of a record that is
not deleted.**  Whatever else the record says of a column is in the row. -/
theorem reads_back_iff {settings : Settings} {ds : List Declaration} {es : List Entity} {s : MemoryStore} {body row : Row}
    (hresolve : Declaration.resolve settings ds = .ok es) (he : e ∈ es) (hscope : e.scope = [])
    (hskip : o.context.skipValidation = false) (hreader : reader.context.skipValidation = false)
    (hnow : Text.HasZone o.now) (hdraw : Uuid.parse (o.draws.headD "") = some (o.draws.headD ""))
    (hsilent : ∀ mark, e.softDelete = some mark → body.get? mark.field = none)
    (hcreated : ((Pipeline.of e).runOn o (.create (.obj body)) s).1 = .ok (.row row)) :
    (((Pipeline.of e).runOn reader (lookup e (row.cell e.idField) false)
          ((Pipeline.of e).runOn o (.create (.obj body)) s).2).1 = .ok (.found (some row)) ↔
        e.ReadableId body (s.table e).lastId ∧
          ∀ mark, e.softDelete = some mark → Cell.equal (e.initialMark o.now mark) mark.notDeletedValue = true) ∧
      ∀ name v, body.get? name = some v → e.hasColumn name = true → name ≠ e.idField → e.stamps name = false →
        row.get? name = some v := by
  have hcolumn := Entity.hasIdField_of_resolve hresolve he
  have hplain : ((plain e (.ofRules e.scope)).runOn o (.create (.obj body)) s).1 = .ok (.row row) := hcreated
  obtain ⟨hissues, rfl, hfresh, hrows⟩ := of_created hskip hplain
  refine ⟨?_, fun name v hv hname hother hstamps =>
    Entity.get?_newRow_of_kept hcolumn hissues hv hname hother hstamps (s.table e).lastId⟩
  have hadded : ((Pipeline.of e).runOn o (.create (.obj body)) s).2.rowsOf e = _ := hrows
  rcases Entity.parse_newRow_id hcolumn hissues hnow hdraw (s.table e).lastId with
    ⟨hparse, hreadable⟩ | ⟨hnull, ⟨message, herror⟩, hunreadable⟩
  · have hvisible : (e.newRow o.now (o.draws.headD "") body (s.table e).lastId).satisfies
          (visibility e.softDelete false) = true ↔
        ∀ mark, e.softDelete = some mark → Cell.equal (e.initialMark o.now mark) mark.notDeletedValue = true := by
      cases hsoft : e.softDelete with
      | none => simp [visibility]
      | some mark =>
        rw [show visibility (some mark) false = [mark.visible] from rfl, Row.satisfies_singleton, mark.holds_visible,
          Entity.cell_newRow_mark hcolumn hissues (Entity.marksIn_of_resolve hresolve he hsoft) (hsilent mark hsoft)]
        simp
    rw [lookup_of_added hcolumn hscope hreader hparse hfresh hadded, and_iff_right hreadable, ← hvisible]
    simp
  · obtain ⟨error, hrefused⟩ := lookup_refused hcolumn hreader hnull herror false
      ((Pipeline.of e).runOn o (.create (.obj body)) s).2
    rw [hrefused]
    exact iff_of_false (fun h => by cases h) fun h => hunreadable h.1

end Pipeline

namespace Notes

/-- With the text of a UUID for the first row. -/
def drawing : Occasion := { occasion "a" with draws := ["67e55044-10b1-426f-9247-bb680e5fe0c8"] }

def draft : Row := [("title", .str "draft"), ("colour", .str "red")]

end Notes

theorem Pipeline.reads_back_iff_notes :
    Declaration.resolve .standard [Notes.declaration []] = .ok [Notes.entity []] ∧
      Uuid.parse (Notes.drawing.draws.headD "") = some (Notes.drawing.draws.headD "") ∧
      ((Pipeline.of (Notes.entity [])).runOn Notes.drawing (.create (.obj Notes.draft)) .empty).1 =
        .ok (.row (Notes.row "67e55044-10b1-426f-9247-bb680e5fe0c8" .null .null)) ∧
      ((Pipeline.of (Notes.entity [])).runOn (Notes.occasion "b")
        (lookup (Notes.entity []) (.str "67e55044-10b1-426f-9247-bb680e5fe0c8") false)
        ((Pipeline.of (Notes.entity [])).runOn Notes.drawing (.create (.obj Notes.draft)) .empty).2).1 =
        .ok (.found (some (Notes.row "67e55044-10b1-426f-9247-bb680e5fe0c8" .null .null))) := by
  have hresolve : Declaration.resolve .standard [Notes.declaration []] = .ok [Notes.entity []] := rfl
  have hdraw : Uuid.parse (Notes.drawing.draws.headD "") = some (Notes.drawing.draws.headD "") := by decide +kernel
  have hcreated : ((Pipeline.of (Notes.entity [])).runOn Notes.drawing (.create (.obj Notes.draft)) .empty).1 =
      .ok (.row (Notes.row "67e55044-10b1-426f-9247-bb680e5fe0c8" .null .null)) := rfl
  have hnow : Text.HasZone Notes.drawing.now := show 'Z' ∈ _ by decide
  have hsilent : ∀ mark, (Notes.entity []).softDelete = some mark → Row.get? Notes.draft mark.field = none := by
    intro mark hmark
    cases hmark
    rfl
  have hreader : (Notes.occasion "b").context.skipValidation = false := rfl
  obtain ⟨hiff, -⟩ := reads_back_iff hresolve List.mem_cons_self rfl rfl hreader hnow hdraw hsilent hcreated
  refine ⟨hresolve, hdraw, hcreated, hiff.2 ⟨.inr (by decide), fun mark hmark => ?_⟩⟩
  cases hmark
  rfl

namespace Notes

/-- A flag is for what is deleted, and no flag for what is not. -/
def flagged : Declaration :=
  { declaration [] with softDelete := some ⟨"deleted_at", .literal (.bool true), .bool false⟩ }

def flaggedEntity : Entity := { entity [] with softDelete := some ⟨"deleted_at", .literal (.bool true), .bool false⟩ }

end Notes

/-- The field for the flag has no value in a new note, and that is not the value for what is not deleted: the note that
was created is not found. -/
theorem Pipeline.created_note_not_found :
    Declaration.resolve .standard [Notes.flagged] = .ok [Notes.flaggedEntity] ∧
      ((Pipeline.of Notes.flaggedEntity).runOn (Notes.occasion "a")
          (.create (.obj [("id", .str "1"), ("title", .str "draft")])) .empty).1 =
        .ok (.row (Notes.row "1" .null .null)) ∧
      ((Pipeline.of Notes.flaggedEntity).runOn (Notes.occasion "a") (lookup Notes.flaggedEntity (.str "1") false)
        ((Pipeline.of Notes.flaggedEntity).runOn (Notes.occasion "a")
          (.create (.obj [("id", .str "1"), ("title", .str "draft")])) .empty).2).1 = .ok (.found none) :=
  ⟨rfl, rfl, rfl⟩

end RecordService
