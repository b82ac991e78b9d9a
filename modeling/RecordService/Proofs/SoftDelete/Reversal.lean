import RecordService.Proofs.Json.Same
import RecordService.Proofs.Pipeline.Bulk
import RecordService.Proofs.Record.Lookup
import RecordService.Proofs.Scope.View
import RecordService.Proofs.SoftDelete.Mark
/-!
# Reversal — deletion hides a record and restoration brings it back

Under soft deletion, and without scope rules, all that the operations do to a record shows in the one row with its
identifier (`HasOnly`): deletion and restoration mark it, and a reader finds it as long as it is visible.  So deletion
hides the record and restoration brings it back exactly when what deletion leaves in the field is not equal to the
value for what is not deleted, and what restoration leaves there is (`reverses_iff`).

Not every accepted declaration is such.  Its values are told apart as JSON, while the store takes `"0"` for `0`; and the
field may be the one for the time of the last change, which is then written over the mark.
-/
namespace RecordService

/-! ## The one row with an identifier -/

namespace MemoryStore

/-- **The row is the only one with the identifier.** -/
def HasOnly (t : MemoryStore) (e : Entity) (id : Json) (row : Row) : Prop := t.visible e [e.idEquals id] = [row]

namespace HasOnly

variable {t : MemoryStore} {e : Entity} {id : Json} {row : Row}

theorem mem (h : t.HasOnly e id row) : row ∈ t.visible e [e.idEquals id] := by
  rw [show t.visible e [e.idEquals id] = [row] from h]
  exact List.mem_singleton_self row

theorem isNull_id (h : t.HasOnly e id row) : id.isNull = false := by
  have hrow := (List.mem_filter.1 h.mem).2
  rw [Row.satisfies_singleton, Entity.idEquals, Predicate.eq, Predicate.holds] at hrow
  simp only [Bool.and_eq_true, Bool.not_eq_true'] at hrow
  exact hrow.1.2

/-- What else is asked for decides whether the row is there. -/
theorem visible_append (h : t.HasOnly e id row) (view : List Predicate) :
    t.visible e ([e.idEquals id] ++ view) = if row.satisfies view = true then [row] else [] := by
  have hsplit : t.visible e ([e.idEquals id] ++ view) = (t.visible e [e.idEquals id]).filter (Row.satisfies view) := by
    rw [visible, visible, List.filter_filter]
    exact List.filter_congr fun r _ => by rw [Row.satisfies_append, Bool.and_comm]
  rw [hsplit, show t.visible e [e.idEquals id] = [row] from h, List.filter_singleton]
  cases row.satisfies view <;> rfl

/-- No other row has the identifier of the row. -/
theorem eq_of_cell (h : t.HasOnly e id row) {r : Row} (hr : r ∈ t.rowsOf e)
    (hcell : r.cell e.idField = row.cell e.idField) : r = row := by
  have hrow := (List.mem_filter.1 h.mem).2
  rw [Row.satisfies_singleton] at hrow
  have hholds : r.satisfies [e.idEquals id] = true := by
    rw [Row.satisfies_singleton]
    exact (Predicate.holds_eq_congr id hcell).trans hrow
  have hmem : r ∈ t.visible e [e.idEquals id] := List.mem_filter.2 ⟨hr, hholds⟩
  rw [show t.visible e [e.idEquals id] = [row] from h] at hmem
  exact List.mem_singleton.1 hmem

/-- Marked, it is still the only one. -/
theorem marked {p : Pipeline} (h : t.HasOnly p.entity id row) (draws : List String) (now : String) (s : SoftDelete)
    (mark : Json) :
    (answer draws p.entity (.update (p.marking now s mark) [p.entity.idEquals id]) t).2.HasOnly p.entity id
      (p.markRow now s mark row) := by
  unfold HasOnly
  rw [Pipeline.visible_marked, show t.visible p.entity [p.entity.idEquals id] = [row] from h]
  rfl

end HasOnly

end MemoryStore

/-! ## The operations on it -/

namespace Pipeline

variable {e : Entity} {s : SoftDelete} {o : Occasion} {id id' : Json} {t : MemoryStore} {row : Row}

/-- Whether a marked row is visible depends on what the mark leaves in the field. -/
theorem holds_visible_markRow (hm : e.MarksIn s) (now : String) (mark : Json) (row : Row) :
    s.visible.holds ((Pipeline.of e).markRow now s mark row) =
      Cell.equal ((Pipeline.of e).markLeft now s mark) s.notDeletedValue := by
  rw [s.holds_visible, cell_markRow_field (p := Pipeline.of e) hm]

section
variable (hm : e.MarksIn s) (hscope : e.scope = [])
include hm hscope

theorem reach_includeDeleted (ctx : Context) (ps : List Predicate) : (Pipeline.of e).reach ctx ps true = ps := by
  rw [reach_of_unscoped hscope, hm.softDelete]
  exact List.append_nil ps

theorem lookup_of_hasOnly (hid : e.validators.idFor o.context id = .ok id') (h : t.HasOnly e id' row)
    (includeDeleted : Bool) :
    ((Pipeline.of e).runOn o (lookup e id includeDeleted) t).1 =
      .ok (.found (if includeDeleted || s.visible.holds row then some row else none)) := by
  rw [runOn_lookup hm.idField hscope hid h.isNull_id, hm.softDelete, h.visible_append]
  cases includeDeleted with
  | true => rfl
  | false =>
    rw [show visibility (some s) false = [s.visible] from rfl, Row.satisfies_singleton]
    cases s.visible.holds row <;> rfl

/-- A record that is not visible is on no page. -/
theorem not_listed_of_hasOnly (h : t.HasOnly e id' row) (hhidden : s.visible.holds row = false) {params : ListParams}
    (hparams : params.includeDeleted = false) {page : Page}
    (hpage : ((Pipeline.of e).runOn o (.list params) t).1 = .ok (.page page)) :
    ∀ r ∈ page.results, r.cell e.idField ≠ row.cell e.idField := by
  intro r hr hcell
  cases hplan : (Pipeline.of e).plan o (.list params) with
  | error error =>
    rw [runOn_of_refusal hplan] at hpage
    cases hpage
  | ok i =>
    obtain ⟨q, hq, rfl⟩ := Intended.of_list hplan
    rw [runOn_of_plan hplan, Intent.runOn_page] at hpage
    obtain ⟨rows, hrows, hpage⟩ := ok_of_map hpage
    cases hpage
    obtain ⟨hmem, hsatisfies⟩ := List.mem_filter.1 (MemoryStore.mem_visible_of_mem_select hrows hr)
    have hdeleted : q.includeDeleted = false := (includeDeleted_of_paramsFor rfl hq).trans hparams
    rw [h.eq_of_cell hmem hcell, hdeleted, reach_of_unscoped hscope, hm.softDelete, Row.satisfies_append,
      Bool.and_eq_true] at hsatisfies
    have hvisible := hsatisfies.2
    rw [show visibility (some s) false = [s.visible] from rfl, Row.satisfies_singleton, hhidden] at hvisible
    cases hvisible

/-- Either operation writes its mark into the rows with the identifier. -/
theorem plan_one_of_marks (b : Bulk) (hid : e.validators.idFor o.context id = .ok id') :
    (Pipeline.of e).plan o (b.one id) = .ok (.call (.update ((Pipeline.of e).marking o.now s (b.mark s o.now))
      [e.idEquals id']) (b.outcome id')) := by
  have hsoft : (Pipeline.of e).entity.softDelete = some s := hm.softDelete
  have hoffered : b.Offered (Pipeline.of e) := by
    cases b with
    | deletion => trivial
    | restoration => exact Option.isSome_iff_exists.2 ⟨s, hsoft⟩
  have hplan := Bulk.plan_one rfl hoffered o id
  rw [show (Pipeline.of e).validators.idFor o.context id = .ok id' from hid, Bulk.edit_of_marks b hsoft] at hplan
  rw [hplan, ← reach_includeDeleted hm hscope o.context [e.idEquals id']]
  rfl

theorem plan_deleteOne (hid : e.validators.idFor o.context id = .ok id') :
    (Pipeline.of e).plan o (.deleteOne id) = .ok (.call (.update ((Pipeline.of e).marking o.now s (s.marker o.now))
      [e.idEquals id']) .affected) := plan_one_of_marks hm hscope .deletion hid

theorem plan_restore (hid : e.validators.idFor o.context id = .ok id') :
    (Pipeline.of e).plan o (.restore id) = .ok (.call (.update ((Pipeline.of e).marking o.now s s.notDeletedValue)
      [e.idEquals id']) (.affectedSome id')) := plan_one_of_marks hm hscope .restoration hid

/-- Deletion that counts one record has found the only row with the identifier. -/
theorem hasOnly_of_deleteOne (hcount : ((Pipeline.of e).runOn o (.deleteOne id) t).1 = .ok (.affected 1)) :
    ∃ id' row, e.validators.idFor o.context id = .ok id' ∧ t.HasOnly e id' row := by
  cases hid : e.validators.idFor o.context id with
  | error error =>
    have hrefused : (Pipeline.of e).plan o (.deleteOne id) = .error error := by
      have hplan := Bulk.plan_one (p := Pipeline.of e) (b := .deletion) rfl trivial o id
      rw [show (Pipeline.of e).validators.idFor o.context id = .error error from hid] at hplan
      exact hplan
    rw [runOn_of_refusal hrefused] at hcount
    cases hcount
  | ok id' =>
    rw [runOn_of_plan (plan_deleteOne hm hscope hid), Intent.runOn_call, MemoryStore.answer_update] at hcount
    have hlength : (t.visible e [e.idEquals id']).length = 1 := by
      have hanswer : Except.ok (Answer.affected _) = Except.ok (Answer.affected 1) := hcount
      rw [Except.ok.injEq, Answer.affected.injEq, List.length_map] at hanswer
      exact hanswer
    obtain ⟨row, hrow⟩ := List.length_eq_one_iff.1 hlength
    exact ⟨id', row, rfl, hrow⟩

/-- After deletion the row is marked as deleted, and still the only one. -/
theorem hasOnly_deleteOne (hid : e.validators.idFor o.context id = .ok id') (h : t.HasOnly e id' row) :
    ((Pipeline.of e).runOn o (.deleteOne id) t).2.HasOnly e id'
      ((Pipeline.of e).markRow o.now s (s.marker o.now) row) := by
  rw [runOn_of_plan (plan_deleteOne hm hscope hid), Intent.runOn_call]
  exact h.marked (p := Pipeline.of e) o.draws o.now s (s.marker o.now)

theorem restore_of_hasOnly (hid : e.validators.idFor o.context id = .ok id') (h : t.HasOnly e id' row) :
    ((Pipeline.of e).runOn o (.restore id) t).1 = .ok (.affected 1) ∧
      ((Pipeline.of e).runOn o (.restore id) t).2.HasOnly e id'
        ((Pipeline.of e).markRow o.now s s.notDeletedValue row) := by
  rw [runOn_of_plan (plan_restore hm hscope hid), Intent.runOn_call]
  refine ⟨?_, h.marked (p := Pipeline.of e) o.draws o.now s s.notDeletedValue⟩
  rw [MemoryStore.answer_update]
  show (Pipeline.of e).affectedOrNotFound id' (((t.visible e [e.idEquals id']).map _).length) = _
  rw [show t.visible e [e.idEquals id'] = [row] from h]
  rfl

/-! ## There and back -/

/-- **Deletion hides the record and restoration brings it back**: the row, as it was found before. -/
structure Reverses (e : Entity) (s : SoftDelete) (o later : Occasion) (id : Json) (t : MemoryStore) (row : Row) : Prop where
  /-- After the deletion the record is not found. -/
  hidden : ∀ reader : Occasion, reader.context.skipValidation = o.context.skipValidation →
    ((Pipeline.of e).runOn reader (lookup e id false) ((Pipeline.of e).runOn o (.deleteOne id) t).2).1 = .ok (.found none)
  /-- It is on no page, whatever is asked for besides the deleted records. -/
  unlisted : ∀ (reader : Occasion) (params : ListParams) (page : Page), params.includeDeleted = false →
    ((Pipeline.of e).runOn reader (.list params) ((Pipeline.of e).runOn o (.deleteOne id) t).2).1 = .ok (.page page) →
      ∀ r ∈ page.results, r.cell e.idField ≠ row.cell e.idField
  /-- With the deleted records it is found. -/
  included : ∀ reader : Occasion, reader.context.skipValidation = o.context.skipValidation →
    ∃ marked, ((Pipeline.of e).runOn reader (lookup e id true) ((Pipeline.of e).runOn o (.deleteOne id) t).2).1 =
        .ok (.found (some marked)) ∧ e.SameButMarked s marked row
  /-- Restoration counts it. -/
  restored : ((Pipeline.of e).runOn later (.restore id) ((Pipeline.of e).runOn o (.deleteOne id) t).2).1 = .ok (.affected 1)
  /-- After that it is found again. -/
  returned : ∀ reader : Occasion, reader.context.skipValidation = o.context.skipValidation →
    ∃ back, ((Pipeline.of e).runOn reader (lookup e id false) ((Pipeline.of e).runOn later (.restore id)
        ((Pipeline.of e).runOn o (.deleteOne id) t).2).2).1 = .ok (.found (some back)) ∧ e.SameButMarked s back row

theorem lookup_markRow (hid : e.validators.idFor o.context id = .ok id') {now : String} {mark : Json}
    (h : t.HasOnly e id' ((Pipeline.of e).markRow now s mark row)) :
    ((Pipeline.of e).runOn o (lookup e id false) t).1 =
      .ok (.found (if Cell.equal ((Pipeline.of e).markLeft now s mark) s.notDeletedValue then
        some ((Pipeline.of e).markRow now s mark row) else none)) := by
  rw [lookup_of_hasOnly hm hscope hid h, holds_visible_markRow hm, Bool.false_or]

theorem reverses_iff_of_hasOnly {later : Occasion} (hskip : later.context.skipValidation = o.context.skipValidation)
    (hid : e.validators.idFor o.context id = .ok id') (h : t.HasOnly e id' row) : Reverses e s o later id t row ↔
      Cell.equal ((Pipeline.of e).markLeft o.now s (s.marker o.now)) s.notDeletedValue = false ∧
        Cell.equal ((Pipeline.of e).markLeft later.now s s.notDeletedValue) s.notDeletedValue = true := by
  have hidFor : ∀ {reader : Occasion}, reader.context.skipValidation = o.context.skipValidation →
      e.validators.idFor reader.context id = .ok id' := fun hreader => (e.validators.idFor_congr hreader id).trans hid
  have hdeleted := hasOnly_deleteOne hm hscope hid h
  obtain ⟨hanswer, hrestored⟩ := restore_of_hasOnly hm hscope (hidFor hskip) hdeleted
  have hsame := (Pipeline.of e).sameButMarked_markRow o.now s (s.marker o.now) row
  have hsame' := (Pipeline.of e).sameButMarked_markRow later.now s s.notDeletedValue
    ((Pipeline.of e).markRow o.now s (s.marker o.now) row)
  constructor
  · intro hreverses
    have hnone := hreverses.hidden o rfl
    obtain ⟨back, hsome, -⟩ := hreverses.returned o rfl
    rw [lookup_markRow hm hscope hid hdeleted] at hnone
    rw [lookup_markRow hm hscope hid hrestored] at hsome
    exact ⟨by simpa using hnone, by grind⟩
  · rintro ⟨hdifferent, hequal⟩
    refine ⟨fun reader hreader => ?_, fun reader params page hparams hpage r hr => ?_, fun reader hreader => ?_, hanswer,
      fun reader hreader => ?_⟩
    · rw [lookup_markRow hm hscope (hidFor hreader) hdeleted, hdifferent]
      rfl
    · have hhidden := (holds_visible_markRow hm o.now (s.marker o.now) row).trans hdifferent
      have hcell : ((Pipeline.of e).markRow o.now s (s.marker o.now) row).cell e.idField = row.cell e.idField :=
        cell_markRow_id o.now (s.marker o.now) row
      rw [← hcell]
      exact not_listed_of_hasOnly hm hscope hdeleted hhidden hparams hpage r hr
    · exact ⟨_, lookup_of_hasOnly hm hscope (hidFor hreader) hdeleted true, hsame⟩
    · refine ⟨_, ?_, hsame'.trans hsame⟩
      rw [lookup_markRow hm hscope (hidFor hreader) hrestored, hequal]
      rfl

/-- With a field of its own for the mark, only the mark has to be told apart from the value for what is not deleted. -/
theorem reverses_iff_of_ne_updatedAt {later : Occasion}
    (hskip : later.context.skipValidation = o.context.skipValidation) (hid : e.validators.idFor o.context id = .ok id')
    (h : t.HasOnly e id' row) (hupdated : e.updatedAt ≠ some s.field) (hvalue : s.notDeletedValue.distinctNames = true) :
    Reverses e s o later id t row ↔ Cell.equal (s.marker o.now) s.notDeletedValue = false := by
  have hleft : ∀ now mark, (Pipeline.of e).markLeft now s mark = mark := fun now mark => if_neg hupdated
  rw [reverses_iff_of_hasOnly hm hscope hskip hid h, hleft, hleft, and_iff_left (Cell.equal_self hvalue)]

end

/-- The standard marks, a time for what is deleted and null for what is not, need a field of their own and no more. -/
theorem reverses_timestamp_iff {later : Occasion} {field : String} (hm : e.MarksIn (.timestamp field))
    (hscope : e.scope = []) (hskip : later.context.skipValidation = o.context.skipValidation)
    (hid : e.validators.idFor o.context id = .ok id') (h : t.HasOnly e id' row) :
    Reverses e (.timestamp field) o later id t row ↔ e.updatedAt ≠ some field := by
  by_cases hupdated : e.updatedAt = some field
  · have hleft : ∀ now mark, (Pipeline.of e).markLeft now (.timestamp field) mark = .str now := fun now mark =>
      if_pos hupdated
    have hnull : Cell.equal (.str later.now) .null = false := rfl
    rw [reverses_iff_of_hasOnly hm hscope hskip hid h, hleft, hleft]
    simp [SoftDelete.timestamp, hnull, hupdated]
  · rw [reverses_iff_of_ne_updatedAt hm hscope hskip hid h hupdated rfl]
    exact iff_of_true rfl hupdated

/-- **Of a record that deletion counts, deletion hides and restoration brings back the row exactly when what deletion
leaves in the field is not equal to the value for what is not deleted, and what restoration leaves there is.** -/
theorem reverses_iff {settings : Settings} {ds : List Declaration} {es : List Entity} {later : Occasion}
    (hresolve : Declaration.resolve settings ds = .ok es) (he : e ∈ es) (hs : e.softDelete = some s)
    (hscope : e.scope = []) (hskip : later.context.skipValidation = o.context.skipValidation)
    (hcount : ((Pipeline.of e).runOn o (.deleteOne id) t).1 = .ok (.affected 1)) :
    ∃ row, ((Pipeline.of e).runOn o (lookup e id true) t).1 = .ok (.found (some row)) ∧
      (Reverses e s o later id t row ↔
        Cell.equal ((Pipeline.of e).markLeft o.now s (s.marker o.now)) s.notDeletedValue = false ∧
          Cell.equal ((Pipeline.of e).markLeft later.now s s.notDeletedValue) s.notDeletedValue = true) := by
  have hm := Entity.marksIn_of_resolve hresolve he hs
  obtain ⟨id', row, hid, h⟩ := hasOnly_of_deleteOne hm hscope hcount
  exact ⟨row, lookup_of_hasOnly hm hscope hid h true, reverses_iff_of_hasOnly hm hscope hskip hid h⟩

theorem reverses_iff_notes :
    Declaration.resolve .standard [Notes.declaration []] = .ok [Notes.entity []] ∧
      Reverses (Notes.entity []) (.timestamp "deleted_at") (Notes.occasion "a") (Notes.occasion "b") (.str "1")
        (Notes.store [Notes.row "1" .null .null, Notes.row "2" .null .null]) (Notes.row "1" .null .null) := by
  have hresolve : Declaration.resolve .standard [Notes.declaration []] = .ok [Notes.entity []] := rfl
  have hskip : (Notes.occasion "b").context.skipValidation = (Notes.occasion "a").context.skipValidation := rfl
  have hcount : ((Pipeline.of (Notes.entity [])).runOn (Notes.occasion "a") (.deleteOne (.str "1"))
      (Notes.store [Notes.row "1" .null .null, Notes.row "2" .null .null])).1 = .ok (.affected 1) := rfl
  obtain ⟨row, hfound, hreverses⟩ := reverses_iff hresolve List.mem_cons_self rfl rfl hskip hcount
  cases hfound
  exact ⟨hresolve, hreverses.2 ⟨rfl, rfl⟩⟩

end Pipeline

namespace Notes

/-- A text is for what is deleted, and a number for what is not. -/
def numbers : SoftDelete := ⟨"deleted_at", .literal (.str "0"), .num (.int 0)⟩

def numbered : Declaration := { declaration [] with softDelete := some numbers }

def numberedEntity : Entity := { entity [] with softDelete := some numbers }

end Notes

namespace Pipeline

/-- The text is accepted as another value than the number, but the store takes one for the other: the deleted note is
still found. -/
theorem deleted_note_found :
    Declaration.resolve .standard [Notes.numbered] = .ok [Notes.numberedEntity] ∧
      ((Pipeline.of Notes.numberedEntity).runOn (Notes.occasion "a") (.deleteOne (.str "1"))
        (Notes.store [Notes.row "1" .null (.num (.int 0))])).1 = .ok (.affected 1) ∧
      ((Pipeline.of Notes.numberedEntity).runOn (Notes.occasion "a") (lookup Notes.numberedEntity (.str "1") false)
        ((Pipeline.of Notes.numberedEntity).runOn (Notes.occasion "a") (.deleteOne (.str "1"))
          (Notes.store [Notes.row "1" .null (.num (.int 0))])).2).1 =
        .ok (.found (some (Notes.row "1" .null (.str "0")))) := by
  have hresolve : Declaration.resolve .standard [Notes.numbered] = .ok [Notes.numberedEntity] := rfl
  have hm : Notes.numberedEntity.MarksIn Notes.numbers := Entity.marksIn_of_resolve hresolve List.mem_cons_self rfl
  have honly : (Notes.store [Notes.row "1" .null (.num (.int 0))]).HasOnly Notes.numberedEntity (.str "1")
      (Notes.row "1" .null (.num (.int 0))) := rfl
  have hequal : Cell.equal (.str "0") (.num (.int 0)) = true := by decide +kernel
  have hleft : Cell.equal ((Pipeline.of Notes.numberedEntity).markLeft (Notes.occasion "a").now Notes.numbers
      (Notes.numbers.marker (Notes.occasion "a").now)) Notes.numbers.notDeletedValue = true := hequal
  refine ⟨hresolve, rfl, ?_⟩
  rw [lookup_markRow hm rfl rfl (hasOnly_deleteOne hm rfl rfl honly), hleft]
  rfl

end Pipeline
end RecordService
