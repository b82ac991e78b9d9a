import RecordService.Proofs.Config.Check
import RecordService.Proofs.Pipeline.Intent
import RecordService.Proofs.Store.Calls
import RecordService.Proofs.Store.Representation
/-!
# Marks — what marking a row writes into it

To mark a row as deleted, or as not deleted, is to write a value into the field for the marks and the time of the change
into its own column.  Nothing else of the row changes (`sameButMarked_markRow`), its identifier least of all, so that the
rows with an identifier are the same rows before and after (`visible_marked`).
-/
namespace RecordService

/-! ## Rows that are not marked -/

/-- **A row is visible when its field equals the value for what is not deleted**, as the store compares cells. -/
theorem SoftDelete.holds_visible (s : SoftDelete) (row : Row) :
    s.visible.holds row = Cell.equal (row.cell s.field) s.notDeletedValue := by
  unfold visible Predicate.eq
  cases hvalue : s.notDeletedValue <;> cases hcell : row.cell s.field <;>
    simp [Json.isNull, Predicate.holds, Comparison.holds, hcell, Cell.equal, Cell.isNumber, Cell.real?, Json.same]

namespace Table

variable {e : Entity}

/-- Where the changes leave every row of the filter in it, they are made of the same rows. -/
theorem filter_updateRows_self {changes : Row} {filter : List Predicate}
    (h : ∀ row : Row, row.satisfies filter = true → (assign e changes row).satisfies filter = true) :
    ∀ rows : List Row, (updateRows e changes filter rows).filter (Row.satisfies filter) =
      (rows.filter (Row.satisfies filter)).map (assign e changes)
  | [] => rfl
  | row :: rows => by
    have ih := filter_updateRows_self h rows
    unfold updateRows at ih ⊢
    rw [List.map_cons]
    by_cases hrow : row.satisfies filter = true
    · rw [if_pos hrow, List.filter_cons_of_pos (h row hrow), List.filter_cons_of_pos hrow, List.map_cons, ih]
    · rw [if_neg hrow, List.filter_cons_of_neg hrow, List.filter_cons_of_neg hrow, ih]

end Table

/-! ## Marking -/

/-- The rows agree in every column but those for the mark and for the time of the last change. -/
def Entity.SameButMarked (e : Entity) (s : SoftDelete) (row' row : Row) : Prop :=
  ∀ column, column ≠ s.field → e.updatedAt ≠ some column → row'.get? column = row.get? column

theorem Entity.SameButMarked.trans {e : Entity} {s : SoftDelete} {row'' row' row : Row} (h : e.SameButMarked s row'' row')
    (h' : e.SameButMarked s row' row) : e.SameButMarked s row'' row :=
  fun column hfield hupdated => (h column hfield hupdated).trans (h' column hfield hupdated)

namespace Pipeline

variable {p : Pipeline} {s : SoftDelete}

def markRow (p : Pipeline) (now : String) (s : SoftDelete) (mark : Json) (row : Row) : Row :=
  Table.assign p.entity (p.marking now s mark) row

/-- What the field holds after marking: the mark, unless the field is where the time of the change goes. -/
def markLeft (p : Pipeline) (now : String) (s : SoftDelete) (mark : Json) : Json :=
  if p.entity.updatedAt = some s.field then .str now else mark

theorem marking_of_ne {column : String} (hupdated : p.entity.updatedAt = some column) (hcolumn : s.field ≠ column)
    (now : String) (mark : Json) : p.marking now s mark = [(s.field, mark), (column, .str now)] := by
  simp [marking, Entity.stampUpdated, hupdated, Row.set, hcolumn]

theorem marking_of_eq (hupdated : p.entity.updatedAt = some s.field) (now : String) (mark : Json) :
    p.marking now s mark = [(s.field, .str now)] := by
  simp [marking, Entity.stampUpdated, hupdated, Row.set]

theorem marking_of_none (hupdated : p.entity.updatedAt = none) (now : String) (mark : Json) :
    p.marking now s mark = [(s.field, mark)] := by
  simp [marking, Entity.stampUpdated, hupdated]

theorem sameButMarked_markRow (p : Pipeline) (now : String) (s : SoftDelete) (mark : Json) (row : Row) :
    p.entity.SameButMarked s (p.markRow now s mark row) row := by
  intro column hfield hupdated
  refine Table.get?_assign_of_spared _ _ (.inr ?_)
  cases htime : p.entity.updatedAt with
  | none => simp [marking_of_none htime, hfield.symm]
  | some other =>
    have hother : other ≠ column := fun h => hupdated (by rw [htime, h])
    by_cases hsame : s.field = other
    · subst hsame
      simp [marking_of_eq htime, hother]
    · simp [marking_of_ne htime hsame, hfield.symm, hother]

theorem cell_markRow_id (now : String) (mark : Json) (row : Row) :
    (p.markRow now s mark row).cell p.entity.idField = row.cell p.entity.idField :=
  Table.cell_assign_id p.entity (p.marking now s mark) row

theorem cell_markRow_field (h : p.entity.MarksIn s) (now : String) (mark : Json) (row : Row) :
    (p.markRow now s mark row).cell s.field = p.markLeft now s mark := by
  have hwritten : (s.field ≠ p.entity.idField && p.entity.hasColumn s.field) = true := by simp [h.other, h.field]
  have hset : ∀ value : Json, (row.set s.field value).cell s.field = value := fun value => by simp [Row.cell_set]
  unfold markRow markLeft
  cases htime : p.entity.updatedAt with
  | none =>
    rw [marking_of_none htime, Table.assign, if_pos hwritten, if_neg (by simp)]
    exact hset mark
  | some column =>
    by_cases hcolumn : s.field = column
    · subst hcolumn
      rw [marking_of_eq htime, Table.assign, if_pos hwritten, if_pos rfl]
      exact hset _
    · -- the time goes into another column afterwards
      rw [marking_of_ne htime hcolumn, Table.assign, if_pos hwritten, if_neg (by simp [Ne.symm hcolumn]), Row.cell,
        Table.get?_assign_of_spared _ _ (.inr (by simp [Ne.symm hcolumn]))]
      exact hset mark

theorem satisfies_idEquals_markRow (now : String) (mark : Json) (row : Row) (id : Json) :
    (p.markRow now s mark row).satisfies [p.entity.idEquals id] = row.satisfies [p.entity.idEquals id] := by
  rw [Row.satisfies_singleton, Row.satisfies_singleton]
  exact Predicate.holds_eq_congr id (cell_markRow_id now mark row)

/-- **Marking the rows with an identifier leaves the same rows with it**, each with its mark. -/
theorem visible_marked (draws : List String) (now : String) (mark id : Json) (t : MemoryStore) :
    (MemoryStore.answer draws p.entity (.update (p.marking now s mark) [p.entity.idEquals id]) t).2.visible p.entity
        [p.entity.idEquals id] =
      (t.visible p.entity [p.entity.idEquals id]).map (p.markRow now s mark) := by
  rw [MemoryStore.answer_update, MemoryStore.visible, MemoryStore.visible, MemoryStore.rowsOf, MemoryStore.rowsOf,
    MemoryStore.table_setTable]
  refine Table.filter_updateRows_self (fun row hrow => ?_) _
  exact (satisfies_idEquals_markRow now mark row id).trans hrow

end Pipeline

end RecordService
