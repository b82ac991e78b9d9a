import Mathlib.Data.List.Forall2
import RecordService.Proofs.Store.Alteration
import RecordService.Proofs.Store.Sort
/-!
# Affected rows — what counting, reading, changing and removing by one filter have in common

The columns that changes write to hold a value of theirs behind them, and every other member of the row is what it was
(`Table.changed_assign`).  The four calls that take a filter are about the same rows: as many are counted, read, changed
and removed, in the order of insertion, and each is chosen by what it was before the call (`affected_are_matching`).
-/
namespace RecordService

/-! ## Rows behind changes -/

namespace Row

/-- A member that is among the changes is set to a value they have for it. -/
theorem get?_setAll_of_mem {key : String} : ∀ {changes : Row} (row : Row), key ∈ changes.keys →
    ∃ v, (key, v) ∈ changes ∧ (setAll changes row).get? key = some v
  | (k, v) :: changes, row, h => by
    by_cases hlater : key ∈ Row.keys changes
    · obtain ⟨w, hmem, hget⟩ := get?_setAll_of_mem (row.set k v) hlater
      exact ⟨w, List.mem_cons_of_mem _ hmem, hget⟩
    · -- nothing sets the member once more
      obtain rfl : key = k := (List.mem_cons.1 h).resolve_right hlater
      refine ⟨v, List.mem_cons_self, ?_⟩
      rw [setAll, get?_setAll _ hlater, get?_set, if_pos rfl]

end Row

namespace Entity

/-- The changes write to the column: they name it, and it is not the identifier. -/
structure Writes (e : Entity) (changes : Row) (name : String) : Prop where
  notId : name ≠ e.idField
  column : e.hasColumn name = true
  given : name ∈ changes.keys

/-- **The row `after` is the row `before` with the changes written into it.**  The changes have one value for a name. -/
structure Changed (e : Entity) (changes before after : Row) : Prop where
  written : ∀ name, e.Writes changes name → (name, after.cell name) ∈ changes
  kept : ∀ name, ¬e.Writes changes name → after.get? name = before.get? name

variable {e : Entity} {changes : Row} {name : String}

theorem mem_keys_changesOf_iff : name ∈ (e.changesOf changes).keys ↔ e.Writes changes name := by
  constructor
  · intro h
    obtain ⟨change, hchange, rfl⟩ := List.mem_map.1 h
    obtain ⟨hmem, hwritten⟩ := List.mem_filter.1 hchange
    simp only [bne_iff_ne, Bool.and_eq_true] at hwritten
    exact ⟨hwritten.1, hwritten.2, List.mem_map_of_mem hmem⟩
  · intro h
    obtain ⟨change, hmem, rfl⟩ := List.mem_map.1 h.given
    refine List.mem_map_of_mem (List.mem_filter.2 ⟨hmem, ?_⟩)
    simp [h.notId, h.column]

end Entity

theorem Table.changed_assign (e : Entity) (changes row : Row) : e.Changed changes row (assign e changes row) := by
  rw [assign_eq_setAll]
  constructor
  case written =>
    intro name hwrites
    obtain ⟨v, hmem, hget⟩ := Row.get?_setAll_of_mem row (Entity.mem_keys_changesOf_iff.2 hwrites)
    rw [Row.cell, hget]
    exact (List.mem_filter.1 hmem).1
  case kept =>
    intro name hwrites
    exact Row.get?_setAll row (mt Entity.mem_keys_changesOf_iff.1 hwrites)

/-! ## The rows of a filter -/

namespace MemoryStore

variable (s : MemoryStore) (e : Entity) (filter : List Predicate) (changes : Row)

theorem rowsOf_update : (s.update e changes filter).2.rowsOf e = Table.updateRows e changes filter (s.rowsOf e) := by
  rw [rowsOf, show (s.update e changes filter).2 = s.setTable e _ from rfl, table_setTable]
  rfl

theorem rowsOf_delete : (s.delete e filter).2.rowsOf e = (s.rowsOf e).filter fun row => !row.satisfies filter := by
  rw [rowsOf, show (s.delete e filter).2 = s.setTable e _ from rfl, table_setTable]
  rfl

/-- What stands behind the changes where a row of the filter stood before. -/
theorem behind_updateRows (rows : List Row) :
    ((rows.zip (Table.updateRows e changes filter rows)).filter fun pair => pair.1.satisfies filter).map Prod.snd =
      (rows.filter (Row.satisfies filter)).map (Table.assign e changes) := by
  unfold Table.updateRows
  rw [← List.map_prod_left_eq_zip, List.filter_map, List.map_map]
  exact List.map_congr_left fun row hrow => if_pos (List.mem_filter.1 hrow).2

/-- **Changes are written into the rows of the filter**, and every row keeps its place. -/
theorem forall₂_updateRows (rows : List Row) :
    List.Forall₂ (fun before after => if before.satisfies filter then e.Changed changes before after else after = before)
      rows (Table.updateRows e changes filter rows) := by
  refine List.forall₂_map_right_iff.2 (List.forall₂_same.2 fun row _ => ?_)
  by_cases hrow : row.satisfies filter = true
  · rw [if_pos hrow, if_pos hrow]
    exact Table.changed_assign e changes row
  · rw [if_neg hrow, if_neg hrow]

/-- **Counting, reading, changing and removing by a filter are about the same rows**, whatever the changes are. -/
theorem affected_are_matching :
    -- as many are counted, changed and removed as are read
    (s.select e (.allOf filter) = .ok ((s.rowsOf e).filter (Row.satisfies filter)) ∧
      s.count e filter = ((s.rowsOf e).filter (Row.satisfies filter)).length ∧
      (s.update e changes filter).1.length = ((s.rowsOf e).filter (Row.satisfies filter)).length ∧
      (s.delete e filter).1.length = ((s.rowsOf e).filter (Row.satisfies filter)).length) ∧
    -- the rows that are removed are answered with, and the others stay
    ((s.delete e filter).1 = (s.rowsOf e).filter (Row.satisfies filter) ∧
      (s.delete e filter).2.rowsOf e = (s.rowsOf e).filter (fun row => !row.satisfies filter) ∧
      (s.delete e filter).2.count e filter = 0) ∧
    -- the rows that are changed keep their places, and are answered with as they are behind the changes
    List.Forall₂ (fun before after => if before.satisfies filter then e.Changed changes before after else after = before)
      (s.rowsOf e) ((s.update e changes filter).2.rowsOf e) ∧
    (s.update e changes filter).1 =
      (((s.rowsOf e).zip ((s.update e changes filter).2.rowsOf e)).filter fun pair =>
        pair.1.satisfies filter).map Prod.snd := by
  have hupdate : (s.update e changes filter).1 =
      ((s.rowsOf e).filter (Row.satisfies filter)).map (Table.assign e changes) := rfl
  refine ⟨⟨rfl, rfl, ?_, rfl⟩, ⟨rfl, rowsOf_delete s e filter, ?_⟩, ?_, ?_⟩
  · rw [hupdate, List.length_map]
  · show (((s.delete e filter).2.rowsOf e).filter (Row.satisfies filter)).length = 0
    rw [rowsOf_delete, List.filter_filter, List.length_eq_zero_iff, List.filter_eq_nil_iff]
    intro row _
    cases row.satisfies filter <;> simp
  · rw [rowsOf_update]
    exact forall₂_updateRows e filter changes _
  · rw [rowsOf_update, behind_updateRows, hupdate]

end MemoryStore

end RecordService
