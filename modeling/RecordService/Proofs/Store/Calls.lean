import Mathlib.Data.List.Basic
import RecordService.Proofs.Store.Confined
/-!
# Calls to the memory store

What each call does to the tables (`answer_select` and its three companions), and what follows for a call whose filter
narrows a view: it answers the same on two stores that agree on the view (`answer_eq_of_agree`), and leaves the rows
outside of it where they are (`answer_confined`).  A call that fails, or answers with no row, changes nothing.
-/
namespace RecordService

/-! ## Tables by name -/

namespace MemoryStore

theorem find_put (ts : List (String × Table)) (name : String) (t : Table) (name' : String) :
    find (put ts name t) name' = if name = name' then t else find ts name' := by
  induction ts with
  | nil => rfl
  | cons entry rest ih =>
    obtain ⟨k, u⟩ := entry
    by_cases hk : k = name
    · subst hk
      simp only [put, if_true, find]
      split <;> rfl
    · simp only [put, if_neg hk, find, ih]
      by_cases hk' : k = name'
      · subst hk'
        rw [if_pos rfl, if_pos rfl, if_neg (Ne.symm hk)]
      · rw [if_neg hk', if_neg hk']

@[simp] theorem table_setTable (s : MemoryStore) (e : Entity) (t : Table) : (s.setTable e t).table e = t := by
  simp [table, setTable, find_put]

/-- **The stores hold the same tables**, each with its rows and its counter. -/
def Same (s t : MemoryStore) : Prop := ∀ name : String, find s.tables name = find t.tables name

namespace Same

theorem refl (s : MemoryStore) : Same s s := fun _ => rfl

theorem symm {s t : MemoryStore} (h : Same s t) : Same t s := fun name => (h name).symm

theorem trans {s t u : MemoryStore} (h : Same s t) (h' : Same t u) : Same s u := fun name => (h name).trans (h' name)

theorem table_eq {s t : MemoryStore} (h : Same s t) (e : Entity) : s.table e = t.table e := h e.qualifiedName

theorem setTable {s t : MemoryStore} (h : Same s t) (e : Entity) (u : Table) : Same (s.setTable e u) (t.setTable e u) := by
  intro name
  show find (put s.tables e.qualifiedName u) name = find (put t.tables e.qualifiedName u) name
  rw [find_put, find_put, h name]

/-- To store a table as it is changes nothing. -/
theorem setTable_self {s : MemoryStore} {e : Entity} {t : Table} (h : t = s.table e) : Same (s.setTable e t) s := by
  intro name
  show find (put s.tables e.qualifiedName t) name = _
  rw [find_put, h]
  split
  · subst_vars; rfl
  · rfl

end Same

/-- The rows of the entity that satisfy the view. -/
def visible (s : MemoryStore) (e : Entity) (view : List Predicate) : List Row :=
  (s.rowsOf e).filter (Row.satisfies view)

theorem Same.visible_eq {s t : MemoryStore} (h : Same s t) (e : Entity) (view : List Predicate) :
    s.visible e view = t.visible e view := by
  rw [visible, visible, rowsOf, rowsOf, h.table_eq]

end MemoryStore

/-! ## Calls -/

namespace RowCall

/-- The call is about rows of the view, and stores none of its own. -/
def Within (view : List Predicate) : RowCall → Prop
  | .select selection => Narrows selection.filter view
  | .insert _ => False
  | .update _ filter => Narrows filter view
  | .delete filter => Narrows filter view

end RowCall

namespace MemoryStore

variable {e : Entity} {view : List Predicate} {call : RowCall} {s t : MemoryStore} {draws : List String}

theorem answer_select (selection : Selection) : answer draws e (.select selection) s = (s.select e selection, s) := rfl

/-- A selection is a window on the sorted rows, unless the sort breaks off. -/
theorem select_eq (s : MemoryStore) (e : Entity) (selection : Selection) : s.select e selection =
    match OrderBy.sortRows (e.ordersBy selection.orderBy) (s.visible e selection.filter) with
    | some sorted => .ok (Table.window selection.limit selection.offset sorted)
    | none => .error (.store .disorder) := by
  unfold select Table.select
  rw [show (s.table e).rows.filter (Row.satisfies selection.filter) = s.visible e selection.filter from rfl]
  cases OrderBy.sortRows (e.ordersBy selection.orderBy) (s.visible e selection.filter) <;> rfl

theorem select_eq_ok_iff {selection : Selection} {rows : List Row} : s.select e selection = .ok rows ↔
    ∃ sorted, OrderBy.sortRows (e.ordersBy selection.orderBy) (s.visible e selection.filter) = some sorted ∧
      Table.window selection.limit selection.offset sorted = rows := by
  rw [select_eq]
  cases OrderBy.sortRows (e.ordersBy selection.orderBy) (s.visible e selection.filter) <;> simp

theorem select_of_table (selection : Selection) (h : s.table e = t.table e) :
    s.select e selection = t.select e selection := by
  unfold select
  rw [h]

theorem answer_insert (rows : List Row) : answer draws e (.insert rows) s =
    match Table.insertAll e draws rows (s.table e) with
    | .ok (stored, t) => (.ok stored, s.setTable e t)
    | .error error => (.error error, s) := by
  unfold answer insert
  dsimp only
  cases Table.insertAll e draws rows (s.table e) <;> rfl

theorem answer_update (changes : Row) (filter : List Predicate) : answer draws e (.update changes filter) s =
    (.ok (((s.table e).rows.filter (Row.satisfies filter)).map (Table.assign e changes)),
      s.setTable e ⟨Table.updateRows e changes filter (s.table e).rows, (s.table e).lastId⟩) := rfl

theorem answer_delete (filter : List Predicate) : answer draws e (.delete filter) s =
    (.ok ((s.table e).rows.filter (Row.satisfies filter)),
      s.setTable e ⟨(s.table e).rows.filter fun r => !r.satisfies filter, (s.table e).lastId⟩) := rfl

theorem visible_eq_of_agree {filter : List Predicate} (hf : Narrows filter view)
    (h : s.visible e view = t.visible e view) : s.visible e filter = t.visible e filter :=
  hf.filter_eq (s.rowsOf e) (t.rowsOf e) h

theorem select_eq_of_agree {selection : Selection} (hf : Narrows selection.filter view)
    (h : s.visible e view = t.visible e view) : s.select e selection = t.select e selection := by
  unfold select Table.select
  rw [hf.filter_eq (s.table e).rows (t.table e).rows h]

theorem count_eq_of_agree {filter : List Predicate} (hf : Narrows filter view)
    (h : s.visible e view = t.visible e view) : s.count e filter = t.count e filter := by
  unfold count Table.count
  rw [hf.filter_eq (s.table e).rows (t.table e).rows h]

/-- **A call within the view answers the same on stores that agree on it.** -/
theorem answer_eq_of_agree (draws : List String) (hc : call.Within view)
    (h : s.visible e view = t.visible e view) :
    (answer draws e call s).1 = (answer draws e call t).1 := by
  cases call with
  | select selection => exact select_eq_of_agree hc h
  | insert rows => exact hc.elim
  | update changes filter => rw [answer_update, answer_update, hc.filter_eq (s.table e).rows (t.table e).rows h]
  | delete filter => rw [answer_delete, answer_delete, hc.filter_eq (s.table e).rows (t.table e).rows h]

/-- **Stores that agree on the view agree on it after a call within it.** -/
theorem agree_answer (draws : List String) (hc : call.Within view) (h : s.visible e view = t.visible e view) :
    (answer draws e call s).2.visible e view = (answer draws e call t).2.visible e view := by
  have hrows : (s.table e).rows.filter (Row.satisfies view) = (t.table e).rows.filter (Row.satisfies view) := h
  cases call with
  | select selection => exact h
  | insert rows => exact hc.elim
  | update changes filter =>
    rw [answer_update, answer_update, visible, visible, rowsOf, rowsOf, table_setTable, table_setTable]
    dsimp only
    rw [hc.filter_updateRows, hrows, ← hc.filter_updateRows]
  | delete filter =>
    rw [answer_delete, answer_delete, visible, visible, rowsOf, rowsOf, table_setTable, table_setTable]
    dsimp only
    rw [List.filter_comm, hrows, List.filter_comm]

/-- **A call within the view leaves every other row where it is.** -/
theorem answer_confined (draws : List String) (hc : call.Within view) :
    Confined view (s.rowsOf e) ((answer draws e call s).2.rowsOf e) := by
  cases call with
  | select selection => exact Confined.refl view _
  | insert rows => exact hc.elim
  | update changes filter =>
    rw [answer_update, rowsOf, rowsOf, table_setTable]
    exact Confined.updateRows e changes hc _
  | delete filter =>
    rw [answer_delete, rowsOf, rowsOf, table_setTable]
    exact Confined.filterOut hc _

/-- **A call answers the same on stores with the same tables, and leaves them the same.** -/
theorem answer_congr (draws : List String) (e : Entity) (call : RowCall) (h : Same s t) :
    (answer draws e call s).1 = (answer draws e call t).1 ∧
      Same (answer draws e call s).2 (answer draws e call t).2 := by
  have htable := h.table_eq e
  cases call with
  | select selection =>
    rw [answer_select, answer_select, select_of_table selection htable]
    exact ⟨rfl, h⟩
  | insert rows =>
    rw [answer_insert, answer_insert, htable]
    cases Table.insertAll e draws rows (t.table e) with
    | ok stored => exact ⟨rfl, h.setTable e _⟩
    | error error => exact ⟨rfl, h⟩
  | update changes filter =>
    rw [answer_update, answer_update, htable]
    exact ⟨rfl, h.setTable e _⟩
  | delete filter =>
    rw [answer_delete, answer_delete, htable]
    exact ⟨rfl, h.setTable e _⟩

/-! ## Calls that spare a view

A call spares the rows of a view when it selects none of them, and what it makes of the rows it selects is not in the
view either. -/

end MemoryStore

namespace Table

variable {e : Entity} {changes : Row} {filter : List Predicate} {keep : Row → Bool}

/-- The rows that are kept in view are what they were, when no row of the filter is one before or after the changes. -/
theorem filter_updateRows_of_spared : ∀ {rows : List Row}, (∀ row ∈ rows, row.satisfies filter = true →
    keep row = false ∧ keep (assign e changes row) = false) →
    (updateRows e changes filter rows).filter keep = rows.filter keep
  | [], _ => rfl
  | row :: rows, h => by
    have ih := filter_updateRows_of_spared fun r hr => h r (List.mem_cons_of_mem _ hr)
    unfold updateRows at ih ⊢
    rw [List.map_cons]
    by_cases hf : row.satisfies filter = true
    · obtain ⟨hbefore, hafter⟩ := h row List.mem_cons_self hf
      rw [if_pos hf, List.filter_cons_of_neg (by simp [hafter]), List.filter_cons_of_neg (by simp [hbefore]), ih]
    · rw [if_neg hf, List.filter_cons, List.filter_cons, ih]

theorem filter_delete_of_spared {rows : List Row} (h : ∀ row ∈ rows, row.satisfies filter = true → keep row = false) :
    (rows.filter fun r => !r.satisfies filter).filter keep = rows.filter keep := by
  rw [List.filter_filter]
  refine List.filter_congr fun row hrow => ?_
  cases hf : row.satisfies filter with
  | true => simp [h row hrow hf]
  | false => simp

end Table

namespace MemoryStore

variable {e : Entity} {view : List Predicate} {call : RowCall} {s t : MemoryStore} {draws : List String}

/-- The rows of a spared view are what they were. -/
theorem visible_update (draws : List String) {changes : Row} {filter : List Predicate}
    (hspared : ∀ row ∈ s.rowsOf e, row.satisfies filter = true →
      row.satisfies view = false ∧ (Table.assign e changes row).satisfies view = false) :
    (answer draws e (.update changes filter) s).2.visible e view = s.visible e view := by
  rw [answer_update, visible, visible, rowsOf, table_setTable]
  exact Table.filter_updateRows_of_spared hspared

theorem visible_delete (draws : List String) {filter : List Predicate}
    (hspared : ∀ row ∈ s.rowsOf e, row.satisfies filter = true → row.satisfies view = false) :
    (answer draws e (.delete filter) s).2.visible e view = s.visible e view := by
  rw [answer_delete, visible, visible, rowsOf, table_setTable]
  exact Table.filter_delete_of_spared hspared

/-! ## Calls that change nothing -/

theorem answer_error {error : ServiceError} (h : (answer draws e call s).1 = .error error) :
    (answer draws e call s).2 = s := by
  cases call with
  | select selection => rfl
  | insert rows =>
    rw [answer_insert] at h ⊢
    split at h
    · cases h
    · rfl
  | update changes filter => cases h
  | delete filter => cases h

theorem insertAll_length : ∀ (inputs : List Row) (draws : List String) (t t' : Table) (rows : List Row),
    Table.insertAll e draws inputs t = .ok (rows, t') → rows.length = inputs.length
  | [], _, _, _, _, h => by cases h; rfl
  | input :: inputs, draws, t, t', rows, h => by
    unfold Table.insertAll at h
    dsimp only at h
    split at h
    · cases h
    · cases hrest : Table.insertAll e draws.tail inputs
          ⟨t.rows ++ [(Table.prepare e (draws.headD "") input t.lastId).1],
            (Table.prepare e (draws.headD "") input t.lastId).2⟩ with
      | error error => rw [hrest] at h; cases h
      | ok stored =>
        rw [hrest] at h
        cases h
        rw [List.length_cons, List.length_cons, insertAll_length inputs _ _ _ _ hrest]

/-- **A call that answers with no row has changed nothing.** -/
theorem answer_nil (h : (answer draws e call s).1 = .ok []) : Same (answer draws e call s).2 s := by
  cases call with
  | select selection => exact Same.refl s
  | insert rows =>
    rw [answer_insert] at h ⊢
    split at h
    · rename_i stored t hins
      cases h
      cases rows with
      | nil => cases hins; exact Same.setTable_self rfl
      | cons row rows => exact absurd (insertAll_length _ _ _ _ _ hins) (by simp)
    · cases h
  | update changes filter =>
    have hnone : (s.table e).rows.filter (Row.satisfies filter) = [] := List.map_eq_nil_iff.1 (Except.ok.inj h)
    refine Same.setTable_self (congrArg (Table.mk · (s.table e).lastId) ?_)
    unfold Table.updateRows
    refine (List.map_congr_left fun row hrow => ?_).trans (List.map_id _)
    rw [if_neg (List.filter_eq_nil_iff.1 hnone row hrow)]
    rfl
  | delete filter =>
    have hnone : (s.table e).rows.filter (Row.satisfies filter) = [] := Except.ok.inj h
    refine Same.setTable_self (congrArg (Table.mk · (s.table e).lastId) ?_)
    exact List.filter_eq_self.2 fun row hrow => by simp [List.filter_eq_nil_iff.1 hnone row hrow]

end MemoryStore

end RecordService
