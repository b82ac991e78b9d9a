import RecordService.Proofs.Basic
import RecordService.Store.Memory
/-!
# Confinement — the rows that a change may touch

A view is a list of predicates, and a filter that is at least as strict as the view selects among its rows
(`Narrows`).  A change of a table is confined to a view when the rows outside of it keep their content and their order
(`Confined`); changing and removing the rows of a narrower filter are such changes.
-/
namespace RecordService

/-! ## Filters -/

namespace Row

@[simp] theorem satisfies_nil (row : Row) : row.satisfies [] = true := rfl

@[simp] theorem satisfies_cons (row : Row) (p : Predicate) (ps : List Predicate) :
    row.satisfies (p :: ps) = (p.holds row && row.satisfies ps) := rfl

theorem satisfies_singleton (row : Row) (p : Predicate) : row.satisfies [p] = p.holds row := Bool.and_true _

@[simp] theorem satisfies_append (row : Row) : ∀ ps qs : List Predicate,
    row.satisfies (ps ++ qs) = (row.satisfies ps && row.satisfies qs)
  | [], _ => by simp
  | p :: ps, qs => by rw [List.cons_append, satisfies_cons, satisfies_cons, satisfies_append row ps qs, Bool.and_assoc]

theorem satisfies_iff (row : Row) : ∀ ps : List Predicate, row.satisfies ps = true ↔ ∀ p ∈ ps, p.holds row = true
  | [] => by simp
  | p :: ps => by simp [satisfies_iff row ps]

end Row

/-- **A filter narrows a view** when every row that satisfies the filter is in the view. -/
def Narrows (filter view : List Predicate) : Prop :=
  ∀ row : Row, row.satisfies filter = true → row.satisfies view = true

namespace Narrows

theorem trans {a b c : List Predicate} (hab : Narrows a b) (hbc : Narrows b c) : Narrows a c :=
  fun row h => hbc row (hab row h)

theorem of_subset {filter view : List Predicate} (h : ∀ p ∈ view, p ∈ filter) : Narrows filter view := by
  intro row hrow
  rw [Row.satisfies_iff] at hrow ⊢
  exact fun p hp => hrow p (h p hp)

/-- What a narrower filter selects, it selects from the rows of the view. -/
theorem filter_filter {filter view : List Predicate} (h : Narrows filter view) (rows : List Row) :
    (rows.filter (Row.satisfies view)).filter (Row.satisfies filter) = rows.filter (Row.satisfies filter) := by
  rw [List.filter_filter]
  apply List.filter_congr
  intro row _
  cases hrow : row.satisfies filter with
  | true => simp [h row hrow]
  | false => rfl

/-- Two tables that agree on the view have the same rows under a narrower filter. -/
theorem filter_eq {filter view : List Predicate} (h : Narrows filter view) (rows rows' : List Row)
    (hrows : rows.filter (Row.satisfies view) = rows'.filter (Row.satisfies view)) :
    rows.filter (Row.satisfies filter) = rows'.filter (Row.satisfies filter) := by
  rw [← h.filter_filter rows, hrows, h.filter_filter rows']

/-- After the rows of a narrower filter have changed, the view shows what it would show of its own rows. -/
theorem filter_updateRows {filter view : List Predicate} (h : Narrows filter view) (e : Entity) (changes : Row) :
    ∀ rows : List Row, (Table.updateRows e changes filter rows).filter (Row.satisfies view) =
      (Table.updateRows e changes filter (rows.filter (Row.satisfies view))).filter (Row.satisfies view)
  | [] => rfl
  | row :: rows => by
    have ih := filter_updateRows h e changes rows
    unfold Table.updateRows at ih ⊢
    cases hview : row.satisfies view with
    | true =>
      rw [List.filter_cons_of_pos hview, List.map_cons, List.map_cons, List.filter_cons, List.filter_cons, ih]
    | false =>
      have hrow : ¬row.satisfies filter = true := fun hf => by rw [h row hf] at hview; cases hview
      rw [List.filter_cons_of_neg (by simp [hview]), List.map_cons, if_neg hrow,
        List.filter_cons_of_neg (by simp [hview]), ih]

end Narrows

/-! ## Confinement -/

/-- **The second list of rows comes from the first by changing or removing rows of the view only.**  Every other row
keeps its content, and no two rows change places. -/
inductive Confined (view : List Predicate) : List Row → List Row → Prop where
  | nil : Confined view [] []
  | keep (row : Row) {rows rows' : List Row} : Confined view rows rows' → Confined view (row :: rows) (row :: rows')
  | change {row : Row} (row' : Row) {rows rows' : List Row} : row.satisfies view = true →
      Confined view rows rows' → Confined view (row :: rows) (row' :: rows')
  | remove {row : Row} {rows rows' : List Row} : row.satisfies view = true →
      Confined view rows rows' → Confined view (row :: rows) rows'

namespace Confined

variable {view : List Predicate} {rows rows' : List Row}

theorem refl (view : List Predicate) : ∀ rows : List Row, Confined view rows rows
  | [] => .nil
  | row :: rows => .keep row (refl view rows)

/-- Rows that are told apart from the view are all still there, in their order. -/
theorem filter_sublist {keep : Row → Bool} (hkeep : ∀ row : Row, keep row = true → row.satisfies view = false)
    (hc : Confined view rows rows') : (rows.filter keep).Sublist (rows'.filter keep) := by
  induction hc with
  | nil => exact List.Sublist.refl _
  | keep row _ ih =>
    rw [List.filter_cons, List.filter_cons]
    split
    · exact ih.cons_cons row
    · exact ih
  | change row' hrow _ ih =>
    rename_i row _ _ _
    have : keep row = false := Bool.eq_false_iff.2 fun hk => by rw [hkeep row hk] at hrow; cases hrow
    rw [List.filter_cons_of_neg (by simp [this]), List.filter_cons]
    split
    · exact ih.cons row'
    · exact ih
  | remove hrow _ ih =>
    rename_i row _ _ _
    have : keep row = false := Bool.eq_false_iff.2 fun hk => by rw [hkeep row hk] at hrow; cases hrow
    rw [List.filter_cons_of_neg (by simp [this])]
    exact ih

/-- With no row in the view, nothing happens. -/
theorem eq_of_empty (hview : ∀ row : Row, row.satisfies view = false) (hc : Confined view rows rows') :
    rows' = rows := by
  induction hc with
  | nil => rfl
  | keep row _ ih => rw [ih]
  | change _ hrow _ _ => rw [hview] at hrow; cases hrow
  | remove hrow _ _ => rw [hview] at hrow; cases hrow

theorem updateRows (e : Entity) (changes : Row) {filter : List Predicate} (h : Narrows filter view) :
    ∀ rows : List Row, Confined view rows (Table.updateRows e changes filter rows)
  | [] => .nil
  | row :: rows => by
    unfold Table.updateRows
    rw [List.map_cons]
    cases hrow : row.satisfies filter with
    | true => exact .change _ (h row hrow) (updateRows e changes h rows)
    | false => exact .keep row (updateRows e changes h rows)

theorem filterOut {filter : List Predicate} (h : Narrows filter view) :
    ∀ rows : List Row, Confined view rows (rows.filter fun r => !r.satisfies filter)
  | [] => .nil
  | row :: rows => by
    cases hrow : row.satisfies filter with
    | true => rw [List.filter_cons_of_neg (by simp [hrow])]; exact .remove (h row hrow) (filterOut h rows)
    | false => rw [List.filter_cons_of_pos (by simp [hrow])]; exact .keep row (filterOut h rows)

end Confined

end RecordService
