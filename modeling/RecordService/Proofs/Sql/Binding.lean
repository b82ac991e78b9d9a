import RecordService.Proofs.Sql.Fragment
import RecordService.Store.Call
/-!
# Bindings — what a statement binds, and for which columns

A predicate binds its values from left to right, each for the column of its field, except a pattern, which is bound for
none (`Predicate.bindings`).  The holes of the condition are these bindings, each with the cast to the type of its column
(`Sql.holes_condition`), and the holes of a call are the bindings of the call (`StoreCall.holes_eq`).  So its parameters
are the values that it binds, in their order (`StoreCall.params_eq_bindings`).
-/
namespace RecordService

/-- A value, and the column that it is bound for. -/
structure Binding where
  column : Option String
  value : Json

def Binding.hole (e : Entity) (b : Binding) : Option String × Json := (b.column.bind (Sql.cast e), b.value)

/-! ## Conditions -/

namespace Predicate

mutual
/-- From left to right. -/
def bindings : Predicate → List Binding
  | .compare field op value => [⟨if op.takesPattern then none else some field, value⟩]
  | .oneOf field values _ => values.map (⟨some field, ·⟩)
  | .isNull _ _ => []
  | .and group => bindingsOfAll group
  | .or group => bindingsOfAll group
termination_by structural p => p

def bindingsOfAll : List Predicate → List Binding
  | [] => []
  | p :: rest => bindings p ++ bindingsOfAll rest
termination_by structural ps => ps
end

end Predicate

namespace Sql

open Fragment Predicate

theorem holes_comparison (e : Entity) (field : String) (op : Comparison) (value : Json) :
    (comparison e field op value).holes = (bindings (.compare field op value)).map (Binding.hole e) := by
  unfold comparison bindings
  cases op.takesPattern <;> rfl

theorem holes_membership (e : Entity) (field : String) (values : List Json) (negated : Bool) :
    (membership e field values negated).holes = (bindings (.oneOf field values negated)).map (Binding.hole e) := by
  unfold membership
  cases values with
  | nil => rfl
  | cons v rest =>
    rw [if_neg (by simp), holes_append, holes_parenthesized, commas, holes_joined, bindings, List.flatMap_map, List.map_map]
    exact List.flatMap_pure_eq_map _ _

theorem holes_grouped (separator empty : String) : ∀ fs : List Fragment,
    (grouped separator empty fs).holes = fs.flatMap holes
  | [] => rfl
  | [_] => (List.append_nil _).symm
  | f :: g :: rest => (holes_parenthesized _).trans (holes_joined separator (f :: g :: rest))

mutual
theorem holes_condition (e : Entity) : ∀ p : Predicate, (condition e p).holes = p.bindings.map (Binding.hole e)
  | .compare field op value => holes_comparison e field op value
  | .oneOf field values negated => holes_membership e field values negated
  | .isNull _ _ => rfl
  | .and group => (holes_grouped _ _ _).trans (holes_conditions e group)
  | .or group => (holes_grouped _ _ _).trans (holes_conditions e group)

theorem holes_conditions (e : Entity) (group : List Predicate) :
    (conditions e group).flatMap holes = (bindingsOfAll group).map (Binding.hole e) := by
  cases group with
  | nil => rfl
  | cons p rest =>
    rw [conditions, bindingsOfAll, List.flatMap_cons, List.map_append, holes_condition e p, holes_conditions e rest]
end

@[simp] theorem holes_whereClause (e : Entity) (filter : List Predicate) :
    (whereClause e filter).holes = (bindingsOfAll filter).map (Binding.hole e) := by
  cases filter with
  | nil => rfl
  | cons p rest => exact (holes_joined _ _).trans (holes_conditions e (p :: rest))

end Sql

/-! ## Statements -/

namespace Statement

open Fragment Predicate

/-! ### Parts without values -/

@[simp] theorem params_columnList (e : Entity) : (columnList e).params = [] := by
  refine params_commas_nil (fun c => ?_) e.columns
  unfold readColumn
  split <;> rfl

@[simp] theorem params_orderClause (e : Entity) (orderBy : List OrderBy) : (orderClause e orderBy).params = [] := by
  simp only [orderClause]
  split
  · rfl
  · exact params_commas_nil (fun _ => rfl) _

@[simp] theorem params_windowClause (word : String) (n : Option Nat) : (windowClause word n).params = [] := by
  cases n <;> rfl

@[simp] theorem params_returning (e : Entity) : (returning e).params = [] := params_columnList e

/-! ### Their holes -/

theorem holes_tuple (e : Entity) (row : Row) (columns : List String) :
    (tuple e columns (columns.map (entry e row))).holes =
      (columns.filterMap fun column => (row.get? column).map (⟨some column, ·⟩)).map (Binding.hole e) := by
  have hentry : ∀ column, (entryFragment e column (entry e row column)).holes =
      ((row.get? column).map (⟨some column, ·⟩)).toList.map (Binding.hole e) := by
    intro column
    unfold entry
    cases row.get? column with
    | some v => rfl
    | none =>
      show (entryFragment e column (if hasDefault e column then .default else .null)).holes = []
      cases hasDefault e column <;> rfl
  rw [tuple, holes_parenthesized, commas, holes_joined, List.zipWith_map_right, List.zipWith_self, List.flatMap_map,
    List.filterMap_eq_flatMap_toList, List.map_flatMap]
  exact List.flatMap_congr fun column _ => hentry column

theorem holes_ofInsert (e : Entity) (inputs : List Row) : ((ofInsert e inputs).fragment e).holes =
    (inputs.flatMap fun row => (insertColumns e inputs).filterMap fun column =>
      (row.get? column).map (⟨some column, ·⟩)).map (Binding.hole e) := by
  have hnames : (commas ((insertColumns e inputs).map fun c => [.name c])).holes = [] :=
    holes_of_params_nil (params_commas_nil (fun _ => rfl) _)
  have htuples : (commas ((inputs.map fun row => (insertColumns e inputs).map (entry e row)).map
      (tuple e (insertColumns e inputs)))).holes = inputs.flatMap fun row =>
        ((insertColumns e inputs).filterMap fun column => (row.get? column).map (⟨some column, ·⟩)).map
          (Binding.hole e) := by
    rw [commas, holes_joined, List.map_map, List.flatMap_map]
    exact List.flatMap_congr fun row _ => holes_tuple e row _
  rw [ofInsert, fragment, holes_append, holes_append, holes_append, holes_append, holes_append, holes_append,
    holes_of_params_nil (params_returning e), hnames, htuples, List.map_flatMap]
  exact List.append_nil _

theorem holes_select (e : Entity) (s : Selection) :
    ((Statement.select s).fragment e).holes = (bindingsOfAll s.filter).map (Binding.hole e) := by
  simp [fragment, table, holes, holes_of_params_nil]

theorem holes_delete (e : Entity) (filter : List Predicate) :
    ((Statement.delete filter).fragment e).holes = (bindingsOfAll filter).map (Binding.hole e) := by
  simp [fragment, table, holes, holes_of_params_nil]

theorem holes_count (e : Entity) (filter : List Predicate) :
    ((Statement.count filter).fragment e).holes = (bindingsOfAll filter).map (Binding.hole e) := by
  simp [fragment, table, holes]

theorem holes_ofUpdate (e : Entity) (changes : Row) (filter : List Predicate) :
    ((ofUpdate e changes filter).fragment e).holes =
      (((settable e changes).map fun change => Binding.mk (some change.1) change.2) ++ bindingsOfAll filter).map
        (Binding.hole e) := by
  unfold ofUpdate
  cases hsettable : settable e changes with
  | nil => exact holes_select e (.allOf filter)
  | cons change rest =>
    have hchanges : (commas ((change :: rest).map (assignment e))).holes =
        ((change :: rest).map fun change => Binding.mk (some change.1) change.2).map (Binding.hole e) := by
      rw [commas, holes_joined, List.flatMap_map, List.map_map]
      exact List.flatMap_pure_eq_map _ _
    rw [if_neg (by simp), List.map_append, ← hchanges]
    simp [fragment, table, holes, holes_of_params_nil, -List.map_cons]

end Statement

/-! ## Calls -/

/-- Everything a store is asked for with a statement. -/
inductive StoreCall where
  | rows (call : RowCall)
  | count (filter : List Predicate)

namespace StoreCall

open Fragment Predicate Statement

def statement (e : Entity) : StoreCall → Statement
  | .rows call => call.statement e
  | .count filter => .count filter

/-- What a call binds, and for which columns. -/
def bindings (e : Entity) : StoreCall → List Binding
  | .rows (.select s) => bindingsOfAll s.filter
  | .rows (.insert inputs) => inputs.flatMap fun row => (insertColumns e inputs).filterMap fun column =>
      (row.get? column).map (⟨some column, ·⟩)
  | .rows (.update changes filter) =>
      ((settable e changes).map fun change => ⟨some change.1, change.2⟩) ++ bindingsOfAll filter
  | .rows (.delete filter) => bindingsOfAll filter
  | .count filter => bindingsOfAll filter

/-- **The holes of a call are its bindings**, in their order and each cast to the type of its column. -/
theorem holes_eq (e : Entity) : ∀ c : StoreCall,
    ((c.statement e).fragment e).holes = (c.bindings e).map (Binding.hole e)
  | .rows (.select s) => holes_select e s
  | .rows (.insert inputs) => holes_ofInsert e inputs
  | .rows (.update changes filter) => holes_ofUpdate e changes filter
  | .rows (.delete filter) => holes_delete e filter
  | .count filter => holes_count e filter

/-- **The parameters of a call are the values that it binds.** -/
theorem params_eq_bindings (e : Entity) (c : StoreCall) : (c.statement e).params e = (c.bindings e).map Binding.value := by
  rw [Statement.params, params_eq_holes, holes_eq, List.map_map]
  rfl

end StoreCall

end RecordService
