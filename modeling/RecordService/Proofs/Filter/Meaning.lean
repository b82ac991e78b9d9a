import RecordService.Proofs.Filter.Group
import RecordService.Proofs.Store.Confined
/-!
# Meaning — what a filter asks of a row

A filter asks what all of its `AND` entries ask, what one of its `OR` entries asks, and what its fields ask of their
cells (`Means`); an entry that asks for nothing at any depth does not take part (`Contributes`).  Both are said of the
JSON itself.  A filter compiles to predicates that hold of exactly the rows it means, and to none exactly when it asks
for nothing (`compile_means`).
-/
namespace RecordService

namespace Predicate

theorem allHold_eq (row : Row) : ∀ group : List Predicate, allHold row group = group.all fun p => p.holds row
  | [] => rfl
  | p :: rest => by rw [allHold, allHold_eq row rest, List.all_cons]

theorem someHold_eq (row : Row) : ∀ group : List Predicate, someHold row group = group.any fun p => p.holds row
  | [] => rfl
  | p :: rest => by rw [someHold, someHold_eq row rest, List.any_cons]

theorem holds_all (row : Row) (group : List Predicate) : (all group).holds row = row.satisfies group := by
  unfold all
  split
  · exact (row.satisfies_singleton _).symm
  · rfl

theorem holds_any (row : Row) (group : List Predicate) : (any group).holds row = group.any fun p => p.holds row := by
  unfold any
  split
  · simp
  · exact someHold_eq row group

end Predicate

namespace Filter

/-! ## What a field asks of its cell -/

def comparisonNamed? : String → Option Comparison
  | "equals" => some .eq
  | "not" => some .ne
  | "gt" => some .gt
  | "gte" => some .gte
  | "lt" => some .lt
  | "lte" => some .lte
  | "like" => some .like
  | "ilike" => some .ilike
  | _ => none

/-- The test that an operator is, unless it is unknown or cannot use its operand. -/
def operatorTest (name : String) (operand : Json) : Option (Json → Bool) :=
  match name, operand with
  | "equals", .null => some fun cell => cell.isNull
  | "not", .null => some fun cell => !cell.isNull
  | _, .null => none
  | "in", .arr values => some fun cell => !cell.isNull && values.any fun v => Cell.equal cell v
  | "in", value => some fun cell => !cell.isNull && Cell.equal cell value
  | "notIn", .arr values => some fun cell => !cell.isNull && values.all fun v => !Cell.equal cell v
  | "notIn", value => some fun cell => !cell.isNull && !Cell.equal cell value
  | _, value => (comparisonNamed? name).map fun op cell => !cell.isNull && op.holds cell value

/-- A literal is a value that the cell must equal, an object is its operators, and null and arrays ask for nothing. -/
def valueTests : Json → List (Json → Bool)
  | .null => []
  | .arr _ => []
  | .obj operators => operators.filterMap fun (name, operand) => operatorTest name operand
  | literal => [fun cell => !cell.isNull && Cell.equal cell literal]

/-- The keys of groups are no fields. -/
def fieldTests (allowed : String → Bool) (field : String × Json) : List (Json → Bool) :=
  if field.1 ≠ andKey ∧ field.1 ≠ orKey ∧ allowed field.1 = true then valueTests field.2 else []

/-! ## What a filter asks of a row -/

/-- The filter asks for something, at whatever depth. -/
def Contributes (allowed : String → Bool) (filter : Row) : Prop :=
  (∃ f, ∃ _ : f ∈ entries andKey filter, Contributes allowed f) ∨
    (∃ f, ∃ _ : f ∈ entries orKey filter, Contributes allowed f) ∨
    ∃ field ∈ filter, fieldTests allowed field ≠ []
termination_by sizeOf filter
decreasing_by
  · exact sizeOf_lt_of_mem_entries ‹_›
  · exact sizeOf_lt_of_mem_entries ‹_›

/-- **The row is as the filter asks**: as every `AND` entry asks, as one of the `OR` entries asks if any of them asks for
something, and as every field asks of its cell. -/
def Means (allowed : String → Bool) (row filter : Row) : Prop :=
  (∀ f, ∀ _ : f ∈ entries andKey filter, Contributes allowed f → Means allowed row f) ∧
    ((∃ f ∈ entries orKey filter, Contributes allowed f) →
      ∃ f, ∃ _ : f ∈ entries orKey filter, Contributes allowed f ∧ Means allowed row f) ∧
    ∀ field ∈ filter, ∀ test ∈ fieldTests allowed field, test (row.cell field.1) = true
termination_by sizeOf filter
decreasing_by
  · exact sizeOf_lt_of_mem_entries ‹_›
  · exact sizeOf_lt_of_mem_entries ‹_›

/-! ## Fields -/

def operatorNames : List String := ["equals", "not", "gt", "gte", "lt", "lte", "like", "ilike", "in", "notIn"]

theorem operatorTest_unknown {name : String} (h : name ∉ operatorNames) (operand : Json) :
    operatorTest name operand = none := by
  simp only [operatorNames, List.mem_cons, List.not_mem_nil, or_false, not_or] at h
  unfold operatorTest
  split <;> simp_all [comparisonNamed?]

theorem compileOperator_unknown {name : String} (h : name ∉ operatorNames) (field : String) (operand : Json) :
    compileOperator field (name, operand) = none := by
  simp only [operatorNames, List.mem_cons, List.not_mem_nil, or_false, not_or] at h
  unfold compileOperator
  split <;> simp_all

/-- An operator compiles to a predicate of its own test, or to none when it is no test. -/
theorem holds_compileOperator (row : Row) (field : String) (op : String × Json) :
    (compileOperator field op).map (fun p => p.holds row) =
      (operatorTest op.1 op.2).map fun test => test (row.cell field) := by
  obtain ⟨name, operand⟩ := op
  by_cases hknown : name ∈ operatorNames
  · simp only [operatorNames, List.mem_cons, List.not_mem_nil, or_false] at hknown
    rcases hknown with rfl | rfl | rfl | rfl | rfl | rfl | rfl | rfl | rfl | rfl
    all_goals
      cases operand <;> simp [compileOperator, operatorTest, comparison, comparisonNamed?, operandList, Predicate.holds,
        Comparison.holds, Json.isNull, List.not_any_eq_all_not]
  · rw [compileOperator_unknown hknown, operatorTest_unknown hknown]
    rfl

theorem holds_compileValue (row : Row) (field : String) (value : Json) :
    (compileValue field value).map (fun p => p.holds row) = (valueTests value).map fun test => test (row.cell field) := by
  cases value with
  | null => rfl
  | arr values => rfl
  | obj operators =>
    rw [compileValue, valueTests, List.map_filterMap, List.map_filterMap]
    exact congrArg operators.filterMap (funext fun op => holds_compileOperator row field op)
  | _ => simp [compileValue, valueTests, Predicate.eq, Predicate.holds, Comparison.holds, Json.isNull]

theorem holds_compileField (allowed : String → Bool) (row : Row) (field : String × Json) :
    (compileField allowed field).map (fun p => p.holds row) =
      (fieldTests allowed field).map fun test => test (row.cell field.1) := by
  unfold compileField fieldTests
  by_cases hfield : field.1 ≠ andKey ∧ field.1 ≠ orKey ∧ allowed field.1 = true
  · rw [if_pos hfield, if_neg (by simp [hfield.1, hfield.2.1, hfield.2.2])]
    exact holds_compileValue row field.1 field.2
  · have hskipped : (field.1 = andKey || field.1 = orKey || !allowed field.1) = true := by grind
    rw [if_neg hfield, if_pos hskipped]
    rfl

theorem compileField_eq_nil {allowed : String → Bool} {field : String × Json} :
    compileField allowed field = [] ↔ fieldTests allowed field = [] := by
  have hmaps := holds_compileField allowed [] field
  constructor
  · intro h
    rw [h] at hmaps
    exact List.map_eq_nil_iff.1 hmaps.symm
  · intro h
    rw [h] at hmaps
    exact List.map_eq_nil_iff.1 hmaps

theorem forall_holds_compileField {allowed : String → Bool} {row : Row} {field : String × Json} :
    (∀ p ∈ compileField allowed field, p.holds row = true) ↔
      ∀ test ∈ fieldTests allowed field, test (row.cell field.1) = true := by
  have hmaps := congrArg (fun l : List Bool => l.all id) (holds_compileField allowed row field)
  simp only [List.all_map, Function.comp_def, id] at hmaps
  rw [← List.all_eq_true, ← List.all_eq_true, hmaps]

/-! ## Levels -/

variable {allowed : String → Bool} {row : Row}

theorem satisfies_assemble (ands ors fields : List Predicate) : row.satisfies (assemble ands ors fields) = true ↔
    (∀ p ∈ ands, p.holds row = true) ∧ (ors ≠ [] → ∃ p ∈ ors, p.holds row = true) ∧
      ∀ p ∈ fields, p.holds row = true := by
  unfold assemble
  rw [Row.satisfies_append, Row.satisfies_append, Bool.and_eq_true, Bool.and_eq_true, and_assoc, Row.satisfies_iff row fields]
  refine and_congr ?_ (and_congr ?_ Iff.rfl)
  · cases ands with
    | nil => simp
    | cons p ps =>
      rw [List.isEmpty_cons, if_neg Bool.false_ne_true, Row.satisfies_singleton, Predicate.holds_all, Row.satisfies_iff]
  · cases ors with
    | nil => simp
    | cons p ps =>
      rw [List.isEmpty_cons, if_neg Bool.false_ne_true, Row.satisfies_singleton, Predicate.holds_any, List.any_eq_true]
      simp

/-- **A filter compiles to no predicate exactly when it asks for nothing.** -/
theorem compile_eq_nil_iff (allowed : String → Bool) (filter : Row) :
    compile allowed filter = [] ↔ ¬Contributes allowed filter := by
  induction filter using induction with
  | step filter ih =>
    have hentries : ∀ key, (∀ f ∈ entries key filter, compile allowed f = []) ↔
        ¬∃ f, ∃ _ : f ∈ entries key filter, Contributes allowed f := by
      intro key
      constructor
      · rintro h ⟨f, hf, hasks⟩
        exact (ih key f hf).1 (h f hf) hasks
      · intro h f hf
        exact (ih key f hf).2 fun hasks => h ⟨f, hf, hasks⟩
    have hfields : filter.flatMap (compileField allowed) = [] ↔ ¬∃ field ∈ filter, fieldTests allowed field ≠ [] := by
      simp only [List.flatMap_eq_nil_iff, compileField_eq_nil]
      grind
    rw [compile_eq, assemble_eq_nil, entries_compiled_eq_nil, entries_compiled_eq_nil, hentries, hentries, hfields,
      Contributes, not_or, not_or]

theorem compile_ne_nil_iff (allowed : String → Bool) (filter : Row) :
    compile allowed filter ≠ [] ↔ Contributes allowed filter := by
  rw [Ne, compile_eq_nil_iff, Classical.not_not]

/-- **The predicates of a filter hold of exactly the rows that it means.** -/
theorem satisfies_compile_iff (allowed : String → Bool) (row filter : Row) :
    row.satisfies (compile allowed filter) = true ↔ Means allowed row filter := by
  induction filter using induction with
  | step filter ih =>
    have hentry : ∀ key, ∀ f ∈ entries key filter,
        (Predicate.all (compile allowed f)).holds row = true ↔ Means allowed row f := by
      intro key f hf
      rw [Predicate.holds_all, ih key f hf]
    have hands : (∀ p ∈ (entries andKey filter).flatMap fun f => entry (compile allowed f), p.holds row = true) ↔
        ∀ f, ∀ _ : f ∈ entries andKey filter, Contributes allowed f → Means allowed row f := by
      constructor
      · intro h f hf hasks
        have hmem := mem_entries_compiled.2 ⟨f, hf, (compile_ne_nil_iff allowed f).2 hasks, rfl⟩
        exact (hentry andKey f hf).1 (h _ hmem)
      · intro h p hp
        obtain ⟨f, hf, hne, rfl⟩ := mem_entries_compiled.1 hp
        exact (hentry andKey f hf).2 (h f hf ((compile_ne_nil_iff allowed f).1 hne))
    have hnone : ((entries orKey filter).flatMap fun f => entry (compile allowed f)) ≠ [] ↔
        ∃ f ∈ entries orKey filter, Contributes allowed f := by
      rw [Ne, entries_compiled_eq_nil]
      simp only [compile_eq_nil_iff]
      grind
    have hors : (∃ p ∈ (entries orKey filter).flatMap fun f => entry (compile allowed f), p.holds row = true) ↔
        ∃ f, ∃ _ : f ∈ entries orKey filter, Contributes allowed f ∧ Means allowed row f := by
      constructor
      · rintro ⟨p, hp, hholds⟩
        obtain ⟨f, hf, hne, rfl⟩ := mem_entries_compiled.1 hp
        exact ⟨f, hf, (compile_ne_nil_iff allowed f).1 hne, (hentry orKey f hf).1 hholds⟩
      · rintro ⟨f, hf, hasks, hmeans⟩
        have hmem := mem_entries_compiled.2 ⟨f, hf, (compile_ne_nil_iff allowed f).2 hasks, rfl⟩
        exact ⟨_, hmem, (hentry orKey f hf).2 hmeans⟩
    have hfields : (∀ p ∈ filter.flatMap (compileField allowed), p.holds row = true) ↔
        ∀ field ∈ filter, ∀ test ∈ fieldTests allowed field, test (row.cell field.1) = true := by
      rw [List.forall_mem_flatMap]
      exact forall₂_congr fun field _ => forall_holds_compileField
    rw [compile_eq, satisfies_assemble, hands, hnone, hors, hfields, Means]

/-- **Compiling keeps the meaning**: the predicates of a filter hold of exactly the rows that are as it asks, and there
are none exactly when it asks for nothing. -/
theorem compile_means (allowed : String → Bool) (filter : Row) :
    (∀ row : Row, row.satisfies (compile allowed filter) = true ↔ Means allowed row filter) ∧
      (compile allowed filter = [] ↔ ¬Contributes allowed filter) :=
  ⟨fun row => satisfies_compile_iff allowed row filter, compile_eq_nil_iff allowed filter⟩

end Filter
end RecordService
