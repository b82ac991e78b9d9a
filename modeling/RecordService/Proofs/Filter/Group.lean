import RecordService.Proofs.Basic
import RecordService.Query.Filter
/-!
# Groups — the filters inside a filter

The entries of a group are the objects in the array under its key, and whatever else stands there is passed over.  A
filter compiles to what its entries compile to, put together level by level (`compile_eq`); entries are smaller than the
filter they are in, so that a fact about all filters follows when it carries over from the entries (`induction`).
-/
namespace RecordService.Filter

def object? : Json → Option Row
  | .obj members => some members
  | _ => none

/-- The filters in the group under the key. -/
def entries (key : String) (filter : Row) : List Row :=
  match filter.get? key with
  | some (.arr values) => values.filterMap object?
  | _ => []

variable {allowed : String → Bool}

theorem groupEntries_eq : ∀ values : List Json,
    groupEntries allowed values = (values.filterMap object?).flatMap fun f => entry (compile allowed f)
  | [] => rfl
  | v :: rest => by
    have ih := groupEntries_eq rest
    rw [groupEntries, ih]
    cases v with
    | obj members => rfl
    | _ => rfl

theorem groupAt_eq (key : String) : ∀ filter : Row,
    groupAt allowed key filter = (entries key filter).flatMap fun f => entry (compile allowed f)
  | [] => rfl
  | (k, v) :: rest => by
    unfold groupAt entries Row.get?
    by_cases hk : k = key
    · rw [if_pos hk, if_pos hk]
      cases v with
      | arr values => exact groupEntries_eq values
      | _ => rfl
    · rw [if_neg hk, if_neg hk]
      exact groupAt_eq key rest

/-- **A level of a filter**: the groups, each of its entries compiled by itself, and the fields. -/
theorem compile_eq (allowed : String → Bool) (filter : Row) : compile allowed filter =
    assemble ((entries andKey filter).flatMap fun f => entry (compile allowed f))
      ((entries orKey filter).flatMap fun f => entry (compile allowed f)) (filter.flatMap (compileField allowed)) := by
  rw [← groupAt_eq, ← groupAt_eq]
  rfl

/-! ## From the entries to the filter -/

theorem sizeOf_lt_of_mem_entries {key : String} {f filter : Row} (h : f ∈ entries key filter) :
    sizeOf f < sizeOf filter := by
  unfold entries at h
  split at h
  · rename_i values hget
    obtain ⟨v, hv, hobject⟩ := List.mem_filterMap.1 h
    cases v with
    | obj members =>
      cases hobject
      have hvalue := List.sizeOf_lt_of_mem hv
      have hmember := List.sizeOf_lt_of_mem (Row.mem_of_get? hget)
      simp only [Json.obj.sizeOf_spec] at hvalue
      simp only [Prod.mk.sizeOf_spec, Json.arr.sizeOf_spec] at hmember
      omega
    | _ => cases hobject
  · cases h

/-- What holds of a filter whenever it holds of its entries holds of every filter. -/
theorem induction {motive : Row → Prop}
    (step : ∀ filter, (∀ key, ∀ f ∈ entries key filter, motive f) → motive filter) (filter : Row) : motive filter :=
  step filter fun _ f _ => induction step f
termination_by sizeOf filter
decreasing_by exact sizeOf_lt_of_mem_entries ‹_›

/-! ## What a level is made of -/

theorem mem_entries_compiled {fs : List Row} {p : Predicate} :
    p ∈ fs.flatMap (fun f => entry (compile allowed f)) ↔
      ∃ f ∈ fs, compile allowed f ≠ [] ∧ p = .all (compile allowed f) := by
  have hentry : ∀ parts : List Predicate, p ∈ entry parts ↔ parts ≠ [] ∧ p = .all parts := by
    intro parts
    cases parts with
    | nil => simp [entry]
    | cons q qs => simp [entry]
  simp only [List.mem_flatMap, hentry]

theorem entries_compiled_eq_nil {fs : List Row} :
    fs.flatMap (fun f => entry (compile allowed f)) = [] ↔ ∀ f ∈ fs, compile allowed f = [] := by
  have hentry : ∀ parts : List Predicate, entry parts = [] ↔ parts = [] := by
    intro parts
    cases parts with
    | nil => simp [entry]
    | cons q qs => simp [entry]
  simp only [List.flatMap_eq_nil_iff, hentry]

theorem mem_assemble {ands ors fields : List Predicate} {p : Predicate} : p ∈ assemble ands ors fields ↔
    (ands ≠ [] ∧ p = .all ands) ∨ (ors ≠ [] ∧ p = .any ors) ∨ p ∈ fields := by
  unfold assemble
  cases ands with
  | nil => cases ors <;> simp
  | cons a as => cases ors <;> simp

theorem assemble_eq_nil {ands ors fields : List Predicate} :
    assemble ands ors fields = [] ↔ ands = [] ∧ ors = [] ∧ fields = [] := by
  unfold assemble
  cases ands with
  | nil => cases ors <;> simp
  | cons a as => cases ors <;> simp

end RecordService.Filter
