import RecordService.Proofs.Filter.Allowed
import RecordService.Proofs.Filter.Meaning
/-!
# Normal form — what the predicates of a filter look like

In normal form every group has two members at least and nothing is compared with null (`Predicate.Normal`), so that no
group is true or false of all rows for want of members.  The conditions of a filter are read off its JSON, the groups
of a level before its fields (`Filter.conditions`).  A filter compiles to predicates in normal form, and their leaves from
left to right are the conditions that can be used, in this order (`Filter.compile_normal`).
-/
namespace RecordService

namespace Predicate

/-! ## Groups -/

/-- **Every group, at whatever depth, has two members at least, and nothing is compared with null.** -/
inductive Normal : Predicate → Prop where
  | compare {field : String} {op : Comparison} {value : Json} : value.isNull = false → Normal (.compare field op value)
  | oneOf (field : String) (values : List Json) (negated : Bool) : Normal (.oneOf field values negated)
  | isNull (field : String) (negated : Bool) : Normal (.isNull field negated)
  | and {group : List Predicate} : 2 ≤ group.length → (∀ p ∈ group, Normal p) → Normal (.and group)
  | or {group : List Predicate} : 2 ≤ group.length → (∀ p ∈ group, Normal p) → Normal (.or group)

variable {group : List Predicate}

theorem eq_singleton_or_two_le (hsome : group ≠ []) : (∃ p, group = [p]) ∨ 2 ≤ group.length := by
  match group with
  | [] => exact absurd rfl hsome
  | [p] => exact .inl ⟨p, rfl⟩
  | p :: q :: rest => exact .inr (by simp)

theorem all_of_two_le (h : 2 ≤ group.length) : all group = .and group := by
  unfold all
  split
  · simp at h
  · rfl

theorem any_of_two_le (h : 2 ≤ group.length) : any group = .or group := by
  unfold any
  split
  · simp at h
  · rfl

/-- What is put together from some predicates in normal form is in normal form. -/
theorem Normal.all (hsome : group ≠ []) (h : ∀ p ∈ group, p.Normal) : (all group).Normal := by
  obtain ⟨p, rfl⟩ | htwo := eq_singleton_or_two_le hsome
  · exact h p (List.mem_singleton_self p)
  · rw [all_of_two_le htwo]
    exact .and htwo h

theorem Normal.any (hsome : group ≠ []) (h : ∀ p ∈ group, p.Normal) : (any group).Normal := by
  obtain ⟨p, rfl⟩ | htwo := eq_singleton_or_two_le hsome
  · exact h p (List.mem_singleton_self p)
  · rw [any_of_two_le htwo]
    exact .or htwo h

/-! ## Leaves -/

mutual
/-- The predicates about one field each that the predicate is made of, from left to right. -/
def leaves : Predicate → List Predicate
  | .compare field op value => [.compare field op value]
  | .oneOf field values negated => [.oneOf field values negated]
  | .isNull field negated => [.isNull field negated]
  | .and group => leavesOfAll group
  | .or group => leavesOfAll group
termination_by structural p => p

def leavesOfAll : List Predicate → List Predicate
  | [] => []
  | p :: rest => leaves p ++ leavesOfAll rest
termination_by structural ps => ps
end

theorem leavesOfAll_eq : ∀ group : List Predicate, leavesOfAll group = group.flatMap leaves
  | [] => rfl
  | p :: rest => by rw [leavesOfAll, leavesOfAll_eq rest, List.flatMap_cons]

theorem leaves_all (group : List Predicate) : (all group).leaves = group.flatMap leaves := by
  unfold all
  split
  · simp
  · exact leavesOfAll_eq group

theorem leaves_any (group : List Predicate) : (any group).leaves = group.flatMap leaves := by
  unfold any
  split
  · simp
  · exact leavesOfAll_eq group

theorem flatMap_leaves_of_leaves {ps : List Predicate} (h : ∀ p ∈ ps, p.leaves = [p]) : ps.flatMap leaves = ps := by
  rw [List.flatMap_congr h, List.flatMap_singleton']

/-- A predicate in normal form asks for something. -/
theorem Normal.leaves_ne_nil {p : Predicate} (h : p.Normal) : p.leaves ≠ [] := by
  have hgroup : ∀ group : List Predicate, 2 ≤ group.length → (∀ q ∈ group, q.leaves ≠ []) → leavesOfAll group ≠ [] := by
    intro group htwo hmembers hnil
    obtain ⟨q, hq⟩ := List.exists_mem_of_length_pos (Nat.lt_of_lt_of_le Nat.zero_lt_two htwo)
    rw [leavesOfAll_eq, List.flatMap_eq_nil_iff] at hnil
    exact hmembers q hq (hnil q hq)
  induction h with
  | compare _ => exact List.cons_ne_nil _ _
  | oneOf _ _ _ => exact List.cons_ne_nil _ _
  | isNull _ _ => exact List.cons_ne_nil _ _
  | and htwo _ ih => exact hgroup _ htwo ih
  | or htwo _ ih => exact hgroup _ htwo ih

end Predicate

namespace Filter

/-! ## Conditions -/

/-- One condition of a filter as it is written: a field, an operator and its operand. -/
structure Condition where
  field : String
  operator : String
  operand : Json

/-- What the condition is as a predicate, unless its operator is unknown or cannot use its operand. -/
def Condition.predicate? (c : Condition) : Option Predicate :=
  match c.operator, c.operand with
  | "equals", .null => some (.isNull c.field false)
  | "not", .null => some (.isNull c.field true)
  | _, .null => none
  | "in", .arr values => some (.oneOf c.field values false)
  | "in", value => some (.oneOf c.field [value] false)
  | "notIn", .arr values => some (.oneOf c.field values true)
  | "notIn", value => some (.oneOf c.field [value] true)
  | name, value => (comparisonNamed? name).map fun op => .compare c.field op value

/-- The predicate of a condition on a field that may be filtered by. -/
def Condition.leaf? (allowed : String → Bool) (c : Condition) : Option Predicate :=
  if allowed c.field then c.predicate? else none

/-- The conditions on a field: an object holds operators, a literal is an operand of `equals`, and null and arrays hold
none. -/
def conditionsOn : String × Json → List Condition
  | (_, .null) => []
  | (_, .arr _) => []
  | (field, .obj operators) => operators.map fun (operator, operand) => ⟨field, operator, operand⟩
  | (field, literal) => [⟨field, "equals", literal⟩]

/-- **All conditions of a filter in their order**: on each level those of the `AND` entries, those of the `OR` entries and
those on its fields, all of them as they are declared. -/
def conditions (filter : Row) : List Condition :=
  (entries andKey filter).attach.flatMap (fun f => conditions f.1) ++
    (entries orKey filter).attach.flatMap (fun f => conditions f.1) ++
    (filter.filter fun field => !isGroupKey field.1).flatMap conditionsOn
termination_by sizeOf filter
decreasing_by
  · exact sizeOf_lt_of_mem_entries f.2
  · exact sizeOf_lt_of_mem_entries f.2

theorem conditions_eq (filter : Row) : conditions filter =
    (entries andKey filter).flatMap conditions ++ (entries orKey filter).flatMap conditions ++
      (filter.filter fun field => !isGroupKey field.1).flatMap conditionsOn := by
  rw [conditions]
  simp only [List.flatMap_subtype, List.unattach_attach]

/-! ## Fields -/

theorem compileOperator_eq (field : String) (op : String × Json) :
    compileOperator field op = Condition.predicate? ⟨field, op.1, op.2⟩ := by
  obtain ⟨name, operand⟩ := op
  by_cases hknown : name ∈ operatorNames
  · simp only [operatorNames, List.mem_cons, List.not_mem_nil, or_false] at hknown
    rcases hknown with rfl | rfl | rfl | rfl | rfl | rfl | rfl | rfl | rfl | rfl
    all_goals
      cases operand <;> simp [compileOperator, Condition.predicate?, comparison, comparisonNamed?, operandList, Json.isNull]
  · rw [compileOperator_unknown hknown]
    simp only [operatorNames, List.mem_cons, List.not_mem_nil, or_false, not_or] at hknown
    unfold Condition.predicate?
    split <;> simp_all [comparisonNamed?]

theorem compileField_eq (allowed : String → Bool) (field : String × Json) (hfield : isGroupKey field.1 = false) :
    compileField allowed field = (conditionsOn field).filterMap (Condition.leaf? allowed) := by
  obtain ⟨name, value⟩ := field
  have hname : (name = andKey || name = orKey) = false := hfield
  unfold compileField
  by_cases hallowed : allowed name = true
  · rw [if_neg (by simp [hname, hallowed])]
    cases value with
    | obj operators =>
      rw [compileValue, conditionsOn, List.filterMap_map]
      refine List.filterMap_congr fun op _ => ?_
      simp [compileOperator_eq, Condition.leaf?, hallowed]
    | _ => simp [compileValue, conditionsOn, Condition.leaf?, Condition.predicate?, comparisonNamed?, hallowed, Predicate.eq]
  · rw [if_pos (by simp [hallowed])]
    cases value <;> simp [conditionsOn, Condition.leaf?, hallowed]

/-- The predicate of a condition is a leaf, and in normal form. -/
theorem Condition.of_predicate? {c : Condition} {p : Predicate} (h : c.predicate? = some p) :
    p.Normal ∧ p.leaves = [p] := by
  have hlist : ∀ values negated, some (Predicate.oneOf c.field values negated) = some p → p.Normal ∧ p.leaves = [p] := by
    rintro values negated ⟨⟩
    exact ⟨.oneOf _ _ _, rfl⟩
  have hnull : ∀ negated, some (Predicate.isNull c.field negated) = some p → p.Normal ∧ p.leaves = [p] := by
    rintro negated ⟨⟩
    exact ⟨.isNull _ _, rfl⟩
  unfold predicate? at h
  split at h
  · exact hnull _ h
  · exact hnull _ h
  · cases h
  · exact hlist _ _ h
  · exact hlist _ _ h
  · exact hlist _ _ h
  · exact hlist _ _ h
  · -- null has been dealt with by the third case
    rename_i hsome _ _ _ _
    obtain ⟨op, -, rfl⟩ := Option.map_eq_some_iff.1 h
    refine ⟨.compare ?_, rfl⟩
    cases hoperand : c.operand with
    | null => exact absurd hoperand hsome
    | _ => rfl

theorem of_mem_compileField {allowed : String → Bool} {field : String × Json} {p : Predicate}
    (h : p ∈ compileField allowed field) : p.Normal ∧ p.leaves = [p] := by
  cases hfield : isGroupKey field.1 with
  | true =>
    rw [compileField_of_isGroupKey hfield] at h
    cases h
  | false =>
    rw [compileField_eq allowed field hfield] at h
    obtain ⟨c, -, hc⟩ := List.mem_filterMap.1 h
    unfold Condition.leaf? at hc
    split at hc
    · exact Condition.of_predicate? hc
    · cases hc

theorem fields_eq (allowed : String → Bool) (filter : Row) : filter.flatMap (compileField allowed) =
    ((filter.filter fun field => !isGroupKey field.1).flatMap conditionsOn).filterMap (Condition.leaf? allowed) := by
  induction filter with
  | nil => rfl
  | cons field rest ih =>
    rw [List.flatMap_cons, ih, List.filter_cons]
    cases hfield : isGroupKey field.1 with
    | false =>
      rw [Bool.not_false, if_pos rfl, List.flatMap_cons, List.filterMap_append, compileField_eq allowed field hfield]
    | true =>
      rw [Bool.not_true, if_neg Bool.false_ne_true, compileField_of_isGroupKey hfield, List.nil_append]

/-! ## Levels -/

variable {allowed : String → Bool}

/-- The leaves of entries are the leaves of what each of them compiles to. -/
theorem leaves_entries (fs : List Row) : (fs.flatMap fun f => entry (compile allowed f)).flatMap Predicate.leaves =
    fs.flatMap fun f => (compile allowed f).flatMap Predicate.leaves := by
  rw [List.flatMap_assoc]
  refine List.flatMap_congr fun f _ => ?_
  cases hf : compile allowed f with
  | nil => rfl
  | cons p ps => simp [entry, Predicate.leaves_all]

theorem leaves_assemble (ands ors fields : List Predicate) : (assemble ands ors fields).flatMap Predicate.leaves =
    ands.flatMap Predicate.leaves ++ ors.flatMap Predicate.leaves ++ fields.flatMap Predicate.leaves := by
  unfold assemble
  cases ands with
  | nil => cases ors <;> simp [Predicate.leaves_any]
  | cons a as => cases ors <;> simp [Predicate.leaves_all, Predicate.leaves_any]

/-- **The leaves of the predicates are the conditions of the filter, as far as they can be used.** -/
theorem leaves_compile (allowed : String → Bool) (filter : Row) :
    (compile allowed filter).flatMap Predicate.leaves = (conditions filter).filterMap (Condition.leaf? allowed) := by
  induction filter using induction with
  | step filter ih =>
    have hentries : ∀ key, ((entries key filter).flatMap fun f => entry (compile allowed f)).flatMap Predicate.leaves =
        ((entries key filter).flatMap conditions).filterMap (Condition.leaf? allowed) := by
      intro key
      rw [leaves_entries, List.filterMap_flatMap]
      exact List.flatMap_congr (ih key)
    have hfields : (filter.flatMap (compileField allowed)).flatMap Predicate.leaves =
        filter.flatMap (compileField allowed) := by
      refine Predicate.flatMap_leaves_of_leaves fun p hp => ?_
      obtain ⟨field, -, hfield⟩ := List.mem_flatMap.1 hp
      exact (of_mem_compileField hfield).2
    rw [compile_eq, leaves_assemble, hentries, hentries, hfields, fields_eq, conditions_eq, List.filterMap_append,
      List.filterMap_append]

theorem normal_compile (allowed : String → Bool) (filter : Row) : ∀ p ∈ compile allowed filter, p.Normal := by
  induction filter using induction with
  | step filter ih =>
    have hentries : ∀ key, ∀ p ∈ (entries key filter).flatMap fun f => entry (compile allowed f), p.Normal := by
      intro key p hp
      obtain ⟨f, hf, hsome, rfl⟩ := mem_entries_compiled.1 hp
      exact .all hsome (ih key f hf)
    intro p hp
    rw [compile_eq] at hp
    rcases mem_assemble.1 hp with ⟨hsome, rfl⟩ | ⟨hsome, rfl⟩ | hp
    · exact .all hsome (hentries andKey)
    · exact .any hsome (hentries orKey)
    · obtain ⟨field, -, hfield⟩ := List.mem_flatMap.1 hp
      exact (of_mem_compileField hfield).1

/-- **A filter compiles to normal form.**  Its groups have two members at least, and nothing is compared with null; the
leaves are the conditions of the filter that can be used, in their order; and where none can be used no predicate is left
behind, be it true or false. -/
theorem compile_normal (allowed : String → Bool) (filter : Row) :
    (∀ p ∈ compile allowed filter, p.Normal) ∧
      (compile allowed filter).flatMap Predicate.leaves = (conditions filter).filterMap (Condition.leaf? allowed) ∧
      (compile allowed filter = [] ↔ ∀ c ∈ conditions filter, c.leaf? allowed = none) := by
  refine ⟨normal_compile allowed filter, leaves_compile allowed filter, ?_⟩
  rw [← List.filterMap_eq_nil_iff, ← leaves_compile, List.flatMap_eq_nil_iff]
  constructor
  · intro hnil p hp
    rw [hnil] at hp
    cases hp
  · intro hnone
    refine List.eq_nil_iff_forall_not_mem.2 fun p hp => ?_
    exact (normal_compile allowed filter p hp).leaves_ne_nil (hnone p hp)

end Filter

end RecordService
