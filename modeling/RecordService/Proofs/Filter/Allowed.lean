import Mathlib.Data.List.Basic
import RecordService.Proofs.Filter.Group
/-!
# Allowed fields — what a filter may be about

A filter compiles to predicates about allowed fields only, and a field that is not allowed has no other effect either:
the filter compiles to what is left of it when every such field is taken out, at every depth, and all fields are allowed
(`compile_prune`).
-/
namespace RecordService

namespace Predicate

mutual
/-- Every field that the predicate names, at whatever depth. -/
def fields : Predicate → List String
  | .compare field _ _ => [field]
  | .oneOf field _ _ => [field]
  | .isNull field _ => [field]
  | .and group => fieldsOfAll group
  | .or group => fieldsOfAll group
termination_by structural p => p

def fieldsOfAll : List Predicate → List String
  | [] => []
  | p :: rest => fields p ++ fieldsOfAll rest
termination_by structural ps => ps
end

theorem mem_fieldsOfAll {field : String} : ∀ {group : List Predicate},
    field ∈ fieldsOfAll group ↔ ∃ p ∈ group, field ∈ p.fields
  | [] => by simp [fieldsOfAll]
  | p :: rest => by
    have ih : field ∈ fieldsOfAll rest ↔ ∃ p ∈ rest, field ∈ p.fields := mem_fieldsOfAll
    simp [fieldsOfAll, ih]

theorem mem_fields_all {field : String} {group : List Predicate} :
    field ∈ (all group).fields ↔ ∃ p ∈ group, field ∈ p.fields := by
  unfold all
  split
  · simp
  · exact mem_fieldsOfAll

theorem mem_fields_any {field : String} {group : List Predicate} :
    field ∈ (any group).fields ↔ ∃ p ∈ group, field ∈ p.fields := by
  unfold any
  split
  · simp
  · exact mem_fieldsOfAll

mutual
/-- The fields that a predicate names decide it, whatever else is in the row. -/
theorem holds_congr {row row' : Row} : ∀ p : Predicate,
    (∀ field ∈ p.fields, row.cell field = row'.cell field) → p.holds row = p.holds row'
  | .compare field op value, h => by
    rw [holds, holds, h field (List.mem_singleton_self field)]
  | .oneOf field values negated, h => by
    rw [holds, holds, h field (List.mem_singleton_self field)]
  | .isNull field negated, h => by
    rw [holds, holds, h field (List.mem_singleton_self field)]
  | .and group, h => (holds_congr_all group h).1
  | .or group, h => (holds_congr_all group h).2

theorem holds_congr_all {row row' : Row} : ∀ group : List Predicate,
    (∀ field ∈ fieldsOfAll group, row.cell field = row'.cell field) →
      allHold row group = allHold row' group ∧ someHold row group = someHold row' group
  | [], _ => ⟨rfl, rfl⟩
  | p :: rest, h => by
    have hp := holds_congr p fun field hfield => h field (List.mem_append_left _ hfield)
    have hrest := holds_congr_all rest fun field hfield => h field (List.mem_append_right _ hfield)
    exact ⟨by rw [allHold, allHold, hp, hrest.1], by rw [someHold, someHold, hp, hrest.2]⟩
end

theorem satisfies_congr {row row' : Row} {filter : List Predicate}
    (h : ∀ p ∈ filter, ∀ field ∈ p.fields, row.cell field = row'.cell field) :
    row.satisfies filter = row'.satisfies filter := by
  refine (holds_congr_all filter fun field hfield => ?_).1
  obtain ⟨p, hp, hmem⟩ := mem_fieldsOfAll.1 hfield
  exact h p hp field hmem

end Predicate

namespace Filter

def isGroupKey (key : String) : Bool := key = andKey || key = orKey

/-! ## Taking fields out -/

mutual
/-- The filter without the fields that are not allowed, at every depth of its groups. -/
def prune (allowed : String → Bool) : List (String × Json) → List (String × Json)
  | [] => []
  | (key, v) :: rest =>
    if isGroupKey key then (key, pruneGroup allowed v) :: prune allowed rest
    else if allowed key then (key, v) :: prune allowed rest
    else prune allowed rest
termination_by structural members => members

def pruneGroup (allowed : String → Bool) : Json → Json
  | .arr values => .arr (pruneEntries allowed values)
  | v => v
termination_by structural v => v

def pruneEntries (allowed : String → Bool) : List Json → List Json
  | [] => []
  | v :: rest => pruneEntry allowed v :: pruneEntries allowed rest
termination_by structural values => values

/-- Only an object is a filter. -/
def pruneEntry (allowed : String → Bool) : Json → Json
  | .obj members => .obj (prune allowed members)
  | v => v
termination_by structural v => v
end

variable {allowed : String → Bool}

theorem filterMap_pruneEntries : ∀ values : List Json,
    (pruneEntries allowed values).filterMap object? = (values.filterMap object?).map (prune allowed)
  | [] => rfl
  | v :: rest => by
    have ih := filterMap_pruneEntries rest
    rw [pruneEntries]
    cases v with
    | obj members =>
      have hobject : object? (pruneEntry allowed (.obj members)) = some (prune allowed members) := rfl
      rw [List.filterMap_cons_some hobject, ih]
      rfl
    | _ => exact ih

theorem get?_prune {key : String} (hkey : isGroupKey key = true) : ∀ filter : Row,
    Row.get? (prune allowed filter) key = (filter.get? key).map (pruneGroup allowed)
  | [] => rfl
  | (k, v) :: rest => by
    have ih := get?_prune hkey rest
    unfold prune
    by_cases hk : k = key
    · subst hk
      rw [if_pos hkey, Row.get?, if_pos rfl, Row.get?, if_pos rfl]
      rfl
    · rw [Row.get?, if_neg hk]
      split
      · rw [Row.get?, if_neg hk, ih]
      · split
        · rw [Row.get?, if_neg hk, ih]
        · exact ih

/-- **The entries of a pruned filter are the pruned entries.** -/
theorem entries_prune {key : String} (hkey : isGroupKey key = true) (filter : Row) :
    entries key (prune allowed filter) = (entries key filter).map (prune allowed) := by
  unfold entries
  rw [get?_prune hkey]
  cases filter.get? key with
  | none => rfl
  | some v =>
    cases v with
    | arr values => exact filterMap_pruneEntries values
    | _ => rfl

theorem compileField_of_allowed {field : String × Json} (h : allowed field.1 = true) :
    compileField (fun _ => true) field = compileField allowed field := by
  unfold compileField
  rw [h]

/-- A group is no field. -/
theorem compileField_of_isGroupKey {field : String × Json} (h : isGroupKey field.1 = true) :
    compileField allowed field = [] := by
  have hkey : (field.1 = andKey || field.1 = orKey) = true := h
  simp [compileField, hkey]

theorem fields_prune : ∀ filter : Row,
    (prune allowed filter).flatMap (compileField fun _ => true) = filter.flatMap (compileField allowed)
  | [] => rfl
  | (key, v) :: rest => by
    have ih := fields_prune rest
    unfold prune
    by_cases hgroup : isGroupKey key = true
    · rw [if_pos hgroup, List.flatMap_cons, List.flatMap_cons, compileField_of_isGroupKey hgroup,
        compileField_of_isGroupKey hgroup, ih]
    · rw [if_neg hgroup]
      by_cases hallowed : allowed key = true
      · rw [if_pos hallowed, List.flatMap_cons, List.flatMap_cons, compileField_of_allowed hallowed, ih]
      · have hnone : compileField allowed (key, v) = [] := by simp [compileField, hallowed]
        rw [if_neg hallowed, List.flatMap_cons, hnone, List.nil_append, ih]

theorem compile_eq_prune (allowed : String → Bool) (filter : Row) :
    compile allowed filter = compile (fun _ => true) (prune allowed filter) := by
  induction filter using induction with
  | step filter ih =>
    have hgroup : ∀ key, isGroupKey key = true →
        ((entries key (prune allowed filter)).flatMap fun f => entry (compile (fun _ => true) f)) =
          (entries key filter).flatMap fun f => entry (compile allowed f) := by
      intro key hkey
      rw [entries_prune hkey, List.flatMap_map]
      exact List.flatMap_congr fun f hf => by rw [ih key f hf]
    rw [compile_eq allowed filter, compile_eq _ (prune allowed filter), hgroup andKey rfl, hgroup orKey rfl, fields_prune]

/-! ## The fields of predicates -/

theorem fields_of_comparison {name : String} {op : Comparison} {operand : Json} {p : Predicate}
    (h : comparison name op operand = some p) : p.fields = [name] := by
  unfold comparison at h
  split at h
  · cases h
  · cases h
    rfl

theorem fields_of_compileOperator {name : String} {op : String × Json} {p : Predicate}
    (h : compileOperator name op = some p) : p.fields = [name] := by
  have hlist : ∀ negated, ((operandList op.2).map fun values => Predicate.oneOf name values negated) = some p →
      p.fields = [name] := by
    intro negated hmap
    obtain ⟨values, -, rfl⟩ := Option.map_eq_some_iff.1 hmap
    rfl
  have hnull : ∀ negated op', (if op.2.isNull then some (.isNull name negated) else comparison name op' op.2) = some p →
      p.fields = [name] := by
    intro negated op' hif
    split at hif
    · cases hif
      rfl
    · exact fields_of_comparison hif
  unfold compileOperator at h
  split at h
  · exact hnull _ _ h
  · exact hnull _ _ h
  · exact fields_of_comparison h
  · exact fields_of_comparison h
  · exact fields_of_comparison h
  · exact fields_of_comparison h
  · exact fields_of_comparison h
  · exact fields_of_comparison h
  · exact hlist _ h
  · exact hlist _ h
  · cases h

theorem fields_of_compileValue {name : String} {v : Json} {p : Predicate} (h : p ∈ compileValue name v) :
    p.fields = [name] := by
  cases v with
  | null => cases h
  | arr values => cases h
  | obj operators =>
    obtain ⟨op, -, hop⟩ := List.mem_filterMap.1 h
    exact fields_of_compileOperator hop
  | _ =>
    cases List.mem_singleton.1 h
    rfl

theorem fields_of_compileField {field : String × Json} {p : Predicate} (h : p ∈ compileField allowed field) :
    allowed field.1 = true ∧ p.fields = [field.1] := by
  unfold compileField at h
  split at h
  · cases h
  · rename_i hkept
    exact ⟨by simp_all, fields_of_compileValue h⟩

/-- **A filter names no field that is not allowed.** -/
theorem allowed_of_mem_compile (allowed : String → Bool) (filter : Row) :
    ∀ p ∈ compile allowed filter, ∀ field ∈ p.fields, allowed field = true := by
  induction filter using induction with
  | step filter ih =>
    have hentries : ∀ key, ∀ p ∈ (entries key filter).flatMap fun f => entry (compile allowed f),
        ∀ field ∈ p.fields, allowed field = true := by
      intro key p hp field hfield
      obtain ⟨f, hf, -, rfl⟩ := mem_entries_compiled.1 hp
      obtain ⟨q, hq, hname⟩ := Predicate.mem_fields_all.1 hfield
      exact ih key f hf q hq field hname
    intro p hp field hfield
    rw [compile_eq] at hp
    rcases mem_assemble.1 hp with ⟨-, rfl⟩ | ⟨-, rfl⟩ | hp
    · obtain ⟨q, hq, hname⟩ := Predicate.mem_fields_all.1 hfield
      exact hentries andKey q hq field hname
    · obtain ⟨q, hq, hname⟩ := Predicate.mem_fields_any.1 hfield
      exact hentries orKey q hq field hname
    · obtain ⟨member, -, hmember⟩ := List.mem_flatMap.1 hp
      obtain ⟨hallowed, hfields⟩ := fields_of_compileField hmember
      rw [hfields, List.mem_singleton] at hfield
      rw [hfield]
      exact hallowed

/-- **Fields that are not allowed have no effect**: no predicate of a filter names one, and the filter compiles to what
it does without them when everything is allowed. -/
theorem compile_prune (allowed : String → Bool) (filter : Row) :
    (∀ p ∈ compile allowed filter, ∀ field ∈ p.fields, allowed field = true) ∧
      compile allowed filter = compile (fun _ => true) (prune allowed filter) :=
  ⟨allowed_of_mem_compile allowed filter, compile_eq_prune allowed filter⟩

end Filter

end RecordService
