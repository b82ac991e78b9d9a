import Mathlib.Data.List.Forall2
import RecordService.Proofs.Record.Obedience
/-!
# Violations — what is wrong with a payload, column by column

What a payload may do wrong about a column is said without any order of checking (`Entity.Violates`).  The validator finds
the members that are refused (`mem_memberIssues_iff`), then the columns that are missing (`mem_missingIssues_iff`), then
what the rules complain about (`mem_ruleIssues_iff`), and looks each time only at what is left.  All the same it accepts a
payload exactly when no column is violated, and names exactly the columns that are (`Entity.names_violations`).
-/
namespace RecordService

/-! ## Values and verdicts -/

theorem Json.isNull_iff {v : Json} : v.isNull = true ↔ v = .null := by cases v <;> simp [Json.isNull]

/-- No identifier is null, nor is null read as one. -/
theorem IdType.ne_null_of_parse {t : IdType} {given v : Json} (h : t.parse given = .ok v) : v ≠ .null := by
  rcases scalar_of_parse h with ⟨s, rfl⟩ | ⟨n, rfl⟩ <;> simp

theorem IdType.parse_null (t : IdType) : ∃ message, t.parse .null = .error message := by
  cases t <;> exact ⟨_, rfl⟩

namespace Verdict

theorem kept?_ofExcept_iff {x : Except String Json} {w : Json} : (ofExcept x).kept? = some w ↔ x = .ok w := by
  cases x <;> simp [ofExcept, kept?]

theorem refusal?_ofExcept_iff {x : Except String Json} {message : String} :
    (ofExcept x).refusal? = some message ↔ x = .error message := by
  cases x <;> simp [ofExcept, refusal?]

end Verdict

namespace Entity

variable {e : Entity} {payload : Payload} {body kept : Row} {name : String} {c : Column} {v : Json}

/-! ## What is asked of a payload -/

/-- A record has to hold the column, for nobody else fills it. -/
structure Demands (e : Entity) (c : Column) : Prop where
  column : c ∈ e.columns
  nullable : c.nullable = false
  hasDefault : c.hasDefault = false
  idField : c.name ≠ e.idField
  createdAt : e.createdAt ≠ some c.name
  updatedAt : e.updatedAt ≠ some c.name
  softDelete : ∀ s, e.softDelete = some s → s.field ≠ c.name

/-- The value that a member stands for: the identifier of a record in the form of its type, another value as it is. -/
inductive StandsFor (e : Entity) (payload : Payload) (name : String) (given v : Json) : Prop where
  | identifier : payload = .record → name = e.idField → e.idType.parse given = .ok v → StandsFor e payload name given v
  | value : name ≠ e.idField → given = v → StandsFor e payload name given v

/-- The payload gives the value for the column. -/
def Gives (e : Entity) (payload : Payload) (body : Row) (name : String) (v : Json) : Prop :=
  ∃ given, (name, given) ∈ body ∧ e.StandsFor payload name given v

/-- **The payload violates what is asked of the column.** -/
inductive Violates (e : Entity) (payload : Payload) (body : Row) (name : String) : Prop where
  /-- What is given for the identifier of a record is no identifier. -/
  | identifier {given : Json} {message : String} : payload = .record → name = e.idField → (name, given) ∈ body →
      e.idType.parse given = .error message → Violates e payload body name
  /-- Null is given where it may not stand. -/
  | null {c : Column} : c ∈ e.columns → c.name = name → name ≠ e.idField → c.nullable = false →
      (name, .null) ∈ body → Violates e payload body name
  /-- A record lacks a column that it has to hold. -/
  | missing {c : Column} : payload = .record → e.Demands c → c.name = name → name ∉ body.keys → Violates e payload body name
  /-- A record has no value, or null, where a rule requires one. -/
  | required {r : Rule} : payload = .record → (name, r) ∈ e.rules → r.required = some true →
      (∀ v, (name, v) ∈ body → v = .null) → Violates e payload body name
  /-- A value does not satisfy a rule. -/
  | rule {r : Rule} {v : Json} : (name, r) ∈ e.rules → e.Gives payload body name v → v ≠ .null → ¬r.Satisfied v →
      Violates e payload body name

/-- The members that are to be kept: those of columns, but for the identifier among changes. -/
def known (e : Entity) (payload : Payload) (body : Row) : Row :=
  body.filter fun m => e.hasColumn m.1 && (payload == .record || m.1 != e.idField)

/-- The member is kept under its name, with the value that it stands for. -/
def KeptAs (e : Entity) (payload : Payload) (given kept : String × Json) : Prop :=
  kept.1 = given.1 ∧ e.StandsFor payload given.1 given.2 kept.2

/-! ## Members -/

theorem needs_iff (hc : c ∈ e.columns) : e.needs c = true ↔ e.Demands c := by
  have hmanaged : e.isManaged c.name = false ↔ c.name ≠ e.idField ∧ e.createdAt ≠ some c.name ∧
      e.updatedAt ≠ some c.name ∧ ∀ s, e.softDelete = some s → s.field ≠ c.name := by
    cases hs : e.softDelete <;> simp [isManaged, hs, and_assoc]
  unfold needs
  rw [Bool.and_eq_true, Bool.and_eq_true, Bool.not_eq_true', Bool.not_eq_true', Bool.not_eq_true', hmanaged]
  constructor
  · rintro ⟨⟨hnullable, hdefault⟩, hid, hcreated, hupdated, hsoft⟩
    exact ⟨hc, hnullable, hdefault, hid, hcreated, hupdated, hsoft⟩
  · intro h
    exact ⟨⟨h.nullable, h.hasDefault⟩, h.idField, h.createdAt, h.updatedAt, h.softDelete⟩

theorem judge_unknown (h : e.hasColumn name = false) (v : Json) : e.judge payload name v = .pass := by
  unfold hasColumn at h
  unfold judge
  rw [Option.not_isSome_iff_eq_none.1 (Bool.eq_false_iff.1 h)]

theorem judge_changes_id (v : Json) : e.judge .changes e.idField v = .pass := by
  unfold judge
  cases e.column? e.idField with
  | none => rfl
  | some c => exact if_pos rfl

theorem judge_column (h : e.Orderly) (hc : c ∈ e.columns) (hid : c.name ≠ e.idField) (v : Json) :
    e.judge payload c.name v = if v.isNull && !c.nullable then .refuse "must not be null" else .keep v := by
  unfold judge column?
  rw [findColumn_of_mem h.columns hc]
  exact if_neg hid

theorem exists_column (h : e.hasColumn name = true) : ∃ c ∈ e.columns, c.name = name :=
  List.mem_map.1 ((hasColumn_iff e name).1 h)

theorem hasColumn_of_mem (hc : c ∈ e.columns) : e.hasColumn c.name = true :=
  (hasColumn_iff e c.name).2 (List.mem_map_of_mem hc)

/-- How a member is judged: it is passed over, or is an identifier, or a value for another column. -/
theorem judge_cases (h : e.Orderly) (payload : Payload) (name : String) (v : Json) :
    (e.judge payload name v = .pass ∧ (e.hasColumn name = false ∨ payload = .changes ∧ name = e.idField)) ∨
      (e.judge payload name v = .ofExcept (e.idType.parse v) ∧ payload = .record ∧ name = e.idField) ∨
      ∃ c ∈ e.columns, c.name = name ∧ name ≠ e.idField ∧
        e.judge payload name v = if v.isNull && !c.nullable then .refuse "must not be null" else .keep v := by
  by_cases hcolumn : e.hasColumn name = true
  · by_cases hid : name = e.idField
    · subst hid
      cases payload with
      | record => exact .inr (.inl ⟨judge_id hcolumn v, rfl, rfl⟩)
      | changes => exact .inl ⟨judge_changes_id v, .inr ⟨rfl, rfl⟩⟩
    · obtain ⟨c, hc, rfl⟩ := exists_column hcolumn
      exact .inr (.inr ⟨c, hc, rfl, hid, judge_column h hc hid v⟩)
  · have hunknown := Bool.eq_false_iff.2 hcolumn
    exact .inl ⟨judge_unknown hunknown v, .inl hunknown⟩

theorem StandsFor.not_passed {w : Json} (hw : e.StandsFor payload name v w) : ¬(payload = .changes ∧ name = e.idField) := by
  rintro ⟨rfl, hid⟩
  cases hw with
  | identifier hpayload => cases hpayload
  | value hname => exact hname hid

theorem eq_of_name (h : e.Orderly) {c c' : Column} (hc : c ∈ e.columns) (hc' : c' ∈ e.columns)
    (hname : c'.name = c.name) : c' = c := by
  have hfind := findColumn_of_mem h.columns hc'
  rw [hname, findColumn_of_mem h.columns hc] at hfind
  exact (Option.some.inj hfind).symm

/-- **A member is kept where it stands for a value of a column**, unless that is null where null may not stand. -/
theorem kept?_judge_iff (h : e.Orderly) {w : Json} : (e.judge payload name v).kept? = some w ↔
    e.StandsFor payload name v w ∧ ∃ c ∈ e.columns, c.name = name ∧ (w = .null → c.nullable = true) := by
  rcases judge_cases h payload name v with ⟨hjudge, hpass⟩ | ⟨hjudge, rfl, rfl⟩ | ⟨c, hc, rfl, hid, hjudge⟩
  · rw [hjudge]
    refine ⟨fun hkept => (by cases hkept), ?_⟩
    rintro ⟨hw, c, hc, rfl, -⟩
    rcases hpass with hunknown | hpass
    · rw [hasColumn_of_mem hc] at hunknown
      cases hunknown
    · exact absurd hpass hw.not_passed
  · rw [hjudge, Verdict.kept?_ofExcept_iff]
    constructor
    · intro hparse
      obtain ⟨c, hc, hname⟩ := exists_column h.idField
      exact ⟨.identifier rfl rfl hparse, c, hc, hname, fun hnull => absurd hnull (IdType.ne_null_of_parse hparse)⟩
    · rintro ⟨⟨-, -, hparse⟩ | ⟨hid, -⟩, -⟩
      · exact hparse
      · exact absurd rfl hid
  · have hvalue : e.StandsFor payload c.name v w ↔ v = w := by
      refine ⟨fun hw => ?_, .value hid⟩
      cases hw with
      | identifier _ hname => exact absurd hname hid
      | value _ hw => exact hw
    have hcolumn : (∃ c' ∈ e.columns, c'.name = c.name ∧ (w = .null → c'.nullable = true)) ↔
        (w = .null → c.nullable = true) := by
      refine ⟨?_, fun hnullable => ⟨c, hc, rfl, hnullable⟩⟩
      rintro ⟨c', hc', hname, hnullable⟩
      exact eq_of_name h hc hc' hname ▸ hnullable
    rw [hjudge, hvalue, hcolumn]
    split
    · rename_i hrefused
      obtain ⟨hnull, hnot⟩ := Bool.and_eq_true_iff.1 hrefused
      refine ⟨fun hkept => (by cases hkept), ?_⟩
      rintro ⟨rfl, hnullable⟩
      rw [hnullable (Json.isNull_iff.1 hnull)] at hnot
      cases hnot
    · rename_i hallowed
      rw [Bool.and_eq_true, not_and, Json.isNull_iff] at hallowed
      simp only [Verdict.kept?, Option.some.injEq]
      refine ⟨?_, And.left⟩
      rintro rfl
      exact ⟨rfl, by simpa using hallowed⟩

/-- **A member is refused where it is no identifier**, or null where null may not stand. -/
theorem refusal?_judge_iff (h : e.Orderly) : (∃ message, (e.judge payload name v).refusal? = some message) ↔
    (payload = .record ∧ name = e.idField ∧ ∃ message, e.idType.parse v = .error message) ∨
      name ≠ e.idField ∧ v = .null ∧ ∃ c ∈ e.columns, c.name = name ∧ c.nullable = false := by
  rcases judge_cases h payload name v with ⟨hjudge, hpass⟩ | ⟨hjudge, rfl, rfl⟩ | ⟨c, hc, rfl, hid, hjudge⟩
  · rw [hjudge]
    refine ⟨fun ⟨message, hmessage⟩ => (by cases hmessage), ?_⟩
    rcases hpass with hunknown | ⟨rfl, rfl⟩
    · rintro (⟨-, rfl, -⟩ | ⟨-, -, c, hc, rfl, -⟩)
      · rw [h.idField] at hunknown
        cases hunknown
      · rw [hasColumn_of_mem hc] at hunknown
        cases hunknown
    · rintro (⟨hpayload, -⟩ | ⟨hid, -⟩)
      · cases hpayload
      · exact absurd rfl hid
  · simp only [hjudge, Verdict.refusal?_ofExcept_iff, ne_eq, not_true_eq_false, true_and, false_and, or_false]
  · have hcolumn : (∃ c' ∈ e.columns, c'.name = c.name ∧ c'.nullable = false) ↔ c.nullable = false := by
      refine ⟨?_, fun hnullable => ⟨c, hc, rfl, hnullable⟩⟩
      rintro ⟨c', hc', hname, hnullable⟩
      exact eq_of_name h hc hc' hname ▸ hnullable
    rw [hjudge, hcolumn]
    split
    · rename_i hrefused
      rw [Bool.and_eq_true, Json.isNull_iff, Bool.not_eq_true'] at hrefused
      exact ⟨fun _ => .inr ⟨hid, hrefused⟩, fun _ => ⟨_, rfl⟩⟩
    · rename_i hallowed
      rw [Bool.and_eq_true, Json.isNull_iff, Bool.not_eq_true'] at hallowed
      refine ⟨fun ⟨message, hmessage⟩ => (by cases hmessage), ?_⟩
      rintro (⟨-, hname, -⟩ | ⟨-, hnull⟩)
      · exact absurd hname hid
      · exact absurd hnull hallowed

/-! ## The three steps -/

theorem mem_keptMembers_iff (h : e.Orderly) : (name, v) ∈ e.keptMembers payload body ↔
    e.Gives payload body name v ∧ ∃ c ∈ e.columns, c.name = name ∧ (v = .null → c.nullable = true) := by
  unfold keptMembers
  rw [List.mem_filterMap]
  constructor
  · rintro ⟨⟨k, given⟩, hmem, hkept⟩
    obtain ⟨w, hw, heq⟩ := Option.map_eq_some_iff.1 hkept
    cases heq
    obtain ⟨hstands, hcolumn⟩ := (kept?_judge_iff h).1 hw
    exact ⟨⟨given, hmem, hstands⟩, hcolumn⟩
  · rintro ⟨⟨given, hmem, hstands⟩, hcolumn⟩
    have hkept := (kept?_judge_iff h).2 ⟨hstands, hcolumn⟩
    exact ⟨(name, given), hmem, Option.map_eq_some_iff.2 ⟨v, hkept, rfl⟩⟩

/-- The members that are refused. -/
theorem mem_memberIssues_iff (h : e.Orderly) : name ∈ (e.memberIssues payload body).map Issue.field ↔
    ∃ given, (name, given) ∈ body ∧
      ((payload = .record ∧ name = e.idField ∧ ∃ message, e.idType.parse given = .error message) ∨
        name ≠ e.idField ∧ given = .null ∧ ∃ c ∈ e.columns, c.name = name ∧ c.nullable = false) := by
  simp only [← refusal?_judge_iff h]
  unfold memberIssues
  rw [List.mem_map]
  constructor
  · rintro ⟨issue, hissue, rfl⟩
    obtain ⟨⟨k, given⟩, hmem, hrefused⟩ := List.mem_filterMap.1 hissue
    obtain ⟨message, hmessage, rfl⟩ := Option.map_eq_some_iff.1 hrefused
    exact ⟨given, hmem, message, hmessage⟩
  · rintro ⟨given, hmem, message, hmessage⟩
    exact ⟨⟨name, message⟩, List.mem_filterMap.2 ⟨(name, given), hmem, Option.map_eq_some_iff.2 ⟨message, hmessage, rfl⟩⟩, rfl⟩

/-- The columns that are missing. -/
theorem mem_missingIssues_iff : name ∈ (e.missingIssues payload kept).map Issue.field ↔
    payload = .record ∧ ∃ c, e.Demands c ∧ c.name = name ∧ kept.has name = false := by
  cases payload with
  | changes => simp [missingIssues]
  | record =>
    unfold missingIssues
    simp only [List.map_map, List.mem_map, List.mem_filter, Function.comp_apply, Bool.and_eq_true, Bool.not_eq_true',
      true_and]
    constructor
    · rintro ⟨c, ⟨hc, hneeds, hmissing⟩, rfl⟩
      exact ⟨c, (needs_iff hc).1 hneeds, rfl, hmissing⟩
    · rintro ⟨c, hdemands, rfl, hmissing⟩
      exact ⟨c, ⟨hdemands.column, (needs_iff hdemands.column).2 hdemands, hmissing⟩, rfl⟩

theorem lacks_iff {r : Rule} {value : Option Json} : lacks payload r value = true ↔
    payload = .record ∧ r.required = some true ∧ ∀ v, value = some v → v = .null := by
  cases value <;> simp [lacks, Json.isNull_iff, and_assoc]

theorem faults_null (r : Rule) : r.faults .null = [] := rfl

theorem faults_ne_nil_iff {r : Rule} (hnull : v ≠ .null) : r.faults v ≠ [] ↔ ¬r.Satisfied v :=
  (Rule.faults_eq_nil_iff (Bool.eq_false_iff.2 (mt Json.isNull_iff.1 hnull))).not

/-- A rule complains about its own column, and is silent about a value that is missing where the column is already named. -/
theorem mem_fields_ruleIssues_iff {found : List Issue} {column : String} {r : Rule} :
    name ∈ (ruleIssues payload kept found column r).map Issue.field ↔ name = column ∧
      if lacks payload r (kept.get? column) then column ∉ found.map Issue.field
      else ∃ v, kept.get? column = some v ∧ r.faults v ≠ [] := by
  unfold ruleIssues
  split
  · have hfound : (found.any (·.field == column)) = true ↔ column ∈ found.map Issue.field := by
      simp
    by_cases hcolumn : column ∈ found.map Issue.field
    · rw [if_pos (hfound.2 hcolumn)]
      simp [hcolumn]
    · rw [if_neg (mt hfound.1 hcolumn)]
      simp [hcolumn]
  · cases kept.get? column with
    | none => simp
    | some v =>
      constructor
      · intro hmem
        obtain ⟨issue, hissue, rfl⟩ := List.mem_map.1 hmem
        obtain ⟨message, hmessage, rfl⟩ := List.mem_map.1 hissue
        exact ⟨rfl, v, rfl, List.ne_nil_of_mem hmessage⟩
      · rintro ⟨rfl, w, hw, hfaults⟩
        cases hw
        obtain ⟨message, hmessage⟩ := List.exists_mem_of_ne_nil _ hfaults
        exact List.mem_map.2 ⟨_, List.mem_map.2 ⟨message, hmessage, rfl⟩, rfl⟩

/-- **The columns that the rules complain about**, besides those that are already named. -/
theorem mem_ruleIssues_iff (e : Entity) {found : List Issue} :
    name ∈ (found ++ e.rules.flatMap fun (column, r) => ruleIssues payload kept found column r).map Issue.field ↔
      name ∈ found.map Issue.field ∨ ∃ r, (name, r) ∈ e.rules ∧
        (lacks payload r (kept.get? name) = true ∨ ∃ v, kept.get? name = some v ∧ r.faults v ≠ []) := by
  rw [List.map_append, List.mem_append, List.map_flatMap, List.mem_flatMap]
  -- a rule keeps silent only about a column that is named already
  by_cases hfound : name ∈ found.map Issue.field
  · exact iff_of_true (.inl hfound) (.inl hfound)
  refine or_congr_right ?_
  constructor
  · rintro ⟨⟨column, r⟩, hr, hname⟩
    obtain ⟨rfl, hname⟩ := mem_fields_ruleIssues_iff.1 hname
    split at hname
    · rename_i hlacks
      exact ⟨r, hr, .inl hlacks⟩
    · exact ⟨r, hr, .inr hname⟩
  · rintro ⟨r, hr, hcomplains⟩
    refine ⟨(name, r), hr, mem_fields_ruleIssues_iff.2 ⟨rfl, ?_⟩⟩
    split
    · exact hfound
    · rename_i hlacks
      exact hcomplains.resolve_left hlacks

/-! ## The whole payload -/

section
variable (h : e.Orderly) (hbody : body.keys.Nodup)
include h hbody

theorem get?_keptMembers_iff : (e.keptMembers payload body).get? name = some v ↔
    e.Gives payload body name v ∧ ∃ c ∈ e.columns, c.name = name ∧ (v = .null → c.nullable = true) := by
  have hkept : (e.keptMembers payload body).keys.Nodup := hbody.sublist (keys_keptMembers_sublist e payload body)
  rw [← mem_keptMembers_iff h]
  exact ⟨Row.mem_of_get?, Row.get?_of_mem hkept⟩

/-- A value that is given for a column, and is not null, is kept. -/
theorem get?_keptMembers_of_gives (hcolumn : e.hasColumn name = true) (hv : e.Gives payload body name v)
    (hnull : v ≠ .null) : (e.keptMembers payload body).get? name = some v := by
  obtain ⟨c, hc, hname⟩ := exists_column hcolumn
  exact (get?_keptMembers_iff h hbody).2 ⟨hv, c, hc, hname, fun heq => absurd heq hnull⟩

/-- What is missing among the members that are kept was not given, or was refused for being null. -/
theorem violates_of_missing (hpayload : payload = .record) (hdemands : e.Demands c)
    (hmissing : (e.keptMembers payload body).has c.name = false) : e.Violates payload body c.name := by
  by_cases hgiven : c.name ∈ body.keys
  · obtain ⟨given, hgiven⟩ := Row.exists_mem_of_mem_keys hgiven
    by_cases hnull : given = .null
    · exact .null hdemands.column rfl hdemands.idField hdemands.nullable (hnull ▸ hgiven)
    · have hkept : (e.keptMembers payload body).get? c.name = some given :=
        get?_keptMembers_of_gives h hbody (hasColumn_of_mem hdemands.column)
          ⟨given, hgiven, .value hdemands.idField rfl⟩ hnull
      rw [Row.has, hkept] at hmissing
      cases hmissing
  · exact .missing hpayload hdemands rfl hgiven

/-- Where a rule finds no value, none was given but null, or one that is no identifier. -/
theorem violates_of_lacks {r : Rule} (hcolumn : e.hasColumn name = true) (hr : (name, r) ∈ e.rules)
    (hlacks : lacks payload r ((e.keptMembers payload body).get? name) = true) : e.Violates payload body name := by
  obtain ⟨hpayload, hrequired, hnothing⟩ := lacks_iff.1 hlacks
  by_cases hnull : ∀ v, (name, v) ∈ body → v = .null
  · exact .required hpayload hr hrequired hnull
  -- something else was given: it would have been kept, if it is no bad identifier
  obtain ⟨given, hgiven⟩ := not_forall.1 hnull
  obtain ⟨hgiven, hnull⟩ := Classical.not_imp.1 hgiven
  by_cases hid : name = e.idField
  · cases hparse : e.idType.parse given with
    | error message => exact .identifier hpayload hid hgiven hparse
    | ok v =>
      have hnull := IdType.ne_null_of_parse hparse
      have hkept := get?_keptMembers_of_gives h hbody hcolumn ⟨given, hgiven, .identifier hpayload hid hparse⟩ hnull
      exact absurd (hnothing v hkept) hnull
  · have hkept : (e.keptMembers payload body).get? name = some given :=
      get?_keptMembers_of_gives h hbody hcolumn ⟨given, hgiven, .value hid rfl⟩ hnull
    exact absurd (hnothing given hkept) hnull

theorem violates_of_faults {r : Rule} (hr : (name, r) ∈ e.rules)
    (hv : (e.keptMembers payload body).get? name = some v) (hfaults : r.faults v ≠ []) :
    e.Violates payload body name := by
  have hnull : v ≠ .null := by
    rintro rfl
    exact hfaults (faults_null r)
  exact .rule hr ((get?_keptMembers_iff h hbody).1 hv).1 hnull ((faults_ne_nil_iff hnull).1 hfaults)

/-- A rule finds no value where null is all that was given. -/
theorem lacks_of_null {r : Rule} (hpayload : payload = .record) (hrequired : r.required = some true)
    (hnull : ∀ v, (name, v) ∈ body → v = .null) :
    lacks payload r ((e.keptMembers payload body).get? name) = true := by
  refine lacks_iff.2 ⟨hpayload, hrequired, fun v hv => ?_⟩
  obtain ⟨⟨given, hgiven, hstands⟩, -⟩ := (get?_keptMembers_iff h hbody).1 hv
  obtain rfl := hnull given hgiven
  cases hstands with
  | identifier _ _ hparse =>
    obtain ⟨message, herror⟩ := IdType.parse_null e.idType
    cases herror.symm.trans hparse
  | value _ hv => exact hv.symm

/-- **The fields of the issues are the columns that are violated.** -/
theorem mem_recordIssues_iff (hrules : ∀ rule ∈ e.rules, e.hasColumn rule.1 = true) :
    name ∈ (e.recordIssues payload body).map Issue.field ↔ e.Violates payload body name := by
  -- the later steps look at the members that are kept, and what is not among them is led back to the payload
  unfold recordIssues
  dsimp only
  rw [mem_ruleIssues_iff, List.map_append, List.mem_append, mem_memberIssues_iff h, mem_missingIssues_iff]
  constructor
  · rintro ((hrefused | hmissing) | hcomplains)
    · obtain ⟨given, hgiven, ⟨hpayload, hid, message, hparse⟩ | ⟨hid, rfl, c, hc, hname, hnullable⟩⟩ := hrefused
      · exact .identifier hpayload hid hgiven hparse
      · exact .null hc hname hid hnullable hgiven
    · obtain ⟨hpayload, c, hdemands, rfl, hmissing⟩ := hmissing
      exact violates_of_missing h hbody hpayload hdemands hmissing
    · obtain ⟨r, hr, hlacks | ⟨v, hv, hfaults⟩⟩ := hcomplains
      · exact violates_of_lacks h hbody (hrules _ hr) hr hlacks
      · exact violates_of_faults h hbody hr hv hfaults
  · intro hviolates
    cases hviolates with
    | identifier hpayload hid hgiven hparse => exact .inl (.inl ⟨_, hgiven, .inl ⟨hpayload, hid, _, hparse⟩⟩)
    | null hc hname hid hnullable hgiven => exact .inl (.inl ⟨_, hgiven, .inr ⟨hid, rfl, _, hc, hname, hnullable⟩⟩)
    | @missing c hpayload hdemands hname habsent =>
      refine .inl (.inr ⟨hpayload, c, hdemands, hname, ?_⟩)
      refine Bool.eq_false_iff.2 fun hhas => habsent ?_
      obtain ⟨v, hv⟩ := Option.isSome_iff_exists.1 hhas
      exact (keys_keptMembers_sublist e payload body).mem (Row.mem_keys_of_mem (Row.mem_of_get? hv))
    | required hpayload hr hrequired hnull => exact .inr ⟨_, hr, .inl (lacks_of_null h hbody hpayload hrequired hnull)⟩
    | @rule r v hr hv hnull hsatisfied =>
      have hkept := get?_keptMembers_of_gives h hbody (hrules _ hr) hv hnull
      exact .inr ⟨r, hr, .inr ⟨v, hkept, (faults_ne_nil_iff hnull).2 hsatisfied⟩⟩

end

/-! ## What is kept -/

theorem judge_eq_pass_iff (h : e.Orderly) (payload : Payload) (name : String) (v : Json) :
    e.judge payload name v = .pass ↔ (e.hasColumn name && (payload == .record || name != e.idField)) = false := by
  rcases judge_cases h payload name v with ⟨hjudge, hunknown | ⟨rfl, rfl⟩⟩ | ⟨hjudge, rfl, rfl⟩ | ⟨c, hc, rfl, hid, hjudge⟩
  · simp [hjudge, hunknown]
  · simp [hjudge]
  · rw [hjudge]
    cases e.idType.parse v <;> simp [Verdict.ofExcept, h.idField]
  · rw [hjudge]
    split <;> simp [hasColumn_of_mem hc, hid]

/-- **The members that are kept are the known ones, in their order**, each with the value that it stands for. -/
theorem forall₂_keptMembers (h : e.Orderly) : ∀ {body : Row}, e.memberIssues payload body = [] →
    List.Forall₂ (e.KeptAs payload) (e.known payload body) (e.keptMembers payload body)
  | [], _ => .nil
  | (name, v) :: rest, hissues => by
    have hknown := judge_eq_pass_iff h payload name v
    unfold memberIssues at hissues
    unfold known keptMembers
    rw [List.filterMap_cons] at hissues ⊢
    rw [List.filter_cons]
    dsimp only at hissues ⊢
    cases hjudge : e.judge payload name v with
    | keep w =>
      rw [hjudge] at hissues
      have hkept : (e.judge payload name v).kept? = some w := by rw [hjudge, Verdict.kept?]
      have hstands := ((kept?_judge_iff h).1 hkept).1
      rw [if_pos (eq_true_of_ne_false (mt hknown.2 (by simp [hjudge])))]
      exact .cons ⟨rfl, hstands⟩ (forall₂_keptMembers h hissues)
    | pass =>
      rw [hjudge] at hissues
      rw [hknown.1 hjudge, if_neg Bool.false_ne_true]
      exact forall₂_keptMembers h hissues
    | refuse message =>
      rw [hjudge] at hissues
      cases hissues

theorem hasColumn_of_rule {settings : Settings} {ds : List Declaration} {es : List Entity}
    (h : Declaration.resolve settings ds = .ok es) (he : e ∈ es) : ∀ rule ∈ e.rules, e.hasColumn rule.1 = true := by
  obtain ⟨d, hd, -, hresolve⟩ := Declaration.of_resolve h he
  have hwell := (Declaration.exists_resolve_iff.1 ⟨es, h⟩).2 d hd
  have hnames := Declaration.columnNames_of_resolveOne hresolve
  have hrules : e.rules = d.rules := by
    obtain ⟨_, -, hresolve⟩ := ok_of_bind hresolve
    cases hresolve
    rfl
  intro rule hrule
  rw [hasColumn_iff, hnames]
  exact hwell.rules rule (hrules ▸ hrule)

/-- **The validator accepts exactly the payloads that violate nothing, and names exactly the columns that are violated.**
What it accepts are the known members, in their order. -/
theorem names_violations {settings : Settings} {ds : List Declaration} {es : List Entity}
    (h : Declaration.resolve settings ds = .ok es) (he : e ∈ es) (payload : Payload) (hbody : body.keys.Nodup) :
    ((∃ valid, e.recordValidator payload (.obj body) = .ok valid) ↔ ∀ name, ¬e.Violates payload body name) ∧
      (∀ valid, e.recordValidator payload (.obj body) = .ok valid →
        ∃ members, valid = .obj members ∧ List.Forall₂ (e.KeptAs payload) (e.known payload body) members) ∧
      ∀ error, e.recordValidator payload (.obj body) = .error error →
        ∃ issues, error = .validation issues ∧ ∀ name, name ∈ issues.map Issue.field ↔ e.Violates payload body name := by
  have horderly := orderly_of_resolve h he
  have hfields : ∀ name, name ∈ (e.recordIssues payload body).map Issue.field ↔ e.Violates payload body name :=
    fun _ => mem_recordIssues_iff horderly hbody (hasColumn_of_rule h he)
  have hresult : e.recordValidator payload (.obj body) = (e.checkRecord payload body).map .obj := rfl
  unfold checkRecord at hresult
  cases hissues : e.recordIssues payload body with
  | nil =>
    rw [hissues] at hresult hfields
    have haccepted : e.recordValidator payload (.obj body) = .ok (.obj (e.keptMembers payload body)) := hresult
    have hnone : ∀ name, ¬e.Violates payload body name := fun name hname => List.not_mem_nil ((hfields name).2 hname)
    have hkept := forall₂_keptMembers horderly (memberIssues_of_recordIssues hissues)
    rw [haccepted]
    refine ⟨iff_of_true ⟨_, rfl⟩ hnone, fun valid hvalid => ⟨_, ?_, hkept⟩, fun error herror => (by cases herror)⟩
    exact (Except.ok.inj hvalid).symm
  | cons issue rest =>
    rw [hissues] at hresult hfields
    have hrefused : e.recordValidator payload (.obj body) = .error (.validation (issue :: rest)) := hresult
    have hviolates := (hfields issue.field).1 List.mem_cons_self
    rw [hrefused]
    refine ⟨iff_of_false (fun ⟨valid, hvalid⟩ => (by cases hvalid)) fun hnone => hnone _ hviolates,
      fun valid hvalid => (by cases hvalid), fun error herror => ⟨_, (Except.error.inj herror).symm, hfields⟩⟩

end Entity

namespace Notes

/-- The title may not be null and has at most five characters, the team is required by its rule. -/
def strictDeclaration : Declaration :=
  { declaration [] with
    columns := ["id", "title", "tenant", "team", "deleted_at"].map fun name =>
      ⟨name, .plain "text", name != "title", none⟩
    rules := [("title", ⟨none, none, some 5, none, none, none, none, none⟩),
      ("team", ⟨some true, none, none, none, none, none, none, none⟩)] }

def strict : Entity :=
  { entity [] with
    columns := ["id", "title", "tenant", "team", "deleted_at"].map fun name =>
      ⟨name, name != "title", false, none, some "text"⟩
    rules := strictDeclaration.rules }

theorem resolve_strictDeclaration : Declaration.resolve .standard [strictDeclaration] = .ok [strict] := rfl

/-- A note with a number for its identifier, and a member that is no column. -/
def numberedBody : Row := [("colour", .str "red"), ("team", .str "a"), ("id", .num (.int 7)), ("title", .str "draft")]

/-- A note without a title, with null for its identifier and its team. -/
def emptyBody : Row := [("team", .null), ("id", .null)]

/-- The title is too long, and the identifier is passed over. -/
def longBody : Row := [("id", .null), ("title", .str "drafts")]

end Notes

/-- What is wrong is found at once, whether it is refused, missing, required, or against a rule. -/
theorem Entity.names_violations_notes :
    Declaration.resolve .standard [Notes.strictDeclaration] = .ok [Notes.strict] ∧ Notes.strict ∈ [Notes.strict] ∧
      (Notes.numberedBody.keys.Nodup ∧
        Notes.strict.recordValidator .record (.obj Notes.numberedBody) =
          .ok (.obj [("team", .str "a"), ("id", .str "7"), ("title", .str "draft")]) ∧
        ∀ name, ¬Notes.strict.Violates .record Notes.numberedBody name) ∧
      (Notes.emptyBody.keys.Nodup ∧
        ∀ name, name ∈ ["id", "title", "team"] ↔ Notes.strict.Violates .record Notes.emptyBody name) ∧
      Notes.longBody.keys.Nodup ∧ ∀ name, name ∈ ["title"] ↔ Notes.strict.Violates .changes Notes.longBody name := by
  have hresolve := Notes.resolve_strictDeclaration
  have hnumbered : Notes.numberedBody.keys.Nodup := by decide
  have hempty : Notes.emptyBody.keys.Nodup := by decide
  have hlong : Notes.longBody.keys.Nodup := by decide
  refine ⟨hresolve, List.mem_cons_self, ⟨hnumbered, rfl, ?_⟩, ⟨hempty, ?_⟩, hlong, ?_⟩
  · exact (Entity.names_violations hresolve List.mem_cons_self .record hnumbered).1.1 ⟨_, rfl⟩
  · have hnames := (Entity.names_violations hresolve List.mem_cons_self .record hempty).2.2 _ rfl
    obtain ⟨issues, hissues, hnames⟩ := hnames
    cases hissues
    exact hnames
  · have hnames := (Entity.names_violations hresolve List.mem_cons_self .changes hlong).2.2 _ rfl
    obtain ⟨issues, hissues, hnames⟩ := hnames
    cases hissues
    exact hnames

end RecordService
