import RecordService.Proofs.Config.Check
import RecordService.Proofs.Scope.Isolation
import RecordService.Proofs.Scope.Rules
/-!
# Enforcement — which declared rules hold of a pipeline

A pipeline enforces a rule when an operation in a context with a value for its key keeps to the rows that hold the
value, and an operation in a context without one keeps to no row at all if the rule is required.  The scope that
comes of a declaration enforces a rule exactly when the last rule with its key restricts the same column and is as
strict (`enforces_iff`): an accepted declaration may give one key to two rules, and then loses the first.
-/
namespace RecordService

/-- The caller's value for the key, unless it is null. -/
def Context.valueFor (ctx : Context) (key : String) : Option Json :=
  (ctx.scope.bind (Row.get? · key)).filter fun v => !v.isNull

namespace Scope

theorem columnEquals_eq (column : String) (required : Bool) (value actor : Option Json) :
    columnEquals column required value actor =
      match value.filter fun v => !v.isNull with
      | some v => some (.eq column v)
      | .none => if required then some .denyAll else .none := by
  cases value with
  | none => rfl
  | some v =>
    unfold columnEquals
    cases hv : v.isNull <;> simp [Option.filter, hv]

end Scope

namespace Pipeline

/-- **The rule holds of the pipeline**: of every operation but a creation, on every store. -/
structure Enforces (p : Pipeline) (r : ScopeRule) : Prop where
  /-- With a value, only rows that hold it are read. -/
  reads : ∀ (o : Occasion) (request : Request) (s : MemoryStore) (v : Json) (a : Answer), request.creates = false →
    o.context.valueFor r.key = some v → (p.runOn o request s).1 = .ok a →
      ∀ row ∈ a.read, row.satisfies [.eq r.column v] = true
  /-- With a value, only rows that hold it are changed or removed. -/
  writes : ∀ (o : Occasion) (request : Request) (s : MemoryStore) (v : Json), request.creates = false →
    o.context.valueFor r.key = some v →
      Confined [.eq r.column v] (s.rowsOf p.entity) ((p.runOn o request s).2.rowsOf p.entity)
  /-- Without a value that is required, nothing is found, whatever the conditions. -/
  finds : ∀ (o : Occasion) (conditions : Json) (includeDeleted : Bool) (s : MemoryStore), r.required = true →
    o.context.valueFor r.key = none →
      (p.runOn o (.findOne conditions includeDeleted) s).1 =
        (p.plan o (.findOne conditions includeDeleted)).map fun _ => .found none
  /-- Without a value that is required, every page is empty, and so is the list in all. -/
  lists : ∀ (o : Occasion) (params : ListParams) (s : MemoryStore), r.required = true →
    o.context.valueFor r.key = none →
      ∃ bounds : PageBounds, (p.runOn o (.list params) s).1 =
        (p.plan o (.list params)).map fun _ => .page (Page.of [] bounds 0)
  /-- Without a value that is required, every row stays as it is. -/
  keeps : ∀ (o : Occasion) (request : Request) (s : MemoryStore), request.creates = false → r.required = true →
    o.context.valueFor r.key = none → (p.runOn o request s).2.rowsOf p.entity = s.rowsOf p.entity

/-! ## A restriction of the scope -/

section
variable {p : Pipeline} {o : Occasion} {request : Request} {q : Predicate}

theorem view_narrows_restriction (hq : q ∈ p.scope.restrictions o.context.scope o.context.actor) :
    Narrows (p.view o.context true) [q] := by
  refine .of_subset fun q' hq' => ?_
  rw [List.mem_singleton.1 hq', view_includeDeleted]
  exact hq

theorem within_restriction (hq : q ∈ p.scope.restrictions o.context.scope o.context.actor)
    (hr : request.creates = false) {i : Intent} (hi : p.plan o request = .ok i) : i.Within p [q] :=
  (plan_within hr hi).mono (view_narrows_restriction hq)

/-- Every restriction holds of what is read. -/
theorem read_satisfies_restriction (hq : q ∈ p.scope.restrictions o.context.scope o.context.actor)
    (hr : request.creates = false) {s : MemoryStore} {a : Answer} (ha : (p.runOn o request s).1 = .ok a) :
    ∀ row ∈ a.read, row.satisfies [q] = true := by
  cases hplan : p.plan o request with
  | error error =>
    rw [runOn_of_refusal hplan] at ha
    cases ha
  | ok i =>
    rw [runOn_of_plan hplan] at ha
    exact Intent.read_satisfies (within_restriction hq hr hplan) ha

/-- Every restriction holds of what is changed or removed. -/
theorem confined_restriction (hq : q ∈ p.scope.restrictions o.context.scope o.context.actor)
    (hr : request.creates = false) (s : MemoryStore) :
    Confined [q] (s.rowsOf p.entity) ((p.runOn o request s).2.rowsOf p.entity) := by
  have hisolates : p.Isolates o request [q] := .of_within fun i hi => within_restriction hq hr hi
  exact hisolates.confined s

theorem not_satisfies_denyAll (row : Row) : row.satisfies [.denyAll] = false := rfl

/-- A filter that is within the view that denies everything selects no row. -/
theorem visible_eq_nil_of_denied {filter : List Predicate} (h : Narrows filter [.denyAll]) (s : MemoryStore)
    (e : Entity) : s.visible e filter = [] :=
  List.filter_eq_nil_iff.2 fun row _ hrow => by
    have hdenied := h row hrow
    rw [not_satisfies_denyAll] at hdenied
    cases hdenied

theorem findOne_of_denied (hq : .denyAll ∈ p.scope.restrictions o.context.scope o.context.actor) (conditions : Json)
    (includeDeleted : Bool) (s : MemoryStore) :
    (p.runOn o (.findOne conditions includeDeleted) s).1 =
      (p.plan o (.findOne conditions includeDeleted)).map fun _ => .found none := by
  cases hplan : p.plan o (.findOne conditions includeDeleted) with
  | error error =>
    rw [runOn_of_refusal hplan]
    rfl
  | ok i =>
    have hi := within_restriction hq rfl hplan
    obtain ⟨c, row, -, -, rfl⟩ := Intended.of_findOne hplan
    rw [runOn_of_plan hplan, Intent.runOn_find, visible_eq_nil_of_denied hi]
    rfl

theorem list_of_denied (hq : .denyAll ∈ p.scope.restrictions o.context.scope o.context.actor) (params : ListParams)
    (s : MemoryStore) : ∃ bounds : PageBounds, (p.runOn o (.list params) s).1 =
      (p.plan o (.list params)).map fun _ => .page (Page.of [] bounds 0) := by
  cases hplan : p.plan o (.list params) with
  | error error =>
    refine ⟨⟨0, 0, 0⟩, ?_⟩
    rw [runOn_of_refusal hplan]
    rfl
  | ok i =>
    have hi := within_restriction hq rfl hplan
    obtain ⟨q, -, rfl⟩ := Intended.of_list hplan
    refine ⟨p.entity.boundsOf q, ?_⟩
    have hnone := visible_eq_nil_of_denied hi s p.entity
    have hcount : s.count p.entity (p.reach o.context (p.entity.asked q) q.includeDeleted) = 0 :=
      List.length_eq_zero_iff.2 hnone
    rw [runOn_of_plan hplan, Intent.runOn_page, hcount, MemoryStore.select_eq_nil hnone]
    rfl

end

/-! ## The last rule of a key is enforced -/

/-- The pipeline of an entity, with validators and hooks of the application's own. -/
def declared (e : Entity) (validators : Validators) (hooks : Hooks) : Pipeline := ⟨e, validators, hooks, .ofRules e.scope⟩

section
variable {e : Entity} (validators : Validators) (hooks : Hooks) {r last : ScopeRule} {ctx : Context}

theorem restriction_of_value {v : Json} (hlast : ScopeRule.lastFor r.key e.scope = some last)
    (hv : ctx.valueFor r.key = some v) :
    .eq last.column v ∈ (declared e validators hooks).scope.restrictions ctx.scope ctx.actor := by
  refine Scope.mem_restrictions_ofRules.2 ⟨r.key, last, hlast, ?_⟩
  have hvalue : (ctx.scope.bind (Row.get? · r.key)).filter (fun v => !v.isNull) = some v := hv
  rw [Scope.columnEquals_eq, hvalue]

theorem denied_of_missing (hlast : ScopeRule.lastFor r.key e.scope = some last) (hrequired : last.required = true)
    (hv : ctx.valueFor r.key = none) :
    .denyAll ∈ (declared e validators hooks).scope.restrictions ctx.scope ctx.actor := by
  refine Scope.mem_restrictions_ofRules.2 ⟨r.key, last, hlast, ?_⟩
  have hvalue : (ctx.scope.bind (Row.get? · r.key)).filter (fun v => !v.isNull) = none := hv
  rw [Scope.columnEquals_eq, hvalue]
  exact if_pos hrequired

theorem enforces_of_lastFor (hlast : ScopeRule.lastFor r.key e.scope = some last) (hcolumn : last.column = r.column)
    (hrequired : r.required = true → last.required = true) : (declared e validators hooks).Enforces r where
  reads o request s v a hr hv ha := by
    rw [← hcolumn]
    exact read_satisfies_restriction (restriction_of_value validators hooks hlast hv) hr ha
  writes o request s v hr hv := by
    rw [← hcolumn]
    exact confined_restriction (restriction_of_value validators hooks hlast hv) hr s
  finds o conditions includeDeleted s hr hv :=
    findOne_of_denied (denied_of_missing validators hooks hlast (hrequired hr) hv) conditions includeDeleted s
  lists o params s hr hv := list_of_denied (denied_of_missing validators hooks hlast (hrequired hr) hv) params s
  keeps o request s hrequest hr hv :=
    (confined_restriction (denied_of_missing validators hooks hlast (hrequired hr) hv) hrequest s).eq_of_empty not_satisfies_denyAll

end

/-! ## No other rule is

A row is astray for a column that holds a value of its own, while every other column holds the same one.  A context
names, for some of the keys, what the row has in the columns that the last rules with these keys restrict; so it
reaches the row. -/

section

def mark (column name : String) : Json := .str (if name = column then "other" else "own")

def strayRow (e : Entity) (column : String) : Row := e.columns.map fun c => (c.name, mark column c.name)

def strayStore (e : Entity) (column : String) : MemoryStore := ⟨[(e.qualifiedName, ⟨[strayRow e column], 0⟩)]⟩

def valueOfLast (rules : List ScopeRule) (column key : String) : Json :=
  (ScopeRule.lastFor key rules).elim .null fun last => mark column last.column

def strayOccasion (e : Entity) (column : String) (keys : List String) : Occasion :=
  ⟨"", [], ⟨none, none, some (keys.map fun key => (key, valueOfLast e.scope column key)), true⟩⟩

variable {e : Entity} {validators : Validators} {hooks : Hooks} {r last : ScopeRule} {column : String}
  {keys : List String}

theorem cell_strayRow {name : String} (hname : name ∈ e.columnNames) :
    (strayRow e column).cell name = mark column name := by
  have hget : Row.get? (strayRow e column) name = if name ∈ e.columnNames then some (mark column name) else none :=
    Row.get?_map Column.name (mark column) name e.columns
  rw [if_pos hname] at hget
  rw [Row.cell, hget]
  rfl

theorem valueFor_strayOccasion (column : String) (keys : List String)
    (hlast : ScopeRule.lastFor r.key e.scope = some last) :
    (strayOccasion e column keys).context.valueFor r.key =
      if r.key ∈ keys then some (mark column last.column) else none := by
  have hget : Row.get? (keys.map fun key => (key, valueOfLast e.scope column key)) r.key =
      if r.key ∈ keys.map id then some (valueOfLast e.scope column r.key) else none :=
    Row.get?_map id (valueOfLast e.scope column) r.key keys
  have hvalue : valueOfLast e.scope column r.key = mark column last.column := by rw [valueOfLast, hlast]; rfl
  rw [List.map_id, hvalue] at hget
  show (Row.get? _ r.key).filter _ = _
  rw [hget]
  by_cases hkey : r.key ∈ keys
  · rw [if_pos hkey]
    rfl
  · rw [if_neg hkey]
    rfl

theorem strayRow_in_view (hcolumns : ∀ q ∈ e.scope, q.column ∈ e.columnNames)
    (hkeys : ∀ q ∈ e.scope, q.key ∉ keys → ∀ last, ScopeRule.lastFor q.key e.scope = some last → last.required = false) :
    (strayRow e column).satisfies
      ((declared e validators hooks).view (strayOccasion e column keys).context true) = true := by
  rw [view_includeDeleted, Row.satisfies_iff]
  intro q hq
  obtain ⟨key, last, hlast, hq⟩ := Scope.mem_restrictions_ofRules.1 hq
  obtain ⟨hmem, rfl⟩ := ScopeRule.of_lastFor hlast
  have hvalue := valueFor_strayOccasion column keys hlast
  unfold Context.valueFor at hvalue
  rw [Scope.columnEquals_eq, hvalue] at hq
  by_cases hkey : last.key ∈ keys
  · rw [if_pos hkey] at hq
    cases hq
    exact (Predicate.holds_eq_str _ (cell_strayRow (hcolumns last hmem))).trans (beq_self_eq_true _)
  · rw [if_neg hkey, hkeys last hmem hkey last hlast] at hq
    cases hq

/-- Asked for by its own value, without validation, the row is found. -/
theorem findOne_stray (validators : Validators) (hooks : Hooks) (hcolumn : column ∈ e.columnNames)
    (hview : (strayRow e column).satisfies
      ((declared e validators hooks).view (strayOccasion e column keys).context true) = true) :
    ((declared e validators hooks).runOn (strayOccasion e column keys)
      (.findOne (.obj [(column, .str "other")]) true) (strayStore e column)).1 = .ok (.found (some (strayRow e column))) := by
  have hcell : (strayRow e column).cell column = .str "other" :=
    (cell_strayRow hcolumn).trans (congrArg Json.str (if_pos rfl))
  have hconditions : (declared e validators hooks).entity.conditionsOf [(column, .str "other")] =
      [.eq column (.str "other")] := by
    simp [declared, Entity.conditionsOf, Json.isNull, (e.hasColumn_iff column).2 hcolumn]
  have hplan : (declared e validators hooks).plan (strayOccasion e column keys)
      (.findOne (.obj [(column, .str "other")]) true) = .ok (.find ((declared e validators hooks).reach
        (strayOccasion e column keys).context [.eq column (.str "other")] true)) := by
    show (if ((declared e validators hooks).entity.conditionsOf _).isEmpty then _ else _) = _
    rw [hconditions]
    rfl
  have hrows : (strayStore e column).rowsOf e = [strayRow e column] := by
    rw [strayStore, MemoryStore.rowsOf, MemoryStore.table, MemoryStore.find, if_pos rfl]
  have hreached : (strayRow e column).satisfies ((declared e validators hooks).reach
      (strayOccasion e column keys).context [.eq column (.str "other")] true) = true := by
    rw [satisfies_reach, hview, Row.satisfies_cons, Predicate.holds_eq_str "other" hcell]
    rfl
  rw [runOn_of_plan hplan, Intent.runOn_find]
  show Except.ok (Answer.found (((strayStore e column).rowsOf e).filter _).head?) = _
  rw [hrows, List.filter_cons_of_pos hreached]
  rfl

/-- Were the last rule about another column, the caller's value would be the one of that column. -/
theorem column_of_enforces (hcolumns : ∀ q ∈ e.scope, q.column ∈ e.columnNames) (hr : r ∈ e.scope)
    (hlast : ScopeRule.lastFor r.key e.scope = some last) (h : (declared e validators hooks).Enforces r) :
    last.column = r.column := by
  by_contra hother
  have hkey : r.key ∈ e.scope.map ScopeRule.key := List.mem_map_of_mem hr
  have hvalue := valueFor_strayOccasion r.column (e.scope.map ScopeRule.key) hlast
  rw [if_pos hkey, mark, if_neg hother] at hvalue
  have hfound := findOne_stray validators hooks (hcolumns r hr)
    (strayRow_in_view hcolumns fun q hq hout => absurd (List.mem_map_of_mem hq) hout)
  have hrow := h.reads _ _ _ _ _ rfl hvalue hfound (strayRow e r.column) (by simp [Answer.read])
  rw [Row.satisfies_cons, Predicate.holds_eq_str "own" (cell_strayRow (hcolumns r hr))] at hrow
  simp at hrow

/-- Were the last rule not required, a caller without a value would be let through. -/
theorem required_of_enforces (hcolumns : ∀ q ∈ e.scope, q.column ∈ e.columnNames) (hr : r ∈ e.scope)
    (hlast : ScopeRule.lastFor r.key e.scope = some last) (h : (declared e validators hooks).Enforces r)
    (hrequired : r.required = true) : last.required = true := by
  by_contra hoptional
  have hout : r.key ∉ (e.scope.map ScopeRule.key).filter (· != r.key) := by simp
  have hvalue := valueFor_strayOccasion r.column ((e.scope.map ScopeRule.key).filter (· != r.key)) hlast
  rw [if_neg hout] at hvalue
  have hkeys : ∀ q ∈ e.scope, q.key ∉ (e.scope.map ScopeRule.key).filter (· != r.key) →
      ∀ last, ScopeRule.lastFor q.key e.scope = some last → last.required = false := by
    intro q hq hqout last' hlast'
    have hqkey : q.key = r.key := by
      by_contra hne
      exact hqout (List.mem_filter.2 ⟨List.mem_map_of_mem hq, by simp [hne]⟩)
    rw [hqkey, hlast] at hlast'
    cases hlast'
    exact Bool.eq_false_iff.2 hoptional
  have hfound := findOne_stray validators hooks (hcolumns r hr) (strayRow_in_view hcolumns hkeys)
  rw [h.finds _ _ _ _ hrequired hvalue] at hfound
  cases hplan : (declared e validators hooks).plan (strayOccasion e r.column _) _ with
  | error error => rw [hplan] at hfound; cases hfound
  | ok i => rw [hplan] at hfound; cases hfound

end

/-- **The scope of an accepted declaration enforces a rule exactly when the last rule with its key restricts the same
column**, and is required if the rule is. -/
theorem enforces_iff {settings : Settings} {d : Declaration} {e : Entity} (hd : d.check = .ok ())
    (he : d.resolveOne settings = .ok e) (validators : Validators) (hooks : Hooks) {r : ScopeRule} (hr : r ∈ d.scope) :
    (declared e validators hooks).Enforces r ↔ ∃ last, ScopeRule.lastFor r.key d.scope = some last ∧
      last.column = r.column ∧ (r.required = true → last.required = true) := by
  have hscope := Declaration.scope_of_resolveOne he
  have hcolumns : ∀ q ∈ e.scope, q.column ∈ e.columnNames := by
    rw [hscope, Declaration.columnNames_of_resolveOne he]
    exact Declaration.column_of_check hd
  rw [← hscope] at hr ⊢
  constructor
  · intro h
    obtain ⟨last, hlast⟩ := ScopeRule.exists_lastFor hr
    exact ⟨last, hlast, column_of_enforces hcolumns hr hlast h, required_of_enforces hcolumns hr hlast h⟩
  · rintro ⟨last, hlast, hcolumn, hrequired⟩
    exact enforces_of_lastFor validators hooks hlast hcolumn hrequired

theorem enforces_iff_notes :
    (Notes.declaration [⟨"tenantId", "tenant", true⟩, ⟨"teamId", "team", false⟩]).check = .ok () ∧
      (declared (Notes.entity [⟨"tenantId", "tenant", true⟩, ⟨"teamId", "team", false⟩]) Notes.byTenant.validators
        .none).Enforces ⟨"tenantId", "tenant", true⟩ :=
  ⟨rfl, (enforces_iff (d := Notes.declaration [⟨"tenantId", "tenant", true⟩, ⟨"teamId", "team", false⟩]) rfl
    (Notes.resolveOne_declaration _) Notes.byTenant.validators .none List.mem_cons_self).2 ⟨_, rfl, rfl, id⟩⟩

/-- Both rules are accepted, but the first is lost: the caller of tenant `a` finds a note of tenant `b`. -/
theorem first_rule_not_enforced :
    (Notes.declaration [⟨"tenantId", "tenant", true⟩, ⟨"tenantId", "team", true⟩]).check = .ok () ∧
      (Notes.occasion "a").context.valueFor "tenantId" = some (.str "a") ∧
      ((Pipeline.of (Notes.entity [⟨"tenantId", "tenant", true⟩, ⟨"tenantId", "team", true⟩])).runOn
          (Notes.occasion "a") (.findOne (.obj [("id", .str "1")]) false)
          (Notes.store [[("id", .str "1"), ("title", .str "draft"), ("tenant", .str "b"), ("team", .str "a"),
            ("deleted_at", .null)]])).1 =
        .ok (.found (some [("id", .str "1"), ("title", .str "draft"), ("tenant", .str "b"), ("team", .str "a"),
          ("deleted_at", .null)])) ∧
      Row.satisfies [.eq "tenant" (.str "a")] [("id", .str "1"), ("title", .str "draft"), ("tenant", .str "b"),
        ("team", .str "a"), ("deleted_at", .null)] = false :=
  ⟨rfl, rfl, rfl, rfl⟩

end Pipeline

end RecordService
