import Mathlib.Data.List.Forall2
import RecordService.Http.Service
import RecordService.Proofs.Config.Check
import RecordService.Proofs.Pipeline.Memory
/-!
# Well-formed models — which declarations are accepted, and that a service is built of them

What `check` asks of a declaration step by step, and `resolveOne` of its page sizes, is one property of the declaration
(`Declaration.WellFormed`).  A list of declarations resolves exactly when each of them has it and no two share a name,
and a pipeline never finds fault with an entity that comes of it (`checkParts_of_wellFormed`).
-/
namespace RecordService

/-! ## Steps that all succeed -/

theorem ok_iff_of_bind {ε α : Type} {x : Except ε Unit} {y : Except ε α} {a : α} :
    (x >>= fun _ => y) = .ok a ↔ x = .ok () ∧ y = .ok a := by
  cases x with
  | ok u => exact ⟨fun h => ⟨rfl, h⟩, And.right⟩
  | error e =>
    constructor
    · intro h
      cases h
    · rintro ⟨h, -⟩
      cases h

/-! ## What is asked of a declaration -/

/-- **Marks of deletion that make sense**: they are kept in a column other than that of the identifier, and a value that
marks a record as deleted is not null and not the value of a record that is there. -/
structure SoftDelete.WellFormed (d : Declaration) (s : SoftDelete) : Prop where
  named : Text.isAllBlank s.field = false
  column : s.field ∈ d.columnNames
  other : s.field ≠ d.idField
  literal : ∀ v, s.deletedValue = .literal v → v.isNull = false ∧ v.same s.notDeletedValue = false

namespace Declaration

/-- **A well-formed declaration**: it has a name and a table, no two of its columns share a name, whatever it speaks of
is one of its columns, and its marks of deletion and its page sizes make sense. -/
structure WellFormed (settings : Settings) (d : Declaration) : Prop where
  name : Text.isAllBlank d.name = false
  table : Text.isAllBlank d.table = false
  columns : d.columnNames.Nodup
  idField : d.idField ∈ d.columnNames
  allowedFilters : ∀ fields, d.allowedFilters = some fields → ∀ f ∈ fields, f ∈ d.columnNames
  searchFields : ∀ f ∈ d.searchFields, f ∈ d.columnNames
  scope : ∀ r ∈ d.scope, Text.isAllBlank r.key = false ∧ r.column ∈ d.columnNames
  timestamps : ∀ t, d.timestamps = some t → ∀ f, t.createdAt = some f ∨ t.updatedAt = some f → f ∈ d.columnNames
  softDelete : ∀ s, d.softDelete = some s → s.WellFormed d
  pages : d.pagination.default ≠ some 0 ∧ d.pagination.max ≠ some 0
  pageSizes : d.pagination.default.getD settings.defaultPageSize ≤ d.pagination.max.getD settings.maxPageSize
  rules : ∀ r ∈ d.rules, r.1 ∈ d.columnNames

variable {d : Declaration} {settings : Settings}

@[simp] theorem require_ok_iff {holds : Bool} {error : ConfigError} : require holds error = .ok () ↔ holds = true := by
  cases holds <;> simp [require]

@[simp] theorem requireColumn_ok_iff {kind column : String} :
    d.requireColumn kind column = .ok () ↔ column ∈ d.columnNames :=
  require_ok_iff.trans List.contains_iff_mem

@[simp] theorem requireColumns_ok_iff {kind : String} : ∀ {columns : List String},
    d.requireColumns kind columns = .ok () ↔ ∀ c ∈ columns, c ∈ d.columnNames
  | [] => by simp [requireColumns]
  | c :: rest => by
    rw [requireColumns, ok_iff_of_bind, requireColumn_ok_iff, requireColumns_ok_iff, List.forall_mem_cons]

@[simp] theorem distinct_iff : ∀ {names : List String}, distinct names = true ↔ names.Nodup
  | [] => by simp [distinct]
  | s :: rest => by
    rw [distinct, Bool.and_eq_true, distinct_iff, List.nodup_cons]
    simp

@[simp] theorem checkScope_ok_iff : ∀ {rules : List ScopeRule},
    d.checkScope rules = .ok () ↔ ∀ r ∈ rules, Text.isAllBlank r.key = false ∧ r.column ∈ d.columnNames
  | [] => by simp [checkScope]
  | r :: rest => by
    rw [checkScope, ok_iff_of_bind, ok_iff_of_bind, require_ok_iff, requireColumn_ok_iff, checkScope_ok_iff,
      List.forall_mem_cons, Bool.not_eq_true', and_assoc]

@[simp] theorem markersDiffer_iff {s : SoftDelete} : markersDiffer s = true ↔
    ∀ v, s.deletedValue = .literal v → v.isNull = false ∧ v.same s.notDeletedValue = false := by
  unfold markersDiffer
  cases s.deletedValue with
  | now => simp
  | literal v => simp

@[simp] theorem checkSoftDelete_ok_iff {s : SoftDelete} : d.checkSoftDelete s = .ok () ↔ s.WellFormed d := by
  simp only [checkSoftDelete, ok_iff_of_bind, require_ok_iff, markersDiffer_iff, Bool.not_eq_true',
    List.contains_iff_mem, bne_iff_ne]
  exact ⟨fun ⟨hnamed, hcolumn, hother, hliteral⟩ => ⟨hnamed, hcolumn, hother, hliteral⟩,
    fun h => ⟨h.named, h.column, h.other, h.literal⟩⟩

/-- Of the two sizes, a declaration is judged by those that it gives. -/
@[simp] theorem checkPages_ok_iff : d.checkPages = .ok () ↔
    (d.pagination.default ≠ some 0 ∧ d.pagination.max ≠ some 0) ∧
      ∀ size max, d.pagination.default = some size → d.pagination.max = some max → size ≤ max := by
  rw [checkPages, ok_iff_of_bind, require_ok_iff, Bool.and_eq_true, bne_iff_ne, bne_iff_ne]
  refine and_congr_right fun _ => ?_
  cases d.pagination.default <;> cases d.pagination.max <;> simp [require_ok_iff, pure, Except.pure]

@[simp] theorem forall_mem_allowedFilters {P : String → Prop} : (∀ c ∈ d.allowedFilters.getD [], P c) ↔
    ∀ fields, d.allowedFilters = some fields → ∀ f ∈ fields, P f := by
  cases d.allowedFilters <;> simp

@[simp] theorem forall_mem_timestampColumns {P : String → Prop} : (∀ c ∈ d.timestampColumns, P c) ↔
    ∀ t, d.timestamps = some t → ∀ f, t.createdAt = some f ∨ t.updatedAt = some f → P f := by
  unfold timestampColumns
  cases d.timestamps <;> simp

/-- **The checks ask for a well-formed declaration**, except that of the page sizes only those that are given are
compared. -/
theorem check_ok_iff : d.check = .ok () ↔
    Text.isAllBlank d.name = false ∧ Text.isAllBlank d.table = false ∧ d.columnNames.Nodup ∧
      d.idField ∈ d.columnNames ∧
      (∀ fields, d.allowedFilters = some fields → ∀ f ∈ fields, f ∈ d.columnNames) ∧
      (∀ f ∈ d.searchFields, f ∈ d.columnNames) ∧
      (∀ r ∈ d.scope, Text.isAllBlank r.key = false ∧ r.column ∈ d.columnNames) ∧
      (∀ t, d.timestamps = some t → ∀ f, t.createdAt = some f ∨ t.updatedAt = some f → f ∈ d.columnNames) ∧
      (∀ s, d.softDelete = some s → s.WellFormed d) ∧
      ((d.pagination.default ≠ some 0 ∧ d.pagination.max ≠ some 0) ∧
        ∀ size max, d.pagination.default = some size → d.pagination.max = some max → size ≤ max) ∧
      ∀ r ∈ d.rules, r.1 ∈ d.columnNames := by
  unfold check
  cases d.softDelete <;> simp [ok_iff_of_bind]

theorem exists_resolveOne_iff : (∃ e, d.resolveOne settings = .ok e) ↔
    d.pagination.default.getD settings.defaultPageSize ≤ d.pagination.max.getD settings.maxPageSize := by
  unfold resolveOne
  simp only [ok_iff_of_bind, require_ok_iff, decide_eq_true_eq]
  exact ⟨fun ⟨_, hsizes, _⟩ => hsizes, fun hsizes => ⟨_, hsizes, rfl⟩⟩

/-- **A declaration is well-formed when it passes the checks and resolves.** -/
theorem wellFormed_iff : d.WellFormed settings ↔ d.check = .ok () ∧ ∃ e, d.resolveOne settings = .ok e := by
  rw [check_ok_iff, exists_resolveOne_iff]
  constructor
  · intro h
    refine ⟨⟨h.name, h.table, h.columns, h.idField, h.allowedFilters, h.searchFields, h.scope, h.timestamps,
      h.softDelete, ⟨h.pages, fun size max hsize hmax => ?_⟩, h.rules⟩, h.pageSizes⟩
    have hsizes := h.pageSizes
    rw [hsize, hmax] at hsizes
    exact hsizes
  · rintro ⟨⟨hname, htable, hcolumns, hid, hfilters, hsearch, hscope, htimes, hsoft, ⟨hpages, -⟩, hrules⟩, hsizes⟩
    exact ⟨hname, htable, hcolumns, hid, hfilters, hsearch, hscope, htimes, hsoft, hpages, hsizes, hrules⟩

/-! ## Lists of declarations -/

theorem checkFrom_ok_iff : ∀ {ds : List Declaration} {seen : List String}, checkFrom seen ds = .ok () ↔
    (∀ d ∈ ds, d.check = .ok ()) ∧ (ds.map (·.name)).Nodup ∧ ∀ d ∈ ds, d.name ∉ seen
  | [], _ => by simp [checkFrom]
  | d :: rest, seen => by
    rw [checkFrom, ok_iff_of_bind, ok_iff_of_bind, require_ok_iff, checkFrom_ok_iff, Bool.not_eq_true',
      List.map_cons, List.nodup_cons, List.forall_mem_cons, List.forall_mem_cons]
    simp only [List.contains_eq_mem, decide_eq_false_iff_not, List.mem_cons, List.mem_map, not_or]
    constructor
    · rintro ⟨hcheck, hseen, hchecks, hnames, hothers⟩
      exact ⟨⟨hcheck, hchecks⟩, ⟨fun ⟨d', hd', hname⟩ => (hothers d' hd').1 hname, hnames⟩, hseen,
        fun d' hd' => (hothers d' hd').2⟩
    · rintro ⟨⟨hcheck, hchecks⟩, ⟨hname, hnames⟩, hseen, hothers⟩
      exact ⟨hcheck, hseen, hchecks, hnames, fun d' hd' => ⟨fun h => hname ⟨d', hd', h⟩, hothers d' hd'⟩⟩

theorem exists_resolve_iff {ds : List Declaration} : (∃ es, resolve settings ds = .ok es) ↔
    (ds.map (·.name)).Nodup ∧ ∀ d ∈ ds, d.WellFormed settings := by
  unfold resolve checkAll
  simp only [ok_iff_of_bind, checkFrom_ok_iff, exists_and_left, exists_mapM_ok_iff, wellFormed_iff]
  constructor
  · rintro ⟨⟨hchecks, hnames, -⟩, hresolve⟩
    exact ⟨hnames, fun d hd => ⟨hchecks d hd, hresolve d hd⟩⟩
  · rintro ⟨hnames, h⟩
    exact ⟨⟨fun d hd => (h d hd).1, hnames, fun _ _ => List.not_mem_nil⟩, fun d hd => (h d hd).2⟩

/-- What an entity has directly of its declaration. -/
theorem parts_of_resolveOne {e : Entity} (h : d.resolveOne settings = .ok e) :
    e.name = d.name ∧ e.table = d.table ∧ e.idField = d.idField ∧ e.softDelete = d.softDelete := by
  obtain ⟨_, -, h⟩ := ok_of_bind h
  cases h
  exact ⟨rfl, rfl, rfl, rfl⟩

theorem names_of_resolve {ds : List Declaration} {es : List Entity} (h : resolve settings ds = .ok es) :
    es.map (·.name) = ds.map (·.name) := by
  obtain ⟨_, -, h⟩ := ok_of_bind h
  have hnames : List.Forall₂ (fun d e => e.name = d.name) ds es :=
    (mapM_ok_iff.1 h).imp fun _ _ he => (parts_of_resolveOne he).1
  rw [← List.forall₂_eq_eq_eq, List.forall₂_map_left_iff, List.forall₂_map_right_iff]
  exact hnames.flip

end Declaration

/-! ## The service of an accepted model -/

theorem SoftDelete.fault?_of_wellFormed {d : Declaration} {s : SoftDelete} {e : Entity} (h : s.WellFormed d)
    (hcolumns : e.columnNames = d.columnNames) : s.fault? e = none := by
  have hnamed : s.field.isEmpty = false := by
    have hblank := h.named
    cases hempty : s.field.isEmpty with
    | false => rfl
    | true =>
      rw [String.isEmpty_iff.1 hempty] at hblank
      cases hblank
  have hcolumn : e.hasColumn s.field = true := by
    rw [Entity.hasColumn_iff, hcolumns]
    exact h.column
  unfold fault?
  rw [hnamed, hcolumn]
  cases hvalue : s.deletedValue with
  | now => rfl
  | literal v =>
    cases v with
    | null => cases (h.literal .null hvalue).1
    | _ => rfl

/-- **A pipeline finds no fault with an entity that comes of a well-formed declaration.** -/
theorem Declaration.checkParts_of_wellFormed {settings : Settings} {d : Declaration} {e : Entity}
    (hd : d.WellFormed settings) (he : d.resolveOne settings = .ok e) : e.checkParts = .ok () := by
  have hcolumns := columnNames_of_resolveOne he
  obtain ⟨-, htable, hid, hsoft⟩ := parts_of_resolveOne he
  have hcolumn : e.hasColumn e.idField = true := by
    rw [Entity.hasColumn_iff, hcolumns, hid]
    exact hd.idField
  have hfault : e.softDelete.bind (SoftDelete.fault? e) = none := by
    rw [hsoft]
    cases hs : d.softDelete with
    | none => rfl
    | some s => exact SoftDelete.fault?_of_wellFormed (hd.softDelete s hs) hcolumns
  simp [Entity.checkParts, htable, hd.table, hcolumn, hfault]

namespace Service

theorem of_eq_of_checkParts {es : List Entity} (h : ∀ e ∈ es, e.checkParts = .ok ()) :
    Service.of es = .ok ⟨es.map Pipeline.of⟩ := by
  have hchecked : ∀ e ∈ es, (Pipeline.of e).checked = .ok (Pipeline.of e) := fun e he => by
    show (e.checkParts.map fun _ => Pipeline.of e) = _
    rw [h e he]
    rfl
  rw [Service.of, mapM_ok_of_forall hchecked]
  rfl

theorem findPipeline_of_mem {p : Pipeline} : ∀ {ps : List Pipeline}, (ps.map (·.entity.name)).Nodup → p ∈ ps →
    findPipeline p.entity.name ps = some p
  | q :: rest, hnames, hmem => by
    obtain ⟨hnot, hrest⟩ := List.nodup_cons.1 hnames
    rcases List.mem_cons.1 hmem with rfl | hmem
    · exact if_pos rfl
    · have hother : q.entity.name ≠ p.entity.name := fun h => hnot (List.mem_map.2 ⟨p, hmem, h.symm⟩)
      rw [findPipeline, if_neg hother]
      exact findPipeline_of_mem hrest hmem

theorem names_perm (service : Service) : service.names.Perm (service.pipelines.map (·.entity.name)) :=
  List.mergeSort_perm _ _

/-- With names that are pairwise different, each name comes before the next. -/
theorem names_increasing {service : Service} (h : (service.pipelines.map (·.entity.name)).Nodup) :
    service.names.Pairwise (· < ·) := by
  have htrans : ∀ a b c : String, decide (a ≤ b) = true → decide (b ≤ c) = true → decide (a ≤ c) = true :=
    fun _ _ _ hab hbc => decide_eq_true (String.le_trans (of_decide_eq_true hab) (of_decide_eq_true hbc))
  have htotal : ∀ a b : String, (decide (a ≤ b) || decide (b ≤ a)) = true := fun a b => by
    rw [Bool.or_eq_true, decide_eq_true_eq, decide_eq_true_eq]
    exact String.le_total a b
  have hsorted : service.names.Pairwise fun a b => decide (a ≤ b) = true := List.pairwise_mergeSort htrans htotal _
  have hdistinct : service.names.Pairwise (· ≠ ·) := service.names_perm.nodup_iff.2 h
  exact hsorted.imp₂ (fun a b hle hne => Std.lt_of_le_of_ne (of_decide_eq_true hle) hne) hdistinct

/-- **A service for a list of declarations and the entities that come of it**: it goes by the names of the declarations,
in their order, and finds for each entity the pipeline of its own. -/
structure Serves (service : Service) (ds : List Declaration) (es : List Entity) : Prop where
  increasing : service.names.Pairwise (· < ·)
  names : service.names.Perm (ds.map (·.name))
  pipelines : service.pipelines = es.map Pipeline.of
  pipeline : ∀ e ∈ es, service.pipeline e.name = .ok (Pipeline.of e)

end Service

namespace Declaration

theorem serves_of_resolve {settings : Settings} {ds : List Declaration} {es : List Entity}
    (h : resolve settings ds = .ok es) : ∃ service, Service.of es = .ok service ∧ service.Serves ds es := by
  obtain ⟨hnodup, hds⟩ := exists_resolve_iff.1 ⟨es, h⟩
  have hparts : ∀ e ∈ es, e.checkParts = .ok () := fun e he => by
    obtain ⟨d, hd, -, hresolve⟩ := of_resolve h he
    exact checkParts_of_wellFormed (hds d hd) hresolve
  have hnames : (es.map Pipeline.of).map (·.entity.name) = ds.map (·.name) := by
    rw [← names_of_resolve h, List.map_map]
    rfl
  refine ⟨_, Service.of_eq_of_checkParts hparts, Service.names_increasing (hnames ▸ hnodup),
    hnames ▸ Service.names_perm _, rfl, fun e he => ?_⟩
  have hfound := Service.findPipeline_of_mem (hnames ▸ hnodup) (List.mem_map.2 ⟨e, he, rfl⟩)
  unfold Service.pipeline
  rw [show e.name = (Pipeline.of e).entity.name from rfl, hfound]

/-- **Exactly the well-formed models are accepted, and a service is built of every one that is.** -/
theorem models_accepted (settings : Settings) (ds : List Declaration) :
    ((∃ es, resolve settings ds = .ok es) ↔ (ds.map (·.name)).Nodup ∧ ∀ d ∈ ds, d.WellFormed settings) ∧
      ∀ es, resolve settings ds = .ok es → ∃ service, Service.of es = .ok service ∧ service.Serves ds es :=
  ⟨exists_resolve_iff, fun _ h => serves_of_resolve h⟩

end Declaration

namespace Notes

/-- Labels are kept as notes are, in a table of their own. -/
def labels : Declaration := { declaration [] with name := "label", table := "labels" }

def labelEntity : Entity := { entity [] with name := "label", table := "labels" }

end Notes

namespace Declaration

/-- A service for notes and labels. -/
theorem models_accepted_notes :
    ∃ service, Service.of [Notes.entity [], Notes.labelEntity] = .ok service ∧
      service.names.Perm ["note", "label"] := by
  obtain ⟨service, hservice, hserves⟩ :=
    (models_accepted .standard [Notes.declaration [], Notes.labels]).2 [Notes.entity [], Notes.labelEntity] rfl
  exact ⟨service, hservice, hserves.names⟩

end Declaration
end RecordService
