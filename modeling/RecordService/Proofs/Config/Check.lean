import RecordService.Entity
import RecordService.Proofs.Basic
/-!
# Checked declarations

What a declaration that was accepted, and the entity that it resolves to, promise to the operations.
-/
namespace RecordService

namespace Declaration

theorem holds_of_require {holds : Bool} {error : ConfigError} {u : Unit} (h : require holds error = .ok u) :
    holds = true := by
  unfold require at h
  split at h
  · assumption
  · cases h

/-- Of an accepted declaration the scope rules are about its columns. -/
theorem column_of_checkScope {d : Declaration} {u : Unit} : ∀ {rules : List ScopeRule}, d.checkScope rules = .ok u →
    ∀ r ∈ rules, r.column ∈ d.columnNames
  | r :: rest, h, q, hq => by
    obtain ⟨_, -, h⟩ := ok_of_bind h
    obtain ⟨_, hcolumn, h⟩ := ok_of_bind h
    have hr : r.column ∈ d.columnNames := List.contains_iff_mem.1 (holds_of_require hcolumn)
    rcases List.mem_cons.1 hq with rfl | hmem
    · exact hr
    · exact column_of_checkScope h q hmem

/-- **What an accepted declaration has passed**: its identifier is a column, and so are those of the scope and of the marks
of deletion. -/
theorem of_check {d : Declaration} {u : Unit} (h : d.check = .ok u) :
    d.idField ∈ d.columnNames ∧ d.checkScope d.scope = .ok () ∧
      ∀ s, d.softDelete = some s → d.checkSoftDelete s = .ok () := by
  -- the name, the table and the distinctness of the columns come before the identifier
  obtain ⟨_, -, h⟩ := ok_of_bind h
  obtain ⟨_, -, h⟩ := ok_of_bind h
  obtain ⟨_, -, h⟩ := ok_of_bind h
  obtain ⟨_, hid, h⟩ := ok_of_bind h
  -- the filters and the search come before the scope
  obtain ⟨_, -, h⟩ := ok_of_bind h
  obtain ⟨_, -, h⟩ := ok_of_bind h
  obtain ⟨_, hscope, h⟩ := ok_of_bind h
  obtain ⟨_, -, h⟩ := ok_of_bind h
  refine ⟨List.contains_iff_mem.1 (holds_of_require hid), hscope, fun s hs => ?_⟩
  rw [hs] at h
  obtain ⟨_, hsoft, -⟩ := ok_of_bind h
  exact hsoft

theorem column_of_check {d : Declaration} {u : Unit} (h : d.check = .ok u) : ∀ r ∈ d.scope, r.column ∈ d.columnNames :=
  column_of_checkScope (of_check h).2.1

/-- The column for the marks of deletion is not that of the identifier. -/
theorem softDelete_of_check {d : Declaration} {s : SoftDelete} {u : Unit} (h : d.check = .ok u)
    (hs : d.softDelete = some s) : s.field ∈ d.columnNames ∧ s.field ≠ d.idField := by
  obtain ⟨_, -, hsoft⟩ := ok_of_bind ((of_check h).2.2 s hs)
  obtain ⟨_, hfield, hsoft⟩ := ok_of_bind hsoft
  obtain ⟨_, hother, -⟩ := ok_of_bind hsoft
  exact ⟨List.contains_iff_mem.1 (holds_of_require hfield), bne_iff_ne.1 (holds_of_require hother)⟩

theorem check_of_checkFrom {d : Declaration} {u : Unit} : ∀ {ds : List Declaration} {seen : List String},
    checkFrom seen ds = .ok u → d ∈ ds → d.check = .ok ()
  | e :: rest, seen, h, hmem => by
    obtain ⟨_, hcheck, h⟩ := ok_of_bind h
    obtain ⟨_, -, h⟩ := ok_of_bind h
    rcases List.mem_cons.1 hmem with rfl | hrest
    · exact hcheck
    · exact check_of_checkFrom h hrest

theorem scope_of_resolveOne {settings : Settings} {d : Declaration} {e : Entity} (h : d.resolveOne settings = .ok e) :
    e.scope = d.scope := by
  obtain ⟨_, -, h⟩ := ok_of_bind h
  cases h
  rfl

theorem columnNames_of_resolveOne {settings : Settings} {d : Declaration} {e : Entity}
    (h : d.resolveOne settings = .ok e) : e.columnNames = d.columnNames := by
  obtain ⟨_, -, h⟩ := ok_of_bind h
  cases h
  exact List.map_map

/-- Every entity of an accepted list comes of a declaration that was checked. -/
theorem of_resolve {settings : Settings} {ds : List Declaration} {es : List Entity} {e : Entity}
    (h : resolve settings ds = .ok es) (he : e ∈ es) :
    ∃ d ∈ ds, d.check = .ok () ∧ d.resolveOne settings = .ok e := by
  obtain ⟨_, hcheck, h⟩ := ok_of_bind h
  obtain ⟨d, hd, hresolve⟩ := mem_of_mapM_ok h he
  exact ⟨d, hd, check_of_checkFrom hcheck hd, hresolve⟩

end Declaration

namespace Entity

theorem findColumn_isSome (name : String) : ∀ columns : List Column,
    (findColumn columns name).isSome = true ↔ name ∈ columns.map Column.name
  | [] => by simp [findColumn]
  | c :: rest => by
    unfold findColumn
    by_cases hc : c.name = name
    · simp [hc]
    · rw [if_neg hc, findColumn_isSome name rest]
      simp [Ne.symm hc]

theorem hasColumn_iff (e : Entity) (name : String) : e.hasColumn name = true ↔ name ∈ e.columnNames :=
  findColumn_isSome name e.columns

/-- **Records of the entity are marked as deleted in a field** that is a column, and not that of the identifier. -/
structure MarksIn (e : Entity) (s : SoftDelete) : Prop where
  softDelete : e.softDelete = some s
  idField : e.hasColumn e.idField = true
  field : e.hasColumn s.field = true
  other : s.field ≠ e.idField

theorem hasIdField_of_resolve {settings : Settings} {ds : List Declaration} {es : List Entity} {e : Entity}
    (h : Declaration.resolve settings ds = .ok es) (he : e ∈ es) : e.hasColumn e.idField = true := by
  obtain ⟨d, -, hcheck, hresolve⟩ := Declaration.of_resolve h he
  have hnames := Declaration.columnNames_of_resolveOne hresolve
  obtain ⟨_, -, hresolve⟩ := ok_of_bind hresolve
  cases hresolve
  rw [hasColumn_iff, hnames]
  exact (Declaration.of_check hcheck).1

theorem marksIn_of_resolve {settings : Settings} {ds : List Declaration} {es : List Entity} {e : Entity} {s : SoftDelete}
    (h : Declaration.resolve settings ds = .ok es) (he : e ∈ es) (hs : e.softDelete = some s) : e.MarksIn s := by
  obtain ⟨d, -, hcheck, hresolve⟩ := Declaration.of_resolve h he
  have hnames := Declaration.columnNames_of_resolveOne hresolve
  obtain ⟨_, -, hresolve⟩ := ok_of_bind hresolve
  cases hresolve
  obtain ⟨hfield, hother⟩ := Declaration.softDelete_of_check hcheck hs
  refine ⟨hs, hasIdField_of_resolve h he, ?_, hother⟩
  rw [hasColumn_iff, hnames]
  exact hfield

end Entity

end RecordService
