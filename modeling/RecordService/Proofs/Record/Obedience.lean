import RecordService.Proofs.Config.WellFormed
import RecordService.Proofs.Json.Same
import RecordService.Proofs.Record.Reachable
import RecordService.Proofs.Scope.Integrity
import RecordService.Proofs.Store.Affected
import RecordService.Proofs.Validate.Rule
/-!
# Rows that obey — what validation asks of a row, and what keeps it so

A row obeys the rules of its entity when the columns that only callers fill have the values that are asked for
(`Entity.Obeys`).  A row that is made of an accepted record does (`Table.obeys_prepare`).  Changes keep it so when they
write nothing that may not stand there (`Entity.Harmless`), and accepted changes write nothing of the kind, but for one
case: they may take the value away that a rule requires, where the column itself may be null (`harmless_of_accepted`).
-/
namespace RecordService

/-! ## Rows that obey -/

namespace Entity

/-- A column that only callers fill: not the identifier, no time, no mark of deletion, and without a default. -/
structure Supplies (e : Entity) (c : Column) : Prop where
  column : c ∈ e.columns
  hasDefault : c.hasDefault = false
  managed : e.isManaged c.name = false

/-- A rule requires a value in the column. -/
def Requires (e : Entity) (name : String) : Prop := ∃ r, (name, r) ∈ e.rules ∧ r.required = some true

/-- **The row obeys the rules**: what may not be null or is required is there, and what is there satisfies each rule. -/
structure Obeys (e : Entity) (row : Row) : Prop where
  present : ∀ c, e.Supplies c → c.nullable = false ∨ e.Requires c.name → (row.cell c.name).isNull = false
  satisfied : ∀ c, e.Supplies c → (row.cell c.name).isNull = false →
    ∀ r, (c.name, r) ∈ e.rules → r.Satisfied (row.cell c.name)

/-- What the columns of an accepted entity are like. -/
structure Orderly (e : Entity) : Prop where
  idField : e.hasColumn e.idField = true
  columns : e.columnNames.Nodup
  literal : ∀ c ∈ e.columns, c.hasDefault = false → c.defaultLiteral = none

theorem orderly_of_resolve {settings : Settings} {ds : List Declaration} {es : List Entity} {e : Entity}
    (h : Declaration.resolve settings ds = .ok es) (he : e ∈ es) : e.Orderly := by
  obtain ⟨d, hd, -, hresolve⟩ := Declaration.of_resolve h he
  have hwell := (Declaration.exists_resolve_iff.1 ⟨es, h⟩).2 d hd
  refine ⟨hasIdField_of_resolve h he, Declaration.columnNames_of_resolveOne hresolve ▸ hwell.columns, fun c hc => ?_⟩
  obtain ⟨_, -, hresolve⟩ := ok_of_bind hresolve
  cases hresolve
  obtain ⟨declared, -, rfl⟩ := List.mem_map.1 hc
  intro hnone
  have hdefault : declared.default = none := Option.not_isSome_iff_eq_none.1 (Bool.eq_false_iff.1 hnone)
  rw [Declaration.resolveColumn, hdefault]

variable {e : Entity} {c : Column} {payload : Payload} {body : Row}

theorem Supplies.ne_id (hc : e.Supplies c) : c.name ≠ e.idField := by
  have hmanaged := hc.managed
  rintro heq
  simp [isManaged, heq] at hmanaged

theorem Supplies.ne_createdAt (hc : e.Supplies c) : e.createdAt ≠ some c.name := by
  have hmanaged := hc.managed
  intro heq
  simp [isManaged, heq] at hmanaged

theorem Supplies.ne_updatedAt (hc : e.Supplies c) : e.updatedAt ≠ some c.name := by
  have hmanaged := hc.managed
  intro heq
  simp [isManaged, heq] at hmanaged

theorem findColumn_of_mem : ∀ {columns : List Column}, (columns.map Column.name).Nodup → c ∈ columns →
    findColumn columns c.name = some c
  | d :: rest, hnames, hmem => by
    obtain ⟨hnot, hrest⟩ := List.nodup_cons.1 hnames
    rcases List.mem_cons.1 hmem with rfl | hmem
    · exact if_pos rfl
    · have hother : d.name ≠ c.name := fun h => hnot (List.mem_map.2 ⟨c, hmem, h.symm⟩)
      rw [findColumn, if_neg hother]
      exact findColumn_of_mem hrest hmem

theorem Supplies.column? (h : e.Orderly) (hc : e.Supplies c) : e.column? c.name = some c :=
  findColumn_of_mem h.columns hc.column

theorem Supplies.hasColumn (h : e.Orderly) (hc : e.Supplies c) : e.hasColumn c.name = true := by
  unfold Entity.hasColumn
  rw [hc.column? h]
  rfl

/-- What is kept for such a column was given, and may be null only where the column may. -/
theorem Supplies.of_kept (h : e.Orderly) (hc : e.Supplies c) (hissues : e.recordIssues payload body = []) {v : Json}
    (hv : (e.keptMembers payload body).get? c.name = some v) :
    body.get? c.name = some v ∧ (v.isNull = true → c.nullable = true) := by
  obtain ⟨hbody, c', hc', hnullable⟩ := Entity.of_kept hissues hc.ne_id hv
  cases (hc.column? h).symm.trans hc'
  exact ⟨hbody, hnullable⟩

end Entity

/-! ## Rows that are created -/

namespace Table

variable {e : Entity} {c : Column} {body : Row}

/-- The store keeps what was accepted for the column, and null where nothing was. -/
theorem cell_prepare_of_supplies (h : e.Orderly) (hc : e.Supplies c) (now draw : String) (lastId : Int) :
    (prepare e draw (e.stampCreated now (e.keptMembers .record body)) lastId).1.cell c.name =
      (Row.get? (e.keptMembers .record body) c.name).getD .null := by
  have hstamps : e.stamps c.name = false := by
    simp [Entity.stamps, hc.ne_createdAt, hc.ne_updatedAt]
  have hdefault : defaultValue c = .null := by
    unfold defaultValue
    rw [h.literal c hc.column hc.hasDefault]
  rw [Row.cell, get?_prepare h.idField, hc.column? h, Entity.get?_stampCreated, hstamps, Bool.false_and,
    if_neg Bool.false_ne_true, Option.map_some, if_neg hc.ne_id, hdefault]
  rfl

/-- **A row that is made of an accepted record obeys the rules.** -/
theorem obeys_prepare (h : e.Orderly) {now : String} {input : Row} (hinput : e.Stamped now input) (draw : String)
    (lastId : Int) : e.Obeys (prepare e draw input lastId).1 := by
  obtain ⟨body, hissues, rfl⟩ := hinput
  constructor
  case present =>
    intro c hc hneeded
    rw [cell_prepare_of_supplies h hc]
    rcases hneeded with hnullable | ⟨r, hr, hrequired⟩
    · have hneeds : e.needs c = true := by simp [Entity.needs, hnullable, hc.hasDefault, hc.managed]
      obtain ⟨v, hv⟩ := Entity.present_of_needed hissues hc.column hneeds
      have hnull := (hc.of_kept h hissues hv).2
      rw [hv, Option.getD_some, ← Bool.not_eq_true]
      intro hv
      rw [hnull hv] at hnullable
      cases hnullable
    · obtain ⟨v, hv, hnull⟩ := Entity.present_of_required hissues hr hrequired
      rw [hv]
      exact hnull
  case satisfied =>
    intro c hc hnull r hr
    rw [cell_prepare_of_supplies h hc] at hnull ⊢
    cases hv : Row.get? (e.keptMembers .record body) c.name with
    | none =>
      rw [hv] at hnull
      cases hnull
    | some v =>
      rw [hv] at hnull
      exact Entity.satisfied_of_kept hissues hr hv hnull

end Table

/-! ## Changes -/

theorem Table.cell_assign_of_mem {e : Entity} {name : String} {v : Json} (hid : name ≠ e.idField)
    (hcolumn : e.hasColumn name = true) {changes : Row} (row : Row) (hkeys : changes.keys.Nodup)
    (hmem : (name, v) ∈ changes) : (assign e changes row).cell name = v := by
  have hwritten := (changed_assign e changes row).written name ⟨hid, hcolumn, Row.mem_keys_of_mem hmem⟩
  exact Option.some.inj ((Row.get?_of_mem hkeys hwritten).symm.trans (Row.get?_of_mem hkeys hmem))

namespace Entity

variable {e : Entity} {c : Column} {body changes row : Row}

/-- **Changes do no harm** when every value that they write to such a column may stand there. -/
structure Harmless (e : Entity) (changes : Row) : Prop where
  present : ∀ c, e.Supplies c → .null ∈ e.writtenTo changes c.name → c.nullable = true ∧ ¬ e.Requires c.name
  satisfied : ∀ c, e.Supplies c → ∀ v ∈ e.writtenTo changes c.name, v.isNull = false →
    ∀ r, (c.name, r) ∈ e.rules → r.Satisfied v

theorem Obeys.assign (hrow : e.Obeys row) (hchanges : e.Harmless changes) : e.Obeys (Table.assign e changes row) := by
  constructor
  case present =>
    intro c hc hneeded
    rcases Table.cell_assign e c.name changes row with hsame | hwritten
    · rw [hsame]
      exact hrow.present c hc hneeded
    · cases hcell : (Table.assign e changes row).cell c.name with
      | null =>
        rw [hcell] at hwritten
        obtain ⟨hnullable, hrequires⟩ := hchanges.present c hc hwritten
        rcases hneeded with hnot | hneeded
        · rw [hnullable] at hnot
          cases hnot
        · exact absurd hneeded hrequires
      | _ => rfl
  case satisfied =>
    intro c hc hnull
    rcases Table.cell_assign e c.name changes row with hsame | hwritten
    · rw [hsame] at hnull ⊢
      exact hrow.satisfied c hc hnull
    · exact hchanges.satisfied c hc _ hwritten hnull

theorem mem_of_mem_writtenTo {name : String} {v : Json} (h : v ∈ e.writtenTo changes name) : (name, v) ∈ changes := by
  obtain ⟨⟨k, w⟩, hmem, rfl⟩ := List.mem_map.1 h
  obtain ⟨hmem, hk⟩ := List.mem_filter.1 hmem
  cases beq_iff_eq.1 hk
  exact (List.mem_filter.1 hmem).1

/-- Marks of deletion, and times, are not written to the columns that callers fill. -/
theorem harmless_of_managed (h : ∀ change ∈ changes, e.isManaged change.1 = true) : e.Harmless changes := by
  have hnone : ∀ c, e.Supplies c → ∀ v, v ∉ e.writtenTo changes c.name := fun c hc v hv => by
    have hmanaged := h _ (mem_of_mem_writtenTo hv)
    rw [hc.managed] at hmanaged
    cases hmanaged
  exact ⟨fun c hc hnull => absurd hnull (hnone c hc _), fun c hc v hv => absurd hv (hnone c hc v)⟩

theorem mem_of_mem_stampUpdated {now : String} {change : String × Json} (h : change ∈ e.stampUpdated now changes) :
    change ∈ changes ∨ e.updatedAt = some change.1 := by
  unfold stampUpdated at h
  cases hupdated : e.updatedAt with
  | none =>
    rw [hupdated] at h
    exact .inl h
  | some column =>
    rw [hupdated] at h
    exact (Row.mem_of_mem_set h).imp_right fun hname => congrArg some hname.symm

theorem keys_keptMembers_sublist (e : Entity) (payload : Payload) : ∀ body : Row,
    (e.keptMembers payload body).keys.Sublist body.keys
  | [] => .slnil
  | (k, v) :: rest => by
    have ih := keys_keptMembers_sublist e payload rest
    unfold keptMembers at ih ⊢
    rw [List.filterMap_cons]
    dsimp only
    cases (e.judge payload k v).kept? with
    | none => exact ih.cons k
    | some w => exact ih.cons_cons k

/-- **Changes that were accepted do no harm**, unless they take away what a rule requires. -/
theorem harmless_of_accepted (h : e.Orderly) (now : String) (hnames : body.keys.Nodup)
    (hissues : e.recordIssues .changes body = [])
    (hkeeps : ∀ c, e.Supplies c → e.Requires c.name → body.get? c.name ≠ some .null) :
    e.Harmless (e.stampUpdated now (e.changesOf (e.keptMembers .changes body))) := by
  have hkept : ∀ c, e.Supplies c → ∀ v,
      v ∈ e.writtenTo (e.stampUpdated now (e.changesOf (e.keptMembers .changes body))) c.name →
        (e.keptMembers .changes body).get? c.name = some v := fun c hc v hv => by
    rcases mem_of_mem_stampUpdated (mem_of_mem_writtenTo hv) with hmem | hupdated
    · exact Row.get?_of_mem (hnames.sublist (keys_keptMembers_sublist e .changes body)) (List.mem_filter.1 hmem).1
    · exact absurd hupdated hc.ne_updatedAt
  constructor
  case present =>
    intro c hc hnull
    obtain ⟨hbody, hnullable⟩ := hc.of_kept h hissues (hkept c hc _ hnull)
    exact ⟨hnullable rfl, fun hrequires => hkeeps c hc hrequires hbody⟩
  case satisfied => exact fun c hc v hv hnull r hr => satisfied_of_kept hissues hr (hkept c hc v hv) hnull

/-- A value that is given for such a column is among the changes. -/
theorem mem_changes_of_given (h : e.Orderly) (hissues : e.recordIssues .changes body = []) (hc : e.Supplies c)
    {v : Json} (hv : body.get? c.name = some v) : (c.name, v) ∈ e.changesOf (e.keptMembers .changes body) := by
  have hcolumn := hc.hasColumn h
  have hkept := kept_of_given hissues hc.ne_id hcolumn hv
  exact List.mem_filter.2 ⟨Row.mem_of_get? hkept, by simp [hc.ne_id, hcolumn]⟩

theorem mem_stampUpdated_of_supplies (hc : e.Supplies c) (now : String) {v : Json} (h : (c.name, v) ∈ changes) :
    (c.name, v) ∈ e.stampUpdated now changes := by
  unfold stampUpdated
  split
  · rename_i column hupdated
    have hname : c.name ≠ column := fun heq => hc.ne_updatedAt (heq ▸ hupdated)
    exact Row.mem_set_of_ne hname h
  · exact h

theorem keys_stampUpdated_nodup (now : String) (h : changes.keys.Nodup) : (e.stampUpdated now changes).keys.Nodup := by
  unfold stampUpdated
  split
  · exact Row.keys_set_nodup h
  · exact h

/-- **What is given in accepted changes is what the column holds behind them.** -/
theorem cell_assign_of_given (h : e.Orderly) (now : String) (hnames : body.keys.Nodup)
    (hissues : e.recordIssues .changes body = []) (hc : e.Supplies c) {v : Json} (hv : body.get? c.name = some v)
    (row : Row) :
    (Table.assign e (e.stampUpdated now (e.changesOf (e.keptMembers .changes body))) row).cell c.name = v := by
  have hkept : (e.keptMembers .changes body).keys.Nodup := hnames.sublist (keys_keptMembers_sublist e .changes body)
  have hchanges : (e.changesOf (e.keptMembers .changes body)).keys.Nodup :=
    hkept.sublist (List.filter_sublist.map Prod.fst)
  exact Table.cell_assign_of_mem hc.ne_id (hc.hasColumn h) row (keys_stampUpdated_nodup now hchanges)
    (mem_stampUpdated_of_supplies hc now (mem_changes_of_given h hissues hc hv))

end Entity

end RecordService
