import Mathlib.Data.List.Induction
import RecordService.Proofs.Pipeline.Failure
import RecordService.Proofs.Record.Obedience
/-!
# Rules of stored rows — what validation keeps true of a table

Whatever an operation writes to rows that are there is a mark of deletion, or comes of changes that were accepted
(`Pipeline.updated_of_plan`).  So the rows of every store on the way of a run obey exactly when no update of the run
takes a required value away (`RunStep.rules_hold_iff`).
-/
namespace RecordService

/-! ## Operations -/

namespace Pipeline

variable {e : Entity} {scope : Scope} {o : Occasion} {request : Request} {i : Intent}

theorem of_update (hskip : o.context.skipValidation = false) {id data : Json}
    (hi : (plain e scope).plan o (.update id data) = .ok i) :
    ∃ id' body, data = .obj body ∧ e.recordIssues .changes body = [] ∧
      i = .call ((plain e scope).revision o.now (e.changesOf (e.keptMembers .changes body))
        ((plain e scope).reach o.context [e.idEquals id'] false)) (.current id') := by
  obtain ⟨id', valid, revised, row, harguments, hrevised, hrow, rfl⟩ := Intended.of_update hi
  obtain ⟨validate, hvalidate, harguments⟩ := ok_of_bind harguments
  rw [plain_hooks, Hooks.admits_none, hskip] at hvalidate
  cases hvalidate
  obtain ⟨_, -, harguments⟩ := ok_of_bind harguments
  obtain ⟨valid', hvalid, harguments⟩ := ok_of_bind harguments
  cases harguments
  obtain ⟨body, rfl, hissues, rfl⟩ := Entity.of_recordValidator hvalid
  cases hrevised
  cases hrow
  exact ⟨id', body, rfl, hissues, rfl⟩

theorem managed_of_mem_marking (now : String) {s : SoftDelete} (hs : e.softDelete = some s) (mark : Json) :
    ∀ change ∈ (plain e scope).marking now s mark, e.isManaged change.1 = true := by
  intro change hchange
  rcases Entity.mem_of_mem_stampUpdated hchange with hmem | hupdated
  · cases List.mem_singleton.1 hmem
    simp [Entity.isManaged, hs]
  · simp [Entity.isManaged, show e.updatedAt = some change.1 from hupdated]

theorem managed_of_removal {now : String} {filter filter' : List Predicate} {changes : Row}
    (h : (plain e scope).removal now filter' = .update changes filter) :
    ∀ change ∈ changes, e.isManaged change.1 = true := by
  unfold removal at h
  cases hs : e.softDelete with
  | none =>
    rw [show (plain e scope).entity.softDelete = none from hs] at h
    cases h
  | some s =>
    rw [show (plain e scope).entity.softDelete = some s from hs] at h
    cases h
    exact managed_of_mem_marking now hs _

/-- **Whatever is written to rows that are there** is a mark of deletion, or comes of changes that were accepted. -/
theorem updated_of_plan (hskip : o.context.skipValidation = false) (hi : (plain e scope).plan o request = .ok i)
    {changes : Row} {filter : List Predicate} (hupdate : i.change? = some (.update changes filter)) :
    (∀ change ∈ changes, e.isManaged change.1 = true) ∨
      ∃ id body, request = .update id (.obj body) ∧ e.recordIssues .changes body = [] ∧
        changes = e.stampUpdated o.now (e.changesOf (e.keptMembers .changes body)) := by
  cases request with
  | create data =>
    obtain ⟨_, -, -, rfl⟩ := of_create hskip hi
    cases hupdate
  | findOne conditions includeDeleted =>
    obtain ⟨_, _, -, -, rfl⟩ := Intended.of_findOne hi
    cases hupdate
  | list params =>
    obtain ⟨_, -, rfl⟩ := Intended.of_list hi
    cases hupdate
  | update id data =>
    obtain ⟨id', body, rfl, hissues, rfl⟩ := of_update hskip hi
    refine .inr ⟨id, body, rfl, hissues, ?_⟩
    have hrevision := Option.some.inj hupdate
    unfold revision at hrevision
    split at hrevision
    · cases hrevision
    · exact (RowCall.update.inj hrevision).1.symm
  | deleteOne id =>
    obtain ⟨_, -, rfl⟩ := Intended.of_deleteOne hi
    exact .inl (managed_of_removal (Option.some.inj hupdate))
  | restore id =>
    obtain ⟨s, _, hs, -, rfl⟩ := Intended.of_restore hi
    cases hupdate
    exact .inl (managed_of_mem_marking o.now (Entity.requireSoftDelete_eq_ok_iff.1 hs) _)
  | permanentDelete id =>
    obtain ⟨_, -, rfl⟩ := Intended.of_permanentDelete hi
    cases hupdate
  | bulkCreate records =>
    obtain ⟨-, rfl⟩ | ⟨_, _, -, -, rfl⟩ := Intended.of_bulkCreate hi <;> cases hupdate
  | bulkDelete ids =>
    obtain ⟨-, rfl⟩ | ⟨_, -, rfl⟩ := Intended.of_bulkDelete hi
    · cases hupdate
    · exact .inl (managed_of_removal (Option.some.inj hupdate))
  | bulkRestore ids =>
    obtain ⟨-, rfl⟩ | ⟨s, _, hs, -, rfl⟩ := Intended.of_bulkRestore hi
    · cases hupdate
    · cases hupdate
      exact .inl (managed_of_mem_marking o.now (Entity.requireSoftDelete_eq_ok_iff.1 hs) _)

end Pipeline

/-- **A call keeps the rows obedient** when what it inserts was accepted and what it changes does no harm. -/
theorem MemoryStore.obeys_answer {e : Entity} (h : e.Orderly) (now : String) (draws : List String) {call : RowCall}
    {s : MemoryStore} (hinsert : ∀ rows, call = .insert rows → ∀ row ∈ rows, e.Stamped now row)
    (hupdate : ∀ changes filter, call = .update changes filter → e.Harmless changes)
    (hs : ∀ row ∈ s.rowsOf e, e.Obeys row) : ∀ row ∈ (answer draws e call s).2.rowsOf e, e.Obeys row := by
  unfold rowsOf at hs ⊢
  cases call with
  | select selection => exact hs
  | insert rows =>
    rw [answer_insert]
    split
    · rename_i stored t hstored
      rw [table_setTable]
      intro row hrow
      rcases Table.of_mem_insertAll hstored row hrow with hold | ⟨input, hinput, draw, lastId, rfl⟩
      · exact hs row hold
      · exact Table.obeys_prepare h (hinsert rows rfl input hinput) draw lastId
    · exact hs
  | update changes filter =>
    rw [answer_update, table_setTable]
    intro row hrow
    obtain ⟨before, hbefore, rfl⟩ := List.mem_map.1 hrow
    split
    · exact (hs before hbefore).assign (hupdate changes filter rfl)
    · exact hs before hbefore
  | delete filter =>
    rw [answer_delete, table_setTable]
    exact fun row hrow => hs row (List.mem_filter.1 hrow).1

namespace Pipeline

variable {e : Entity} {scope : Scope} {o : Occasion} {request : Request} {s : MemoryStore}

/-- **An operation that is validated keeps the rows obedient**, when the changes that it succeeds with leave what rules
require. -/
theorem obeys_runOn (h : e.Orderly) (hskip : o.context.skipValidation = false)
    (hnames : ∀ id (body : Row), request = .update id (.obj body) → body.keys.Nodup)
    (hkeeps : ∀ id (body : Row) answer, request = .update id (.obj body) →
      ((plain e scope).runOn o request s).1 = .ok answer →
        ∀ c, e.Supplies c → e.Requires c.name → body.get? c.name ≠ some .null)
    (hs : ∀ row ∈ s.rowsOf e, e.Obeys row) : ∀ row ∈ ((plain e scope).runOn o request s).2.rowsOf e, e.Obeys row := by
  cases hplan : (plain e scope).plan o request with
  | error error =>
    rw [runOn_of_refusal hplan]
    exact hs
  | ok i =>
    rw [runOn_of_plan hplan] at hkeeps ⊢
    cases hresult : (i.runOn (plain e scope) o s).1 with
    | error error =>
      rw [MemoryStore.rowsOf, (Intent.same_of_error hresult).table_eq e]
      exact hs
    | ok answer =>
      rcases i.after_cases (plain e scope) o s with hsame | ⟨c, hchange, hafter⟩
      · rw [hsame]
        exact hs
      · rw [hafter]
        refine MemoryStore.obeys_answer h o.now o.draws (fun rows hrows => ?_) (fun changes filter hc => ?_) hs
        · exact inserted_of_plan hskip hplan (hrows ▸ hchange)
        · rcases updated_of_plan hskip hplan (hc ▸ hchange) with hmanaged | ⟨id, body, hupdate, hissues, rfl⟩
          · exact Entity.harmless_of_managed hmanaged
          · exact Entity.harmless_of_accepted h o.now (hnames id body hupdate) hissues
              (hkeeps id body answer hupdate hresult)

/-- **An update that succeeds had its changes accepted**, and there is a row that they are made to. -/
theorem of_update_ok (hskip : o.context.skipValidation = false) {id : Json} {body : Row} {answer : Answer}
    (hresult : ((plain e scope).runOn o (.update id (.obj body)) s).1 = .ok answer) :
    e.recordIssues .changes body = [] ∧
      (e.changesOf (e.keptMembers .changes body) ≠ [] →
        ∃ row, Table.assign e (e.stampUpdated o.now (e.changesOf (e.keptMembers .changes body))) row ∈
          ((plain e scope).runOn o (.update id (.obj body)) s).2.rowsOf e) := by
  cases hplan : (plain e scope).plan o (.update id (.obj body)) with
  | error error =>
    rw [runOn_of_refusal hplan] at hresult
    cases hresult
  | ok i =>
    obtain ⟨id', _, hbody, hissues, rfl⟩ := of_update hskip hplan
    cases hbody
    refine ⟨hissues, fun hsome => ?_⟩
    generalize e.changesOf (e.keptMembers .changes body) = changes at hplan hsome
    have hupdate : ∀ filter, (plain e scope).revision o.now changes filter =
        .update (e.stampUpdated o.now changes) filter := fun filter => if_neg (by rwa [List.isEmpty_iff])
    rw [runOn_of_plan hplan, Intent.runOn_call, hupdate, show (plain e scope).entity = e from rfl,
      MemoryStore.answer_update] at hresult ⊢
    rw [MemoryStore.rowsOf, MemoryStore.table_setTable]
    -- with no row to change, the update would not have succeeded
    cases hfound : (s.table e).rows.filter (Row.satisfies ((plain e scope).reach o.context [e.idEquals id'] false)) with
    | nil =>
      rw [hfound] at hresult
      cases hresult
    | cons row rest =>
      have hmem : row ∈ (s.table e).rows.filter
          (Row.satisfies ((plain e scope).reach o.context [e.idEquals id'] false)) := hfound ▸ List.mem_cons_self
      obtain ⟨hrow, hsatisfies⟩ := List.mem_filter.1 hmem
      exact ⟨row, List.mem_map.2 ⟨row, hrow, if_pos hsatisfies⟩⟩

/-- **An update that takes a required value away leaves a row without it.** -/
theorem exists_disobedient (h : e.Orderly) (hskip : o.context.skipValidation = false) {id : Json} {body : Row}
    (hnames : body.keys.Nodup) {answer : Answer}
    (hresult : ((plain e scope).runOn o (.update id (.obj body)) s).1 = .ok answer) {c : Column} (hc : e.Supplies c)
    (hrequires : e.Requires c.name) (hnull : body.get? c.name = some .null) :
    ∃ row ∈ ((plain e scope).runOn o (.update id (.obj body)) s).2.rowsOf e, ¬ e.Obeys row := by
  obtain ⟨hissues, hchanged⟩ := of_update_ok hskip hresult
  obtain ⟨row, hrow⟩ := hchanged (List.ne_nil_of_mem (Entity.mem_changes_of_given h hissues hc hnull))
  refine ⟨_, hrow, fun hobeys => ?_⟩
  have hpresent := hobeys.present c hc (.inr hrequires)
  rw [Entity.cell_assign_of_given h o.now hnames hissues hc hnull row] at hpresent
  cases hpresent

end Pipeline

/-! ## Runs -/

/-- One operation of a run: on the entity, within some scope and without hooks, or through any other pipeline. -/
inductive RunStep where
  | own (scope : Scope) (o : Occasion) (request : Request)
  | other (p : Pipeline) (o : Occasion) (request : Request)

namespace RunStep

def after (e : Entity) : RunStep → MemoryStore → MemoryStore
  | own scope o request, s => ((Pipeline.plain e scope).runOn o request s).2
  | other p o request, s => (p.runOn o request s).2

def afterAll (e : Entity) (steps : List RunStep) (s : MemoryStore) : MemoryStore :=
  steps.foldl (fun s step => step.after e s) s

/-- The operations on the entity are validated, and no object of changes has a name twice.  The other pipelines are for
other tables. -/
def Fits (e : Entity) : RunStep → Prop
  | own _ o request =>
    o.context.skipValidation = false ∧ ∀ id (body : Row), request = .update id (.obj body) → body.keys.Nodup
  | other p _ _ => p.entity.qualifiedName ≠ e.qualifiedName

/-- **The step takes a required value away**: it is an update that succeeds, with null for a column that a rule requires
a value in. -/
def Clears (e : Entity) (step : RunStep) (s : MemoryStore) : Prop :=
  ∃ scope o id answer, ∃ body : Row, step = own scope o (.update id (.obj body)) ∧
    ((Pipeline.plain e scope).runOn o (.update id (.obj body)) s).1 = .ok answer ∧
    ∃ c, e.Supplies c ∧ e.Requires c.name ∧ body.get? c.name = some .null

variable {e : Entity} {step : RunStep} {steps : List RunStep} {s : MemoryStore}

/-- **A step keeps the rows obedient** unless it takes a required value away. -/
theorem obeys_after (h : e.Orderly) (hfits : step.Fits e) (hclears : ¬ step.Clears e s)
    (hs : ∀ row ∈ s.rowsOf e, e.Obeys row) : ∀ row ∈ (step.after e s).rowsOf e, e.Obeys row := by
  cases step with
  | other p o request =>
    show ∀ row ∈ ((p.runOn o request s).2.table e).rows, e.Obeys row
    rw [Pipeline.table_runOn_of_ne hfits]
    exact hs
  | own scope o request =>
    refine Pipeline.obeys_runOn h hfits.1 hfits.2 (fun id body answer hupdate hresult c hc hrequires hnull => ?_) hs
    subst hupdate
    exact hclears ⟨scope, o, id, answer, body, rfl, hresult, c, hc, hrequires, hnull⟩

/-- An update that succeeds gives null to no column that may not be null. -/
theorem not_clears (h : e.Orderly) (hfits : step.Fits e)
    (hnullable : ∀ c, e.Supplies c → e.Requires c.name → c.nullable = false) (s : MemoryStore) : ¬ step.Clears e s := by
  rintro ⟨scope, o, id, answer, body, rfl, hresult, c, hc, hrequires, hnull⟩
  obtain ⟨hissues, -⟩ := Pipeline.of_update_ok hfits.1 hresult
  have hkept := Entity.kept_of_given hissues hc.ne_id (hc.hasColumn h) hnull
  have hfalse := hnullable c hc hrequires
  rw [(hc.of_kept h hissues hkept).2 rfl] at hfalse
  cases hfalse

theorem afterAll_concat (e : Entity) (steps : List RunStep) (step : RunStep) (s : MemoryStore) :
    afterAll e (steps ++ [step]) s = step.after e (afterAll e steps s) := by
  unfold afterAll
  rw [List.foldl_append]
  rfl

/-- **A run keeps the rows obedient** as long as no step of it takes a required value away. -/
theorem obeys_afterAll (h : e.Orderly) (hfits : ∀ step ∈ steps, step.Fits e)
    (hclears : ∀ pre step post, steps = pre ++ step :: post → ¬ step.Clears e (afterAll e pre .empty)) :
    ∀ row ∈ (afterAll e steps .empty).rowsOf e, e.Obeys row := by
  induction steps using List.reverseRecOn with
  | nil => exact fun row hrow => by cases hrow
  | append_singleton steps step ih =>
    rw [afterAll_concat]
    refine obeys_after h (hfits step (by simp)) (hclears steps step [] rfl) (ih ?_ fun pre step' post hsteps => ?_)
    · exact fun step' hstep => hfits step' (List.mem_append_left _ hstep)
    · exact hclears pre step' (post ++ [step]) (by simp [hsteps])

/-- **With no rule that requires a value where null may stand, the rows of every store that a run leads to obey.** -/
theorem obeys_of_not_nullable {settings : Settings} {ds : List Declaration} {es : List Entity}
    (hresolve : Declaration.resolve settings ds = .ok es) (he : e ∈ es)
    (hnullable : ∀ c, e.Supplies c → e.Requires c.name → c.nullable = false) (hfits : ∀ step ∈ steps, step.Fits e) :
    ∀ row ∈ (afterAll e steps .empty).rowsOf e, e.Obeys row := by
  have h := Entity.orderly_of_resolve hresolve he
  refine obeys_afterAll h hfits fun pre step post hsteps => not_clears h (hfits step ?_) hnullable _
  simp [hsteps]

/-- **The rows obey all along a run exactly when no update of the run takes a required value away.** -/
theorem rules_hold_iff {settings : Settings} {ds : List Declaration} {es : List Entity}
    (hresolve : Declaration.resolve settings ds = .ok es) (he : e ∈ es) (hfits : ∀ step ∈ steps, step.Fits e) :
    (∀ pre post, steps = pre ++ post → ∀ row ∈ (afterAll e pre .empty).rowsOf e, e.Obeys row) ↔
      ∀ pre step post, steps = pre ++ step :: post → ¬ step.Clears e (afterAll e pre .empty) := by
  have h := Entity.orderly_of_resolve hresolve he
  constructor
  · rintro hobeys pre step post hsteps ⟨scope, o, id, answer, body, rfl, hresult, c, hc, hrequires, hnull⟩
    have hstep : (own scope o (.update id (.obj body))).Fits e := hfits _ (by simp [hsteps])
    obtain ⟨row, hrow, hdisobeys⟩ :=
      Pipeline.exists_disobedient h hstep.1 (hstep.2 id body rfl) hresult hc hrequires hnull
    refine hdisobeys (hobeys (pre ++ [own scope o (.update id (.obj body))]) post (by simp [hsteps]) row ?_)
    rw [afterAll_concat]
    exact hrow
  · intro hclears pre post hsteps
    refine obeys_afterAll h (fun step hstep => hfits step (hsteps ▸ List.mem_append_left _ hstep)) ?_
    rintro pre' step post' rfl
    exact hclears pre' step (post' ++ post) (by simp [hsteps])

end RunStep

namespace Notes

/-- The title is required, and has at most five characters. -/
def titleRule : Rule := ⟨some true, none, some 5, none, none, none, none, none⟩

def titledDeclaration : Declaration := { declaration [] with rules := [("title", titleRule)] }

def titled : Entity := { entity [] with rules := [("title", titleRule)] }

def drafted : RunStep := .own .none (occasion "a") (.create (.obj [("id", .str "1"), ("title", .str "draft")]))

def retitled (title : Json) : RunStep := .own .none (occasion "a") (.update (.str "1") (.obj [("title", title)]))

end Notes

namespace RunStep

/-- A title that gives way to another one. -/
theorem rules_hold_iff_notes :
    Declaration.resolve .standard [Notes.titledDeclaration] = .ok [Notes.titled] ∧
      (∀ step ∈ [Notes.drafted, Notes.retitled (.str "final")], step.Fits Notes.titled) ∧
      (afterAll Notes.titled [Notes.drafted, Notes.retitled (.str "final")] .empty).rowsOf Notes.titled =
        [[("id", .str "1"), ("title", .str "final"), ("tenant", .null), ("team", .null), ("deleted_at", .null)]] ∧
      ∀ row ∈ (afterAll Notes.titled [Notes.drafted, Notes.retitled (.str "final")] .empty).rowsOf Notes.titled,
        Notes.titled.Obeys row := by
  have hresolve : Declaration.resolve .standard [Notes.titledDeclaration] = .ok [Notes.titled] := rfl
  have hfits : ∀ step ∈ [Notes.drafted, Notes.retitled (.str "final")], step.Fits Notes.titled := by
    intro step hstep
    rcases List.mem_cons.1 hstep with rfl | hstep
    · exact ⟨rfl, fun id body hbody => (by cases hbody)⟩
    · cases List.mem_singleton.1 hstep
      refine ⟨rfl, fun id body hbody => ?_⟩
      cases hbody
      exact List.pairwise_singleton _ "title"
  refine ⟨hresolve, hfits, rfl, ?_⟩
  refine (rules_hold_iff hresolve List.mem_cons_self hfits).2 ?_ _ [] (List.append_nil _).symm
  -- neither step gives null to the title
  rintro pre step post hsteps ⟨scope, o, id, answer, body, rfl, -, c, hc, ⟨r, hr, -⟩, hnull⟩
  have hupdate : RunStep.own scope o (.update id (.obj body)) = Notes.retitled (.str "final") := by
    have hmem : RunStep.own scope o (.update id (.obj body)) ∈ [Notes.drafted, Notes.retitled (.str "final")] := by
      simp [hsteps]
    rcases List.mem_cons.1 hmem with heq | hmem
    · cases heq
    · exact List.mem_singleton.1 hmem
  cases hupdate
  have hname : c.name = "title" := congrArg Prod.fst (List.mem_singleton.1 hr)
  rw [hname] at hnull
  cases hnull

/-- **A title that gives way to null**: the update succeeds, and the note is left without the title that is required. -/
theorem title_taken_away :
    Declaration.resolve .standard [Notes.titledDeclaration] = .ok [Notes.titled] ∧
      (afterAll Notes.titled [Notes.drafted, Notes.retitled .null] .empty).rowsOf Notes.titled =
        [[("id", .str "1"), ("title", .null), ("tenant", .null), ("team", .null), ("deleted_at", .null)]] ∧
      ∃ row ∈ (afterAll Notes.titled [Notes.drafted, Notes.retitled .null] .empty).rowsOf Notes.titled,
        ¬ Notes.titled.Obeys row := by
  refine ⟨rfl, rfl, _, List.mem_cons_self, fun hobeys => ?_⟩
  have htitle : Notes.titled.Supplies ⟨"title", true, false, none, some "text"⟩ :=
    ⟨by simp [Notes.titled, Notes.entity], rfl, rfl⟩
  have hpresent := hobeys.present _ htitle (.inr ⟨Notes.titleRule, List.mem_cons_self, rfl⟩)
  cases hpresent

end RunStep

end RecordService
