import RecordService.Proofs.Scope.View
/-!
# Lookup — asking for a record by its identifier

An identifier stands for what the validator makes of it (`Validators.idFor`), for every operation alike.  To ask for the
record is to ask for the first row of the view with this identifier (`plan_lookup`, and without a scope `runOn_lookup`), and
whatever else an operation is to do with the record, it does to rows with the identifier (`plan_within_id`).
-/
namespace RecordService

/-- The validators that follow from the entity, and no hooks. -/
def Pipeline.plain (e : Entity) (scope : Scope) : Pipeline := ⟨e, e.validators, .none, scope⟩

theorem Pipeline.plain_hooks (e : Entity) (scope : Scope) : (plain e scope).hooks = .none := rfl

/-! ## What an identifier stands for -/

namespace Entity

theorem idFor_of_not_skipped (e : Entity) {ctx : Context} (hskip : ctx.skipValidation = false) (id : Json) :
    e.validators.idFor ctx id = e.idValidator id := by
  unfold Validators.idFor
  rw [hskip]
  rfl

theorem idFor_of_parse {e : Entity} {ctx : Context} (hskip : ctx.skipValidation = false) {id id' : Json}
    (h : e.idType.parse id = .ok id') : e.validators.idFor ctx id = .ok id' := by
  rw [e.idFor_of_not_skipped hskip, idValidator, h]

/-! ### As a condition -/

/-- A single condition that is kept is accepted. -/
theorem conditionValidator_of_keep {e : Entity} {name : String} {v v' : Json} (h : e.judgeCondition name v = .keep v') :
    e.conditionValidator (.obj [(name, v)]) = .ok (.obj [(name, v')]) := by
  have hissues : e.conditionIssues [(name, v)] = [] := by simp [conditionIssues, h, Verdict.refusal?]
  have hkept : e.keptConditions [(name, v)] = [(name, v')] := by simp [keptConditions, h, Verdict.kept?]
  show (ServiceError.ofIssues (e.conditionIssues [(name, v)]) >>= fun _ =>
    Except.ok (Json.obj (e.keptConditions [(name, v)]))) = _
  rw [hissues, hkept]
  rfl

/-- A single condition that is refused is the only issue. -/
theorem conditionValidator_of_refuse {e : Entity} {name : String} {v : Json} {message : String}
    (h : e.judgeCondition name v = .refuse message) :
    e.conditionValidator (.obj [(name, v)]) = .error (.validation [⟨name, message⟩]) := by
  have hissues : e.conditionIssues [(name, v)] = [⟨name, message⟩] := by simp [conditionIssues, h, Verdict.refusal?]
  show (ServiceError.ofIssues (e.conditionIssues [(name, v)]) >>= fun _ =>
    Except.ok (Json.obj (e.keptConditions [(name, v)]))) = _
  rw [hissues]
  rfl

/-- As a condition, the identifier is judged as it is elsewhere. -/
theorem judgeCondition_id {e : Entity} (hcolumn : e.hasColumn e.idField = true) {id id' : Json}
    (hid : e.idValidator id = .ok id') : e.judgeCondition e.idField id = .keep id' := by
  unfold idValidator at hid
  cases hparse : e.idType.parse id with
  | error message => rw [hparse] at hid; cases hid
  | ok parsed =>
    rw [hparse] at hid
    cases hid
    have hnull : id.isNull = false := by
      cases id with
      | null => cases htype : e.idType <;> rw [htype] at hparse <;> cases hparse
      | _ => rfl
    simp [judgeCondition, hcolumn, hnull, hparse, Verdict.ofExcept]

theorem conditions_of_id {e : Entity} (hcolumn : e.hasColumn e.idField = true) {ctx : Context} {id id' : Json}
    (hid : e.validators.idFor ctx id = .ok id') :
    Hooks.none.validated .findOne (.obj [(e.idField, id)]) ctx e.conditionValidator = .ok (.obj [(e.idField, id')]) := by
  unfold Validators.idFor at hid
  rw [Hooks.validated_none]
  cases hskip : ctx.skipValidation with
  | true =>
    rw [hskip] at hid
    cases hid
    rfl
  | false =>
    rw [hskip] at hid
    exact conditionValidator_of_keep (judgeCondition_id hcolumn hid)

/-- To have the identifier is to have one that equals it, as the store compares cells. -/
theorem satisfies_idEquals (e : Entity) {id : Json} (hnull : id.isNull = false) (row : Row) :
    row.satisfies [e.idEquals id] = Cell.equal (row.cell e.idField) id := by
  rw [Row.satisfies_singleton]
  unfold idEquals Predicate.eq
  cases hcell : row.cell e.idField <;> cases id <;> simp_all [Predicate.holds, Comparison.holds, Json.isNull, Cell.equal,
    Cell.isNumber, Cell.real?, Json.same]

end Entity

namespace Pipeline

variable {e : Entity} {scope : Scope} {o : Occasion} {id id' : Json}

/-- The request for the record with the identifier. -/
def lookup (e : Entity) (id : Json) (includeDeleted : Bool) : Request :=
  .findOne (.obj [(e.idField, id)]) includeDeleted

theorem reach_of_unscoped (hscope : e.scope = []) (ctx : Context) (ps : List Predicate) (includeDeleted : Bool) :
    (Pipeline.of e).reach ctx ps includeDeleted = ps ++ visibility e.softDelete includeDeleted := by
  have hnone : (Pipeline.of e).scope = .none := by
    show Scope.ofRules e.scope = .none
    rw [hscope]
    rfl
  rw [reach, applyVisibility, Scope.apply, hnone]
  exact congrArg (· ++ _) (List.append_nil ps)

/-! ## Asking for the record -/

theorem plan_lookup (hcolumn : e.hasColumn e.idField = true) (hid : e.validators.idFor o.context id = .ok id')
    (hnull : id'.isNull = false) (includeDeleted : Bool) :
    (plain e scope).plan o (lookup e id includeDeleted) =
      .ok (.find ((plain e scope).reach o.context [e.idEquals id'] includeDeleted)) := by
  have hconditions : e.conditionsOf [(e.idField, id')] = [e.idEquals id'] := by
    simp [Entity.conditionsOf, hnull, hcolumn, Entity.idEquals]
  show Intended.findOne (plain e scope) .none o.context (.obj [(e.idField, id)]) includeDeleted = _
  unfold Intended.findOne
  rw [show Hooks.none.validated .findOne (.obj [(e.idField, id)]) o.context (plain e scope).validators.conditions =
    .ok (.obj [(e.idField, id')]) from Entity.conditions_of_id hcolumn hid]
  show (if (e.conditionsOf [(e.idField, id')]).isEmpty then _
    else Except.ok (Intent.find ((plain e scope).reach o.context (e.conditionsOf [(e.idField, id')]) includeDeleted))) = _
  rw [hconditions]
  rfl

/-- **Without a scope, the first row that has the identifier and is visible is found.** -/
theorem runOn_lookup (hcolumn : e.hasColumn e.idField = true) (hscope : e.scope = [])
    (hid : e.validators.idFor o.context id = .ok id') (hnull : id'.isNull = false) (includeDeleted : Bool)
    (t : MemoryStore) :
    (Pipeline.of e).runOn o (lookup e id includeDeleted) t =
      (.ok (.found (t.visible e ([e.idEquals id'] ++ visibility e.softDelete includeDeleted)).head?), t) := by
  have hplan : (Pipeline.of e).plan o (lookup e id includeDeleted) =
      .ok (.find ((Pipeline.of e).reach o.context [e.idEquals id'] includeDeleted)) :=
    plan_lookup hcolumn hid hnull includeDeleted
  rw [runOn_of_plan hplan, Intent.runOn_find, reach_of_unscoped hscope]
  rfl

end Pipeline

/-! ## Doing something with the record -/

namespace Request

/-- The request is about the record with the identifier, and to change or to remove it. -/
inductive Alters (id : Json) : Request → Prop where
  | update (data : Json) : Alters id (.update id data)
  | deleteOne : Alters id (.deleteOne id)
  | restore : Alters id (.restore id)
  | permanentDelete : Alters id (.permanentDelete id)

end Request

namespace Pipeline

variable {e : Entity} {scope : Scope} {o : Occasion} {id id' : Json} {request : Request} {i : Intent}

theorem id_of_validated {operation : Operation} {valid : Json} (hid : e.validators.idFor o.context id = .ok id')
    (h : Hooks.none.validated operation id o.context e.idValidator = .ok valid) : valid = id' := by
  exact Except.ok.inj (h.symm.trans ((Validators.validated_id e.validators operation id o.context).trans hid))

/-- The identifier of an update is validated like that of every other operation. -/
theorem id_of_argumentsFor {data data' valid : Json} (hid : e.validators.idFor o.context id = .ok id')
    (h : (plain e scope).argumentsFor .none id data o.context = .ok (valid, data')) : valid = id' := by
  obtain ⟨validate, hvalidate, h⟩ := ok_of_bind h
  rw [Hooks.admits_none] at hvalidate
  unfold Validators.idFor at hid
  cases hskip : o.context.skipValidation <;> rw [hskip] at hvalidate hid <;> cases hvalidate
  · obtain ⟨valid', hvalid, h⟩ := ok_of_bind h
    obtain ⟨_, -, h⟩ := ok_of_bind h
    cases h
    exact Except.ok.inj (hvalid.symm.trans hid)
  · cases h
    cases hid
    rfl

/-- **What alters a record is confined to the rows with its identifier.** -/
theorem plan_within_id (hid : e.validators.idFor o.context id = .ok id') (hrequest : request.Alters id)
    (hi : (plain e scope).plan o request = .ok i) : i.Within (plain e scope) [e.idEquals id'] := by
  cases hrequest with
  | update data =>
    obtain ⟨valid, data', revised, row, harguments, -, -, rfl⟩ := Intended.of_update hi
    cases id_of_argumentsFor hid harguments
    exact revision_within _ _ (reach_narrows _ _ _ _)
  | deleteOne =>
    obtain ⟨valid, hvalid, rfl⟩ := Intended.of_deleteOne hi
    cases id_of_validated hid hvalid
    exact removal_within _ (reach_narrows _ _ _ _)
  | restore =>
    obtain ⟨s, valid, -, hvalid, rfl⟩ := Intended.of_restore hi
    cases id_of_validated hid hvalid
    exact reach_narrows _ _ _ _
  | permanentDelete =>
    obtain ⟨valid, hvalid, rfl⟩ := Intended.of_permanentDelete hi
    cases id_of_validated hid hvalid
    exact ⟨reach_narrows _ _ _ _, reach_narrows _ _ _ _⟩

end Pipeline

end RecordService
