import RecordService.Proofs.Record.Lookup
import RecordService.Proofs.Store.Representation
import RecordService.Proofs.Validate.Id
/-!
# Creation — the row that a record is stored as

A record that is accepted keeps its members that are columns, the identifier in its own form (`get?_keptMembers`), and is
given the times it lacks (`get?_stampCreated`).  The store fills what is left out (`Table.get?_prepare`).  Rows come into
a table in no other way (`inserted_of_plan`).
-/
namespace RecordService

namespace Entity

variable {e : Entity}

/-! ## The members that are kept -/

/-- Whether a member is passed over depends on its name only. -/
theorem judge_pass {payload : Payload} {name : String} {v : Json} (h : e.judge payload name v = .pass) (w : Json) :
    e.judge payload name w = .pass := by
  unfold judge at h ⊢
  cases hcolumn : e.column? name with
  | none => rfl
  | some c =>
    rw [hcolumn] at h
    dsimp only at h ⊢
    split at h
    · rename_i hid
      rw [if_pos hid]
      cases payload with
      | record => cases hparse : e.idType.parse v <;> rw [hparse] at h <;> cases h
      | changes => rfl
    · split at h <;> cases h

theorem get?_keptMembers {payload : Payload} (name : String) : ∀ {body : Row}, e.memberIssues payload body = [] →
    (e.keptMembers payload body).get? name = (body.get? name).bind fun v => (e.judge payload name v).kept?
  | [], _ => rfl
  | (k, v) :: rest, h => by
    unfold memberIssues at h
    unfold keptMembers
    rw [List.filterMap_cons] at h ⊢
    cases hjudge : e.judge payload k v with
    | keep w =>
      simp only [hjudge, Verdict.refusal?, Option.map_none, Verdict.kept?, Option.map_some] at h ⊢
      have ih := get?_keptMembers name h
      rw [Row.get?, Row.get?]
      by_cases hk : k = name
      · rw [if_pos hk, if_pos hk, ← hk, Option.bind_some, hjudge]
      · rw [if_neg hk, if_neg hk]
        exact ih
    | pass =>
      simp only [hjudge, Verdict.refusal?, Option.map_none, Verdict.kept?] at h ⊢
      have ih := get?_keptMembers name h
      rw [Row.get?]
      by_cases hk : k = name
      · subst hk
        rw [if_pos rfl, Option.bind_some, hjudge]
        refine ih.trans ?_
        cases Row.get? rest k with
        | none => rfl
        | some w => rw [Option.bind_some, judge_pass hjudge w]; rfl
      · rw [if_neg hk]
        exact ih
    | refuse message => simp [hjudge, Verdict.refusal?] at h

/-! ## The times -/

/-- The column is one for a time that is written when a record is created. -/
def stamps (e : Entity) (name : String) : Bool := e.createdAt == some name || e.updatedAt == some name

theorem get?_foldl_stampMissing (now name : String) : ∀ (columns : List String) (row : Row),
    (columns.foldl (stampMissing now) row).get? name =
      if name ∈ columns ∧ (row.get? name).all Json.isNull = true then some (.str now) else row.get? name
  | [], row => by simp
  | column :: rest, row => by
    rw [List.foldl_cons, get?_foldl_stampMissing now name rest]
    unfold stampMissing
    by_cases hcolumn : name = column
    · subst hcolumn
      by_cases hmissing : (row.get? name).all Json.isNull = true
      · simp [hmissing, Row.get?_set, Json.isNull]
      · simp [hmissing]
    · by_cases hmissing : (row.get? column).all Json.isNull = true
      · simp [hmissing, hcolumn, Row.get?_set]
      · simp [hmissing, hcolumn]

/-- **A time is written where the row has no value of its own.** -/
theorem get?_stampCreated (e : Entity) (now : String) (row : Row) (name : String) :
    (e.stampCreated now row).get? name =
      if e.stamps name && (row.get? name).all Json.isNull then some (.str now) else row.get? name := by
  unfold stampCreated stamps
  rw [get?_foldl_stampMissing]
  simp only [List.mem_append, Option.mem_toList, Bool.and_eq_true, Bool.or_eq_true, beq_iff_eq]

end Entity

/-! ## What the store fills in -/

namespace Table

variable {e : Entity}

theorem get?_prepare (hid : e.hasColumn e.idField = true) (draw : String) (input : Row) (lastId : Int)
    (name : String) : (prepare e draw input lastId).1.get? name =
      (e.column? name).map fun c => (input.get? name).getD
        (if name = e.idField then (freshId e draw lastId).1 else defaultValue c) := by
  unfold prepare
  rw [hid]
  split
  · rename_i hhas
    -- the identifier is there, so that nothing has to be drawn for it
    have hinput : (input.get? e.idField).isSome = true := by simpa [Row.has] using hhas
    obtain ⟨v, hv⟩ := Option.isSome_iff_exists.1 hinput
    rw [get?_complete]
    by_cases hname : name = e.idField
    · rw [hname, hv]
      rfl
    · simp only [if_neg hname]
  · exact get?_complete e input _ name

theorem cell_prepare_id (hid : e.hasColumn e.idField = true) (draw : String) (input : Row) (lastId : Int) :
    (prepare e draw input lastId).1.cell e.idField = (input.get? e.idField).getD (freshId e draw lastId).1 := by
  obtain ⟨c, hc⟩ := Option.isSome_iff_exists.1 hid
  rw [Row.cell, get?_prepare hid, hc, Option.map_some, if_pos rfl]
  rfl

/-- A batch of one is refused for its identifier, or stored. -/
theorem insertAll_singleton (e : Entity) (draws : List String) (input : Row) (t : Table) :
    insertAll e draws [input] t =
      if hasId e ((prepare e (draws.headD "") input t.lastId).1.cell e.idField) t.rows then
        .error (duplicate e ((prepare e (draws.headD "") input t.lastId).1.cell e.idField))
      else .ok ([(prepare e (draws.headD "") input t.lastId).1],
        ⟨t.rows ++ [(prepare e (draws.headD "") input t.lastId).1], (prepare e (draws.headD "") input t.lastId).2⟩) := rfl

/-- **Rows come into a table from the inputs of a batch**, one for each. -/
theorem of_mem_insertAll : ∀ {inputs stored : List Row} {draws : List String} {t t' : Table},
    insertAll e draws inputs t = .ok (stored, t') → ∀ row ∈ t'.rows,
      row ∈ t.rows ∨ ∃ input ∈ inputs, ∃ draw lastId, row = (prepare e draw input lastId).1
  | [], _, _, _, _, h, row, hrow => by
    cases h
    exact .inl hrow
  | input :: inputs, _, draws, t, t', h, row, hrow => by
    obtain ⟨rest, -, hrest, -⟩ := of_insertAll_cons h
    rcases of_mem_insertAll hrest row hrow with hold | ⟨other, hother, draw, lastId, rfl⟩
    · rcases List.mem_append.1 hold with hold | hnew
      · exact .inl hold
      · exact .inr ⟨input, List.mem_cons_self, _, _, List.mem_singleton.1 hnew⟩
    · exact .inr ⟨other, List.mem_cons_of_mem _ hother, draw, lastId, rfl⟩

end Table

/-! ## Records that are accepted -/

theorem validation_of_expectObject {v : Json} {error : ServiceError} (h : expectObject v = .error error) :
    ∃ issues, error = .validation issues := by
  cases v <;> cases h <;> exact ⟨_, rfl⟩

namespace Entity

variable {e : Entity}

theorem validation_of_recordValidator {payload : Payload} {data : Json} {error : ServiceError}
    (h : e.recordValidator payload data = .error error) : ∃ issues, error = .validation issues := by
  rcases error_of_bind h with h | ⟨body, -, h⟩
  · exact validation_of_expectObject h
  · unfold checkRecord at h
    cases hissues : e.recordIssues payload body <;> rw [hissues] at h <;> cases h
    exact ⟨_, rfl⟩

theorem of_recordValidator {payload : Payload} {data valid : Json} (h : e.recordValidator payload data = .ok valid) :
    ∃ body, data = .obj body ∧ e.recordIssues payload body = [] ∧ valid = .obj (e.keptMembers payload body) := by
  obtain ⟨body, hbody, h⟩ := ok_of_bind h
  have hdata : data = .obj body := by
    unfold expectObject at hbody
    split at hbody <;> cases hbody
    rfl
  unfold checkRecord at h
  cases hissues : e.recordIssues payload body with
  | nil =>
    rw [hissues] at h
    cases h
    exact ⟨body, hdata, hissues, rfl⟩
  | cons issue rest =>
    rw [hissues] at h
    cases h

theorem memberIssues_of_recordIssues {payload : Payload} {body : Row} (h : e.recordIssues payload body = []) :
    e.memberIssues payload body = [] := by
  unfold recordIssues at h
  exact (List.append_eq_nil_iff.1 (List.append_eq_nil_iff.1 h).1).1

theorem refusal_of_memberIssues {payload : Payload} {body : Row} {name : String} {v : Json}
    (h : e.memberIssues payload body = []) (hv : body.get? name = some v) :
    (e.judge payload name v).refusal? = none := by
  have hnone := List.filterMap_eq_nil_iff.1 h (name, v) (Row.mem_of_get? hv)
  exact Option.map_eq_none_iff.1 hnone

theorem judge_id (hid : e.hasColumn e.idField = true) (v : Json) :
    e.judge .record e.idField v = .ofExcept (e.idType.parse v) := by
  obtain ⟨c, hc⟩ := Option.isSome_iff_exists.1 hid
  simp [judge, hc]

/-- An identifier that is given is stored in the form of its type. -/
theorem get?_stampCreated_of_id {body : Row} {v : Json} (hid : e.hasColumn e.idField = true)
    (hissues : e.recordIssues .record body = []) (now : String) (hv : body.get? e.idField = some v) :
    ∃ id, e.idType.parse v = .ok id ∧
      (e.stampCreated now (e.keptMembers .record body)).get? e.idField = some id := by
  have hmembers := memberIssues_of_recordIssues hissues
  have hrefusal := refusal_of_memberIssues hmembers hv
  rw [judge_id hid] at hrefusal
  cases hparse : e.idType.parse v with
  | error message =>
    rw [hparse] at hrefusal
    cases hrefusal
  | ok id =>
    have hkept : (e.keptMembers .record body).get? e.idField = some id := by
      rw [get?_keptMembers _ hmembers, hv, Option.bind_some, judge_id hid, hparse]
      rfl
    have hnull : id.isNull = false := by
      rcases IdType.scalar_of_parse hparse with ⟨s, rfl⟩ | ⟨n, rfl⟩ <;> rfl
    refine ⟨id, rfl, ?_⟩
    rw [get?_stampCreated, hkept, Option.all_some, hnull, Bool.and_false]
    rfl

theorem get?_stampCreated_of_no_id {body : Row} (hissues : e.recordIssues .record body = []) (now : String)
    (hnone : body.get? e.idField = none) :
    (e.stampCreated now (e.keptMembers .record body)).get? e.idField =
      if e.stamps e.idField then some (.str now) else none := by
  rw [get?_stampCreated, get?_keptMembers _ (memberIssues_of_recordIssues hissues), hnone]
  simp

/-- The row that a record comes to when it is accepted. -/
def newRow (e : Entity) (now draw : String) (body : Row) (lastId : Int) : Row :=
  (Table.prepare e draw (e.stampCreated now (e.keptMembers .record body)) lastId).1

/-- **The row is made of a record that was accepted at the time.** -/
def Stamped (e : Entity) (now : String) (row : Row) : Prop :=
  ∃ body, e.recordIssues .record body = [] ∧ row = e.stampCreated now (e.keptMembers .record body)

end Entity

namespace Pipeline

variable {e : Entity} {scope : Scope} {o : Occasion} {request : Request} {i : Intent}

theorem validator_of_validated {operation : Operation} {data valid : Json} {ctx : Context} {validator : Validator}
    (hskip : ctx.skipValidation = false) (h : Hooks.none.validated operation data ctx validator = .ok valid) :
    validator data = .ok valid := by
  rw [Hooks.validated_none, hskip] at h
  exact h

theorem of_create (hskip : o.context.skipValidation = false) {data : Json}
    (hi : (plain e scope).plan o (.create data) = .ok i) :
    ∃ body, data = .obj body ∧ e.recordIssues .record body = [] ∧
      i = .call (.insert [e.stampCreated o.now (e.keptMembers .record body)]) .stored := by
  obtain ⟨valid, revised, row, hvalid, hrevised, hrow, rfl⟩ := Intended.of_create hi
  obtain ⟨body, rfl, hissues, rfl⟩ := Entity.of_recordValidator (validator_of_validated hskip hvalid)
  cases hrevised
  cases hrow
  exact ⟨body, rfl, hissues, rfl⟩

theorem ok_of_inElement {α : Type} {i : Nat} {result : Except ServiceError α} {a : α}
    (h : inElement i result = .ok a) : result = .ok a := by
  cases result with
  | ok b => exact h
  | error error => cases h

theorem stamped_of_recordsFor {now : String} : ∀ {records : List Json} {i : Nat} {rows : List Row},
    (plain e scope).recordsFor .none (fun _ => now) true i records = .ok rows → ∀ row ∈ rows, e.Stamped now row
  | [], _, _, h => by cases h; simp
  | record :: rest, i, rows, h => by
    obtain ⟨valid, hvalid, h⟩ := ok_of_bind h
    obtain ⟨revised, hrevised, h⟩ := ok_of_bind h
    obtain ⟨row, hrow, h⟩ := ok_of_bind h
    obtain ⟨others, hothers, h⟩ := ok_of_bind h
    cases h
    cases hrevised
    obtain ⟨body, -, hissues, rfl⟩ := Entity.of_recordValidator (ok_of_inElement hvalid)
    cases hrow
    exact List.forall_mem_cons.2 ⟨⟨body, hissues, rfl⟩, stamped_of_recordsFor hothers⟩

/-- **Whatever is inserted was accepted**, record by record. -/
theorem inserted_of_plan (hskip : o.context.skipValidation = false) (hi : (plain e scope).plan o request = .ok i)
    {rows : List Row} (hinsert : i.change? = some (.insert rows)) : ∀ row ∈ rows, e.Stamped o.now row := by
  cases hcreates : request.creates with
  | false =>
    -- nothing is inserted within a view
    have hwithin := plan_within hcreates hi
    cases i with
    | call c outcome =>
      cases hinsert
      exact hwithin.elim
    | _ => cases hinsert
  | true =>
    cases request with
    | create data =>
      obtain ⟨body, -, hissues, rfl⟩ := of_create hskip hi
      cases hinsert
      exact List.forall_mem_singleton.2 ⟨body, hissues, rfl⟩
    | bulkCreate records =>
      obtain ⟨-, rfl⟩ | ⟨validate, stored, hvalidate, hstored, rfl⟩ := Intended.of_bulkCreate hi
      · cases hinsert
      · have htrue : validate = true := by
          rw [plain_hooks, Hooks.admits_none, hskip] at hvalidate
          exact (Except.ok.inj hvalidate).symm
        cases hinsert
        rw [htrue] at hstored
        exact stamped_of_recordsFor hstored
    | _ => cases hcreates

/-! ## A single record -/

theorem runOn_create {s : MemoryStore} {data : Json} {row : Row}
    (hi : (plain e scope).plan o (.create data) = .ok (.call (.insert [row]) .stored)) :
    (plain e scope).runOn o (.create data) s =
      let stored := Table.prepare e (o.draws.headD "") row (s.table e).lastId
      if Table.hasId e (stored.1.cell e.idField) (s.rowsOf e) then
        (.error (Table.duplicate e (stored.1.cell e.idField)), s)
      else (.ok (.row stored.1), s.setTable e ⟨s.rowsOf e ++ [stored.1], stored.2⟩) := by
  rw [runOn_of_plan hi, Intent.runOn_call, show (plain e scope).entity = e from rfl, MemoryStore.answer_insert,
    Table.insertAll_singleton]
  unfold MemoryStore.rowsOf
  dsimp only
  generalize Table.prepare e (o.draws.headD "") row (s.table e).lastId = stored
  cases Table.hasId e (stored.1.cell e.idField) (s.table e).rows <;> rfl

/-- **A record that was created was accepted, and its row is added to the table**, where none had its identifier. -/
theorem of_created {s : MemoryStore} {body row : Row} (hskip : o.context.skipValidation = false)
    (h : ((plain e scope).runOn o (.create (.obj body)) s).1 = .ok (.row row)) :
    e.recordIssues .record body = [] ∧
      row = e.newRow o.now (o.draws.headD "") body (s.table e).lastId ∧
      Table.hasId e (row.cell e.idField) (s.rowsOf e) = false ∧
      ((plain e scope).runOn o (.create (.obj body)) s).2.rowsOf e = s.rowsOf e ++ [row] := by
  cases hplan : (plain e scope).plan o (.create (.obj body)) with
  | error error =>
    rw [runOn_of_refusal hplan] at h
    cases h
  | ok i =>
    obtain ⟨_, hbody, hissues, rfl⟩ := of_create hskip hplan
    cases hbody
    rw [runOn_create hplan] at h ⊢
    unfold Entity.newRow
    dsimp only at h ⊢
    generalize Table.prepare e _ _ _ = stored at h ⊢
    by_cases hfresh : Table.hasId e (stored.1.cell e.idField) (s.rowsOf e) = true
    · rw [if_pos hfresh] at h
      cases h
    · rw [if_neg hfresh] at h ⊢
      cases h
      refine ⟨hissues, rfl, Bool.eq_false_iff.2 hfresh, ?_⟩
      rw [MemoryStore.rowsOf, MemoryStore.table_setTable]

/-- A record with an identifier is to be inserted with it. -/
theorem insert_of_create {body : Row} {id id' : Json} (hcolumn : e.hasColumn e.idField = true)
    (hid : e.validators.idFor o.context id = .ok id') (hnull : id'.isNull = false) (hbody : body.get? e.idField = some id)
    (hi : (plain e scope).plan o (.create (.obj body)) = .ok i) :
    ∃ row, i = .call (.insert [row]) .stored ∧ row.get? e.idField = some id' := by
  cases hskip : o.context.skipValidation with
  | false =>
    obtain ⟨body', hbody', hissues, rfl⟩ := of_create hskip hi
    cases hbody'
    obtain ⟨id'', hparse, hget⟩ := Entity.get?_stampCreated_of_id hcolumn hissues o.now hbody
    rw [e.idFor_of_not_skipped hskip, Entity.idValidator, hparse] at hid
    cases hid
    exact ⟨_, rfl, hget⟩
  | true =>
    obtain ⟨valid, revised, row, hvalid, hrevised, hrow, rfl⟩ := Intended.of_create hi
    unfold Validators.idFor at hid
    rw [plain_hooks, Hooks.validated_none, hskip] at hvalid
    rw [hskip] at hid
    cases hvalid
    cases hid
    cases hrevised
    cases hrow
    refine ⟨_, rfl, ?_⟩
    rw [Entity.get?_stampCreated, hbody, Option.all_some, hnull, Bool.and_false]
    rfl

/-- What refuses a record before any store is asked is its validation. -/
theorem validation_of_create_refused {data : Json} {error : ServiceError}
    (h : (plain e scope).plan o (.create data) = .error error) : ∃ issues, error = .validation issues := by
  rcases error_of_bind h with h | ⟨valid, -, h⟩
  · rcases error_of_bind h with h | ⟨validate, -, h⟩
    · rw [plain_hooks, Hooks.admits_none] at h
      cases h
    · cases validate with
      | true => exact Entity.validation_of_recordValidator h
      | false => cases h
  · rcases error_of_bind h with h | ⟨revised, -, h⟩
    · cases h
    · rcases error_of_bind h with h | ⟨row, -, h⟩
      · unfold recordOf at h
        split at h
        · cases h
        · exact validation_of_expectObject h
      · cases h

end Pipeline

end RecordService
