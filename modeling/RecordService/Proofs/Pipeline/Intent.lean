import RecordService.Pipeline.Perform
import RecordService.Proofs.Basic
/-!
# Intents — what an operation asks of the store, once its arguments are settled

Every operation has two parts.  First its arguments are validated and revised, which asks the hooks and nothing
else; then it makes its calls to the store.  `Pipeline.intent` is the first part, `Intent.program` the second, and
`perform_opens` says that an operation is the one followed by the other, whatever the surroundings.
-/
namespace RecordService

/-! ## Compositions -/

namespace Program

variable {α β σ : Type}

theorem bind_assoc {γ : Type} : ∀ (x : Program α) (f : α → Program β) (g : β → Program γ),
    x >>= f >>= g = x >>= fun a => f a >>= g
  | .done (.ok _), _, _ => rfl
  | .done (.error _), _, _ => rfl
  | .ask c next, f, g => congrArg (Program.ask c) (funext fun reply => bind_assoc (next reply) f g)

/-! ### Asking the hooks

What the hooks answer depends on no state, so that the calls to them can be made ahead. -/

/-- What is left of a program when the hooks have answered for as long as they are asked. -/
def afterHooks (h : Hooks) : Program α → Program α
  | .done result => .done result
  | .ask (.permit operation data ctx) next => (next (h.permit operation data ctx)).afterHooks h
  | .ask (.revise stage data) next => (next (h.revise stage data)).afterHooks h
  | .ask (.rows store e call) next => .ask (.rows store e call) next
  | .ask (.count store e filter) next => .ask (.count store e filter) next

theorem run_afterHooks (w : Surroundings σ) : ∀ (x : Program α) (s : σ), (x.afterHooks w.hooks).run w s = x.run w s
  | .done _, _ => rfl
  | .ask (.permit operation data ctx) next, s => run_afterHooks w (next (w.hooks.permit operation data ctx)) s
  | .ask (.revise stage data) next, s => run_afterHooks w (next (w.hooks.revise stage data)) s
  | .ask (.rows _ _ _) _, _ => rfl
  | .ask (.count _ _ _) _, _ => rfl

variable {h : Hooks}

/-- **A program settles to a result** when it asks hooks only and comes to the result. -/
def Settles (h : Hooks) (x : Program α) (r : Except ServiceError α) : Prop := x.afterHooks h = .done r

/-- **A program opens with a result** when it asks hooks only until it ends at an error of the result, or goes on from
its value. -/
def OpensWith (h : Hooks) (x : Program β) (r : Except ServiceError α) (k : α → Program β) : Prop :=
  x.afterHooks h =
    match r with
    | .ok a => (k a).afterHooks h
    | .error e => fail e

theorem settles_pure (a : α) : (pure a : Program α).Settles h (.ok a) := rfl

theorem settles_lift (r : Except ServiceError α) : (liftM r : Program α).Settles h r := rfl

theorem settles_revise (stage : Stage) (data : Json) : (call (.revise stage data)).Settles h (h.revise stage data) := rfl

theorem opensWith_of_eq {x : Program β} {k : α → Program β} {a : α} (hx : x = k a) : x.OpensWith h (.ok a) k :=
  congrArg (afterHooks h) hx

theorem opensWith_error (k : α → Program β) (e : ServiceError) : (fail e : Program β).OpensWith h (.error e) k := rfl

/-- A settled part in front is passed over. -/
theorem Settles.afterHooks_bind {f : α → Program β} {r : Except ServiceError α} : ∀ {x : Program α}, x.Settles h r →
    (x >>= f).OpensWith h r f
  | .done _, hx => by
    cases hx
    cases r <;> rfl
  | .ask (.permit operation data ctx) next, hx => Settles.afterHooks_bind (x := next (h.permit operation data ctx)) hx
  | .ask (.revise stage data) next, hx => Settles.afterHooks_bind (x := next (h.revise stage data)) hx
  | .ask (.rows store e call) next, hx => by cases hx
  | .ask (.count store e filter) next, hx => by cases hx

theorem Settles.bind {x : Program α} {r : Except ServiceError α} {f : α → Program β}
    {g : α → Except ServiceError β} (hx : x.Settles h r) (hf : ∀ a, (f a).Settles h (g a)) :
    (x >>= f).Settles h (r >>= g) := by
  refine hx.afterHooks_bind.trans ?_
  cases r with
  | ok a => exact hf a
  | error e => rfl

/-- A settled part in front of a program that opens with a result is one more step of the opening. -/
theorem Settles.opens {γ : Type} {x : Program α} {r : Except ServiceError α} {f : α → Program β}
    {g : α → Except ServiceError γ} {k : γ → Program β} (hx : x.Settles h r)
    (hf : ∀ a, (f a).OpensWith h (g a) k) : (x >>= f).OpensWith h (r >>= g) k := by
  refine hx.afterHooks_bind.trans ?_
  cases r with
  | ok a => exact hf a
  | error e => rfl

theorem OpensWith.run_ok {w : Surroundings σ} {x : Program β} {a : α} {k : α → Program β}
    (hx : x.OpensWith w.hooks (.ok a) k) (s : σ) : x.run w s = (k a).run w s := by
  rw [← run_afterHooks, show x.afterHooks w.hooks = (k a).afterHooks w.hooks from hx, run_afterHooks]

theorem OpensWith.run_error {w : Surroundings σ} {x : Program β} {e : ServiceError} {k : α → Program β}
    (hx : x.OpensWith w.hooks (.error e) k) (s : σ) : x.run w s = (.error e, s) := by
  rw [← run_afterHooks, show x.afterHooks w.hooks = fail e from hx]
  rfl

end Program

/-! ## Intents -/

/-- What the rows that a call answers with come to. -/
inductive Outcome where
  /-- The row that was stored. -/
  | stored
  /-- The first row, which has to be there. -/
  | current (id : Json)
  | affected
  /-- How many rows there are, which is at least one. -/
  | affectedSome (id : Json)
  | created

def Outcome.answer (p : Pipeline) : Outcome → List Row → Except ServiceError Answer
  | .stored, rows =>
    match rows.getLast? with
    | some row => .ok (.row row)
    | none => .error (.database .noRow)
  | .current id, rows => p.firstOrNotFound id rows
  | .affected, rows => .ok (.affected rows.length)
  | .affectedSome id, rows => p.affectedOrNotFound id rows.length
  | .created, rows => .ok (.created rows)

inductive Intent where
  /-- The answer is known, and no store is asked. -/
  | answer (answer : Answer)
  /-- The first row, if there is one. -/
  | find (filter : List Predicate)
  /-- A window of the rows, and how many there are in all. -/
  | page (filter : List Predicate) (orderBy : List OrderBy) (bounds : PageBounds)
  | call (call : RowCall) (outcome : Outcome)
  /-- Removes rows, if the identifier is known at all. -/
  | expunge (id : Json) (filter : List Predicate)

def Intent.program (p : Pipeline) (ctx : Context) : Intent → Program Answer
  | .answer a => return a
  | .find filter => do
    let rows ← p.rows ctx (.select (.firstOf filter))
    return .found rows.head?
  | .page filter orderBy bounds => do
    let rows ← p.rows ctx (.select ⟨filter, orderBy, some bounds.perPage, some bounds.offset⟩)
    let total ← Program.call (.count ctx.store p.entity filter)
    return .page (Page.of rows bounds total)
  | .call c outcome => do
    let rows ← p.rows ctx c
    outcome.answer p rows
  | .expunge id filter => do
    let present ← p.rows ctx (.select (.firstOf [p.entity.idEquals id]))
    if present.isEmpty then .fail (p.entity.notFound id)
    else
      let removed ← p.rows ctx (.delete filter)
      p.affectedOrNotFound id removed.length

theorem Intent.program_call (p : Pipeline) (ctx : Context) (c : RowCall) (outcome : Outcome) :
    (call c outcome).program p ctx =
      .ask (.rows ctx.store p.entity c) fun reply => .done (reply >>= outcome.answer p) := by
  refine congrArg (Program.ask (.rows ctx.store p.entity c)) (funext fun reply => ?_)
  cases reply <;> rfl

/-! ## Settling the arguments -/

namespace Entity

variable {e : Entity} {s : SoftDelete}

theorem requireSoftDelete_eq_ok_iff : e.requireSoftDelete = .ok s ↔ e.softDelete = some s := by
  unfold requireSoftDelete
  cases e.softDelete <;> simp

theorem requireSoftDelete_of_none (h : e.softDelete = none) :
    e.requireSoftDelete = .error (.usage (e.name ++ " has no soft delete configured")) := by
  unfold requireSoftDelete
  rw [h]

end Entity

namespace Hooks

/-- Whether the data is to be validated, or why it is refused. -/
def admits (h : Hooks) (operation : Operation) (data : Json) (ctx : Context) : Except ServiceError Bool :=
  if ctx.skipValidation then .ok false else h.permit operation data ctx

def validated (h : Hooks) (operation : Operation) (data : Json) (ctx : Context) (validator : Validator) :
    Except ServiceError Json := do
  if ← h.admits operation data ctx then validator data else return data

/-! Without hooks it is the context alone that says what is validated. -/

theorem admits_none (operation : Operation) (data : Json) (ctx : Context) :
    none.admits operation data ctx = .ok (!ctx.skipValidation) := by
  unfold admits
  cases ctx.skipValidation <;> rfl

theorem validated_none (operation : Operation) (data : Json) (ctx : Context) (validator : Validator) :
    none.validated operation data ctx validator = if ctx.skipValidation then .ok data else validator data := by
  unfold validated
  rw [admits_none]
  cases ctx.skipValidation <;> rfl

end Hooks

namespace Validators

/-- The identifier that a value stands for: what the validator leaves of it, where it is validated. -/
def idFor (v : Validators) (ctx : Context) (id : Json) : Except ServiceError Json :=
  if ctx.skipValidation then .ok id else v.id id

/-- The identifiers that the values of a list stand for. -/
def idsFor (v : Validators) (ctx : Context) (ids : List Json) : Except ServiceError (List Json) :=
  if ctx.skipValidation then .ok ids else Pipeline.checkIds v.id 0 ids

variable {v : Validators} {ctx ctx' : Context}

theorem validated_id (v : Validators) (operation : Operation) (id : Json) (ctx : Context) :
    Hooks.none.validated operation id ctx v.id = v.idFor ctx id := Hooks.validated_none operation id ctx v.id

theorem idFor_congr (v : Validators) (h : ctx'.skipValidation = ctx.skipValidation) (id : Json) :
    v.idFor ctx' id = v.idFor ctx id := by
  unfold idFor
  rw [h]

end Validators

namespace Pipeline

def idsFor (p : Pipeline) (h : Hooks) (operation : Operation) (ids : List Json) (ctx : Context) :
    Except ServiceError (List Json) := do
  if ← h.admits operation (.arr ids) ctx then checkIds p.validators.id 0 ids else return ids

theorem idsFor_none (p : Pipeline) (operation : Operation) (ids : List Json) (ctx : Context) :
    p.idsFor .none operation ids ctx = p.validators.idsFor ctx ids := by
  unfold idsFor Validators.idsFor
  rw [Hooks.admits_none]
  cases ctx.skipValidation <;> rfl

def paramsFor (p : Pipeline) (h : Hooks) (params : ListParams) (ctx : Context) : Except ServiceError ListParams := do
  if ← h.admits .list params.encode ctx then p.validators.list params.encode >>= ListParams.ofJson else return params

/-- The identifier and the data of an update. -/
def argumentsFor (p : Pipeline) (h : Hooks) (id data : Json) (ctx : Context) : Except ServiceError (Json × Json) := do
  if ← h.admits .update data ctx then return (← p.validators.id id, ← p.validators.changes data) else return (id, data)

def recordsFor (p : Pipeline) (h : Hooks) (clock : Nat → String) (validate : Bool) :
    Nat → List Json → Except ServiceError (List Row)
  | _, [] => .ok []
  | i, record :: rest => do
    let record ← if validate then inElement i (p.validators.record record) else pure record
    let record ← h.revise .create record
    let row ← inElement i (recordOf record)
    return p.entity.stampCreated (clock i) row :: (← p.recordsFor h clock validate (i + 1) rest)

/-- The changes that mark a record as deleted, or take the mark from it. -/
def marking (p : Pipeline) (now : String) (s : SoftDelete) (mark : Json) : Row := p.entity.stampUpdated now [(s.field, mark)]

def removal (p : Pipeline) (now : String) (filter : List Predicate) : RowCall :=
  match p.entity.softDelete with
  | some s => .update (p.marking now s (s.marker now)) filter
  | none => .delete filter

def revision (p : Pipeline) (now : String) (changes : Row) (filter : List Predicate) : RowCall :=
  if changes.isEmpty then .select (.firstOf filter) else .update (p.entity.stampUpdated now changes) filter

namespace Intended

variable (p : Pipeline) (h : Hooks) (now : String) (ctx : Context)

def create (data : Json) : Except ServiceError Intent := do
  let data ← h.validated .create data ctx p.validators.record
  let data ← h.revise .create data
  let row ← recordOf data
  return .call (.insert [p.entity.stampCreated now row]) .stored

def findOne (conditions : Json) (includeDeleted : Bool) : Except ServiceError Intent := do
  let conditions ← h.validated .findOne conditions ctx p.validators.conditions
  let row ← recordOf conditions
  if (p.entity.conditionsOf row).isEmpty then
    .error (.usage ("findOne on " ++ p.entity.name ++ " requires at least one condition"))
  else return .find (p.reach ctx (p.entity.conditionsOf row) includeDeleted)

def list (params : ListParams) : Except ServiceError Intent := do
  let params ← p.paramsFor h params ctx
  return .page (p.reach ctx (p.entity.asked params) params.includeDeleted) (p.entity.orderOf params)
    (p.entity.boundsOf params)

def update (id data : Json) : Except ServiceError Intent := do
  let (id, data) ← p.argumentsFor h id data ctx
  let data ← h.revise .update data
  let row ← recordOf data
  return .call (p.revision now (p.entity.changesOf row) (p.reach ctx [p.entity.idEquals id] false)) (.current id)

def deleteOne (id : Json) : Except ServiceError Intent := do
  let id ← h.validated .deleteOne id ctx p.validators.id
  return .call (p.removal now (p.reach ctx [p.entity.idEquals id] true)) .affected

def restore (id : Json) : Except ServiceError Intent := do
  let s ← p.entity.requireSoftDelete
  let id ← h.validated .restore id ctx p.validators.id
  return .call (.update (p.marking now s s.notDeletedValue) (p.reach ctx [p.entity.idEquals id] true)) (.affectedSome id)

def permanentDelete (id : Json) : Except ServiceError Intent := do
  let id ← h.validated .permanentDelete id ctx p.validators.id
  return .expunge id (p.reach ctx [p.entity.idEquals id] true)

def bulkCreate (clock : Nat → String) (records : List Json) : Except ServiceError Intent :=
  if records.isEmpty then return .answer (.created [])
  else do
    let validate ← h.admits .bulkCreate (.arr records) ctx
    let rows ← p.recordsFor h clock validate 0 records
    return .call (.insert rows) .created

def bulkDelete (ids : List Json) : Except ServiceError Intent :=
  if ids.isEmpty then return .answer (.affected 0)
  else do
    let ids ← p.idsFor h .bulkDelete ids ctx
    return .call (p.removal now (p.reach ctx [p.entity.idAmong ids] true)) .affected

def bulkRestore (ids : List Json) : Except ServiceError Intent := do
  let s ← p.entity.requireSoftDelete
  if ids.isEmpty then return .answer (.affected 0)
  else do
    let ids ← p.idsFor h .bulkRestore ids ctx
    return .call (.update (p.marking now s s.notDeletedValue) (p.reach ctx [p.entity.idAmong ids] true)) .affected

/-! What an intent that was settled says about the steps on the way to it. -/

variable {p h now ctx} {i : Intent}

theorem of_create {data : Json} (hi : create p h now ctx data = .ok i) :
    ∃ valid revised row, h.validated .create data ctx p.validators.record = .ok valid ∧
      h.revise .create valid = .ok revised ∧ recordOf revised = .ok row ∧
      i = .call (.insert [p.entity.stampCreated now row]) .stored := by
  obtain ⟨valid, hvalid, hi⟩ := ok_of_bind hi
  obtain ⟨revised, hrevised, hi⟩ := ok_of_bind hi
  obtain ⟨row, hrow, hi⟩ := ok_of_bind hi
  exact ⟨valid, revised, row, hvalid, hrevised, hrow, (Except.ok.inj hi).symm⟩

theorem of_findOne {conditions : Json} {includeDeleted : Bool}
    (hi : findOne p h ctx conditions includeDeleted = .ok i) :
    ∃ c row, h.validated .findOne conditions ctx p.validators.conditions = .ok c ∧ recordOf c = .ok row ∧
      i = .find (p.reach ctx (p.entity.conditionsOf row) includeDeleted) := by
  obtain ⟨c, hc, hi⟩ := ok_of_bind hi
  obtain ⟨row, hrow, hi⟩ := ok_of_bind hi
  split at hi
  · cases hi
  · exact ⟨c, row, hc, hrow, (Except.ok.inj hi).symm⟩

theorem of_list {params : ListParams} (hi : list p h ctx params = .ok i) :
    ∃ params', p.paramsFor h params ctx = .ok params' ∧
      i = .page (p.reach ctx (p.entity.asked params') params'.includeDeleted) (p.entity.orderOf params')
        (p.entity.boundsOf params') := by
  obtain ⟨params', hparams, hi⟩ := ok_of_bind hi
  exact ⟨params', hparams, (Except.ok.inj hi).symm⟩

theorem of_update {id data : Json} (hi : update p h now ctx id data = .ok i) :
    ∃ id' data' revised row, p.argumentsFor h id data ctx = .ok (id', data') ∧
      h.revise .update data' = .ok revised ∧ recordOf revised = .ok row ∧
      i = .call (p.revision now (p.entity.changesOf row) (p.reach ctx [p.entity.idEquals id'] false)) (.current id') := by
  obtain ⟨⟨id', data'⟩, harguments, hi⟩ := ok_of_bind hi
  obtain ⟨revised, hrevised, hi⟩ := ok_of_bind hi
  obtain ⟨row, hrow, hi⟩ := ok_of_bind hi
  exact ⟨id', data', revised, row, harguments, hrevised, hrow, (Except.ok.inj hi).symm⟩

theorem of_deleteOne {id : Json} (hi : deleteOne p h now ctx id = .ok i) :
    ∃ id', h.validated .deleteOne id ctx p.validators.id = .ok id' ∧
      i = .call (p.removal now (p.reach ctx [p.entity.idEquals id'] true)) .affected := by
  obtain ⟨id', hid, hi⟩ := ok_of_bind hi
  exact ⟨id', hid, (Except.ok.inj hi).symm⟩

theorem of_restore {id : Json} (hi : restore p h now ctx id = .ok i) :
    ∃ s id', p.entity.requireSoftDelete = .ok s ∧ h.validated .restore id ctx p.validators.id = .ok id' ∧
      i = .call (.update (p.marking now s s.notDeletedValue) (p.reach ctx [p.entity.idEquals id'] true))
        (.affectedSome id') := by
  obtain ⟨s, hs, hi⟩ := ok_of_bind hi
  obtain ⟨id', hid, hi⟩ := ok_of_bind hi
  exact ⟨s, id', hs, hid, (Except.ok.inj hi).symm⟩

theorem of_permanentDelete {id : Json} (hi : permanentDelete p h ctx id = .ok i) :
    ∃ id', h.validated .permanentDelete id ctx p.validators.id = .ok id' ∧
      i = .expunge id' (p.reach ctx [p.entity.idEquals id'] true) := by
  obtain ⟨id', hid, hi⟩ := ok_of_bind hi
  exact ⟨id', hid, (Except.ok.inj hi).symm⟩

theorem of_bulkCreate {clock : Nat → String} {records : List Json} (hi : bulkCreate p h ctx clock records = .ok i) :
    (records = [] ∧ i = .answer (.created [])) ∨
    ∃ validate rows, h.admits .bulkCreate (.arr records) ctx = .ok validate ∧
      p.recordsFor h clock validate 0 records = .ok rows ∧ i = .call (.insert rows) .created := by
  unfold bulkCreate at hi
  split at hi
  · rename_i hempty
    exact .inl ⟨List.isEmpty_iff.1 hempty, (Except.ok.inj hi).symm⟩
  · obtain ⟨validate, hvalidate, hi⟩ := ok_of_bind hi
    obtain ⟨rows, hrows, hi⟩ := ok_of_bind hi
    exact .inr ⟨validate, rows, hvalidate, hrows, (Except.ok.inj hi).symm⟩

theorem of_bulkDelete {ids : List Json} (hi : bulkDelete p h now ctx ids = .ok i) :
    (ids = [] ∧ i = .answer (.affected 0)) ∨
    ∃ ids', p.idsFor h .bulkDelete ids ctx = .ok ids' ∧
      i = .call (p.removal now (p.reach ctx [p.entity.idAmong ids'] true)) .affected := by
  unfold bulkDelete at hi
  split at hi
  · rename_i hempty
    exact .inl ⟨List.isEmpty_iff.1 hempty, (Except.ok.inj hi).symm⟩
  · obtain ⟨ids', hids, hi⟩ := ok_of_bind hi
    exact .inr ⟨ids', hids, (Except.ok.inj hi).symm⟩

theorem of_bulkRestore {ids : List Json} (hi : bulkRestore p h now ctx ids = .ok i) :
    (ids = [] ∧ i = .answer (.affected 0)) ∨
    ∃ s ids', p.entity.requireSoftDelete = .ok s ∧ p.idsFor h .bulkRestore ids ctx = .ok ids' ∧
      i = .call (.update (p.marking now s s.notDeletedValue) (p.reach ctx [p.entity.idAmong ids'] true)) .affected := by
  obtain ⟨s, hs, hi⟩ := ok_of_bind hi
  split at hi
  · rename_i hempty
    exact .inl ⟨List.isEmpty_iff.1 hempty, (Except.ok.inj hi).symm⟩
  · obtain ⟨ids', hids, hi⟩ := ok_of_bind hi
    exact .inr ⟨s, ids', hs, hids, (Except.ok.inj hi).symm⟩

end Intended

/-- What an operation intends, or why it is refused before any store is asked. -/
def intent (p : Pipeline) (h : Hooks) (now : String) (ctx : Context) : Request → Except ServiceError Intent
  | .create data => Intended.create p h now ctx data
  | .findOne conditions includeDeleted => Intended.findOne p h ctx conditions includeDeleted
  | .list params => Intended.list p h ctx params
  | .update id data => Intended.update p h now ctx id data
  | .deleteOne id => Intended.deleteOne p h now ctx id
  | .restore id => Intended.restore p h now ctx id
  | .permanentDelete id => Intended.permanentDelete p h ctx id
  | .bulkCreate records => Intended.bulkCreate p h ctx (fun _ => now) records
  | .bulkDelete ids => Intended.bulkDelete p h now ctx ids
  | .bulkRestore ids => Intended.bulkRestore p h now ctx ids

/-! ## An operation is its intent, carried out -/

section
variable {h : Hooks}

theorem settles_permit (operation : Operation) (data : Json) (ctx : Context) :
    (permit operation data ctx).Settles h (h.admits operation data ctx) := by
  unfold permit Hooks.admits
  split <;> rfl

theorem settles_validated (operation : Operation) (data : Json) (ctx : Context) (validator : Validator) :
    (validated operation data ctx validator).Settles h (h.validated operation data ctx validator) :=
  (settles_permit operation data ctx).bind fun b => by cases b <;> rfl

variable (p : Pipeline)

theorem settles_validatedIds (operation : Operation) (ids : List Json) (ctx : Context) :
    (p.validatedIds operation ids ctx).Settles h (p.idsFor h operation ids ctx) :=
  (settles_permit operation (.arr ids) ctx).bind fun b => by cases b <;> rfl

theorem settles_rowsFor (clock : Nat → String) (validate : Bool) : ∀ (records : List Json) (i : Nat),
    (p.rowsFor clock validate i records).Settles h (p.recordsFor h clock validate i records)
  | [], _ => Program.settles_pure []
  | record :: rest, i => by
    have hrow : ∀ record : Json, Program.Settles h (do
        let record ← Program.call (.revise .create record)
        let row ← inElement i (recordOf record)
        return p.entity.stampCreated (clock i) row :: (← p.rowsFor clock validate (i + 1) rest))
        (do
          let record ← h.revise .create record
          let row ← inElement i (recordOf record)
          return p.entity.stampCreated (clock i) row :: (← p.recordsFor h clock validate (i + 1) rest)) := fun record =>
      (Program.settles_revise .create record).bind fun _ => (Program.settles_lift _).bind fun _ =>
        (settles_rowsFor clock validate rest (i + 1)).bind fun _ => Program.settles_pure _
    cases validate
    · exact hrow record
    · exact (Program.settles_lift _).bind hrow

theorem create_opens (now : String) (ctx : Context) (data : Json) : (p.create now ctx data).OpensWith h
    (Intended.create p h now ctx data) (Intent.program p ctx) := by
  refine (settles_validated _ _ _ _).opens fun _ => (Program.settles_revise _ _).opens fun _ =>
    (Program.settles_lift _).opens fun row => Program.opensWith_of_eq ?_
  refine congrArg (p.rows ctx (.insert [p.entity.stampCreated now row]) >>= ·) (funext fun rows => ?_)
  unfold Outcome.answer
  dsimp only
  cases rows.getLast? <;> rfl

theorem findOne_opens (ctx : Context) (conditions : Json) (includeDeleted : Bool) :
    (p.findOne ctx conditions includeDeleted).OpensWith h
      (Intended.findOne p h ctx conditions includeDeleted) (Intent.program p ctx) := by
  refine (settles_validated _ _ _ _).opens fun _ => (Program.settles_lift _).opens fun row => ?_
  dsimp only
  split
  · exact Program.opensWith_error _ _
  · exact Program.opensWith_of_eq rfl

theorem list_opens (ctx : Context) (params : ListParams) : (p.list ctx params).OpensWith h
    (Intended.list p h ctx params) (Intent.program p ctx) := by
  unfold Intended.list paramsFor
  rw [bind_assoc]
  refine (settles_permit _ _ _).opens fun b => ?_
  cases b
  · exact (Program.settles_pure params).opens fun _ => Program.opensWith_of_eq rfl
  · exact (Program.settles_lift _).opens fun _ => Program.opensWith_of_eq rfl

theorem update_opens (now : String) (ctx : Context) (id data : Json) : (p.update now ctx id data).OpensWith h
    (Intended.update p h now ctx id data) (Intent.program p ctx) := by
  unfold Intended.update argumentsFor
  rw [bind_assoc]
  refine (settles_permit _ _ _).opens fun b => ?_
  cases b
  · refine (Program.settles_pure (id, data)).opens fun x => ?_
    exact (Program.settles_revise .update x.2).opens fun _ => (Program.settles_lift _).opens fun _ =>
      Program.opensWith_of_eq rfl
  · refine (Program.settles_lift _).opens fun x => ?_
    exact (Program.settles_revise .update x.2).opens fun _ => (Program.settles_lift _).opens fun _ =>
      Program.opensWith_of_eq rfl

theorem remove_opens (now : String) (ctx : Context) (filter : List Predicate) :
    (p.remove now ctx filter).OpensWith h (.ok (.call (p.removal now filter) .affected)) (Intent.program p ctx) :=
  Program.opensWith_of_eq rfl

theorem deleteOne_opens (now : String) (ctx : Context) (id : Json) : (p.deleteOne now ctx id).OpensWith h
    (Intended.deleteOne p h now ctx id) (Intent.program p ctx) :=
  (settles_validated _ _ _ _).opens fun _ => p.remove_opens now ctx _

theorem restore_opens (now : String) (ctx : Context) (id : Json) : (p.restore now ctx id).OpensWith h
    (Intended.restore p h now ctx id) (Intent.program p ctx) :=
  (Program.settles_lift _).opens fun _ => (settles_validated _ _ _ _).opens fun _ =>
    Program.opensWith_of_eq (Program.bind_assoc _ _ _)

theorem permanentDelete_opens (ctx : Context) (id : Json) : (p.permanentDelete ctx id).OpensWith h
    (Intended.permanentDelete p h ctx id) (Intent.program p ctx) :=
  (settles_validated _ _ _ _).opens fun _ => Program.opensWith_of_eq rfl

theorem bulkCreate_opens (clock : Nat → String) (ctx : Context) (records : List Json) :
    (p.bulkCreate clock ctx records).OpensWith h (Intended.bulkCreate p h ctx clock records)
      (Intent.program p ctx) := by
  unfold bulkCreate Intended.bulkCreate
  split
  · exact Program.opensWith_of_eq rfl
  · exact (settles_permit _ _ _).opens fun _ => (p.settles_rowsFor clock _ records 0).opens fun _ =>
      Program.opensWith_of_eq rfl

theorem bulkDelete_opens (now : String) (ctx : Context) (ids : List Json) : (p.bulkDelete now ctx ids).OpensWith h
    (Intended.bulkDelete p h now ctx ids) (Intent.program p ctx) := by
  unfold bulkDelete Intended.bulkDelete
  split
  · exact Program.opensWith_of_eq rfl
  · exact (p.settles_validatedIds _ _ _).opens fun _ => p.remove_opens now ctx _

theorem bulkRestore_opens (now : String) (ctx : Context) (ids : List Json) : (p.bulkRestore now ctx ids).OpensWith h
    (Intended.bulkRestore p h now ctx ids) (Intent.program p ctx) := by
  refine (Program.settles_lift _).opens fun s => ?_
  split
  · exact Program.opensWith_of_eq rfl
  · exact (p.settles_validatedIds _ _ _).opens fun _ => Program.opensWith_of_eq (Program.bind_assoc _ _ _)

/-- **An operation settles its intent and then carries it out**, whatever surrounds it. -/
theorem perform_opens (now : String) (ctx : Context) : ∀ request : Request,
    (p.perform now ctx request).OpensWith h (p.intent h now ctx request) (Intent.program p ctx)
  | .create data => p.create_opens now ctx data
  | .findOne conditions includeDeleted => p.findOne_opens ctx conditions includeDeleted
  | .list params => p.list_opens ctx params
  | .update id data => p.update_opens now ctx id data
  | .deleteOne id => p.deleteOne_opens now ctx id
  | .restore id => p.restore_opens now ctx id
  | .permanentDelete id => p.permanentDelete_opens ctx id
  | .bulkCreate records => p.bulkCreate_opens (fun _ => now) ctx records
  | .bulkDelete ids => p.bulkDelete_opens now ctx ids
  | .bulkRestore ids => p.bulkRestore_opens now ctx ids

end

end Pipeline

end RecordService
