import RecordService.Proofs.Pipeline.Memory
import RecordService.Proofs.Pipeline.Trace
/-!
# Discipline — how an operation calls the store, whatever replies it gets

Every operation is orderly (`perform_orderly`), and a request that a validator, a hook or a check of its use rejects has
called no store (`refused_of_rejects`).  Both hold of every trace that an operation can have, with whatever replies of
the hooks and the stores (`perform_disciplined`).
-/
namespace RecordService

/-! ## The ten operations -/

namespace Pipeline

open Program

variable {p : Pipeline} {ctx : Context} {now : String}

theorem asksHooks_permit (operation : Operation) (data : Json) (ctx : Context) :
    (permit operation data ctx).AsksHooks := by
  unfold permit
  split
  · exact .done _
  · exact asksHooks_call rfl

theorem asksHooks_validated (operation : Operation) (data : Json) (ctx : Context) (validator : Validator) :
    (validated operation data ctx validator).AsksHooks :=
  (asksHooks_permit operation data ctx).bind fun b => by cases b <;> exact .done _

theorem asksHooks_validatedIds (p : Pipeline) (operation : Operation) (ids : List Json) (ctx : Context) :
    (p.validatedIds operation ids ctx).AsksHooks :=
  (asksHooks_permit operation (.arr ids) ctx).bind fun b => by cases b <;> exact .done _

theorem asksHooks_rowsFor (p : Pipeline) (clock : Nat → String) (validate : Bool) : ∀ (records : List Json) (i : Nat),
    (p.rowsFor clock validate i records).AsksHooks
  | [], _ => .done _
  | record :: rest, i => by
    have hrow : ∀ record : Json, Program.AsksHooks (do
        let record ← Program.call (.revise .create record)
        let row ← inElement i (recordOf record)
        return p.entity.stampCreated (clock i) row :: (← p.rowsFor clock validate (i + 1) rest)) := fun _ =>
      (asksHooks_call rfl).bind fun _ => (AsksHooks.done _).bind fun _ =>
        (asksHooks_rowsFor p clock validate rest (i + 1)).bind fun _ => .done _
    cases validate
    · exact hrow record
    · exact (AsksHooks.done _).bind hrow

theorem orderly_remove (now : String) (ctx : Context) (filter : List Predicate) :
    Orderly p ctx true (p.remove now ctx filter) :=
  orderly_last fun _ => ⟨_, rfl⟩

theorem orderly_create (data : Json) : Orderly p ctx true (p.create now ctx data) :=
  (asksHooks_validated _ _ _ _).orderly_bind fun _ => (asksHooks_call rfl).orderly_bind fun _ =>
    (AsksHooks.done _).orderly_bind fun _ => orderly_last fun rows => by
      cases rows.getLast? <;> exact ⟨_, rfl⟩

theorem orderly_findOne (conditions : Json) (includeDeleted : Bool) :
    Orderly p ctx true (p.findOne ctx conditions includeDeleted) :=
  (asksHooks_validated _ _ _ _).orderly_bind fun _ => (AsksHooks.done _).orderly_bind fun row => by
    dsimp only
    split
    · exact .done _
    · exact orderly_last fun _ => ⟨_, rfl⟩

theorem orderly_list (params : ListParams) : Orderly p ctx true (p.list ctx params) :=
  (asksHooks_permit _ _ _).orderly_bind fun b => by
    cases b
    all_goals
      exact (AsksHooks.done _).orderly_bind fun _ => orderly_read rfl fun _ => orderly_count fun _ => ⟨_, rfl⟩

theorem orderly_update (id data : Json) : Orderly p ctx true (p.update now ctx id data) := by
  have hchange : ∀ x : Json × Json, Orderly p ctx true (do
      let data ← Program.call (.revise .update x.2)
      let changes := p.entity.changesOf (← recordOf data)
      let filter := p.reach ctx [p.entity.idEquals x.1] false
      let rows ← p.rows ctx <|
        if changes.isEmpty then .select (.firstOf filter)
        else .update (p.entity.stampUpdated now changes) filter
      p.firstOrNotFound x.1 rows) := fun _ =>
    (asksHooks_call rfl).orderly_bind fun _ => (AsksHooks.done _).orderly_bind fun _ => orderly_last fun _ => ⟨_, rfl⟩
  refine (asksHooks_permit _ _ _).orderly_bind fun b => ?_
  cases b
  · exact (AsksHooks.done _).orderly_bind hchange
  · exact (AsksHooks.done _).orderly_bind hchange

theorem orderly_deleteOne (id : Json) : Orderly p ctx true (p.deleteOne now ctx id) :=
  (asksHooks_validated _ _ _ _).orderly_bind fun _ => orderly_remove now ctx _

theorem orderly_restore (id : Json) : Orderly p ctx true (p.restore now ctx id) :=
  (AsksHooks.done _).orderly_bind fun _ => (asksHooks_validated _ _ _ _).orderly_bind fun _ => by
    rw [unmark, Program.bind_assoc]
    exact orderly_last fun _ => ⟨_, rfl⟩

theorem orderly_permanentDelete (id : Json) : Orderly p ctx true (p.permanentDelete ctx id) :=
  (asksHooks_validated _ _ _ _).orderly_bind fun _ => orderly_read rfl fun present => by
    split
    · exact .done _
    · exact orderly_last fun _ => ⟨_, rfl⟩

theorem orderly_bulkCreate (clock : Nat → String) (records : List Json) :
    Orderly p ctx true (p.bulkCreate clock ctx records) := by
  unfold bulkCreate
  split
  · exact .done _
  · exact (asksHooks_permit _ _ _).orderly_bind fun validate =>
      (p.asksHooks_rowsFor clock validate records 0).orderly_bind fun _ => orderly_last fun _ => ⟨_, rfl⟩

theorem orderly_bulkDelete (ids : List Json) : Orderly p ctx true (p.bulkDelete now ctx ids) := by
  unfold bulkDelete
  split
  · exact .done _
  · exact (p.asksHooks_validatedIds _ _ _).orderly_bind fun _ => orderly_remove now ctx _

theorem orderly_bulkRestore (ids : List Json) : Orderly p ctx true (p.bulkRestore now ctx ids) :=
  (AsksHooks.done _).orderly_bind fun s => by
    split
    · exact .done _
    · refine (p.asksHooks_validatedIds _ _ _).orderly_bind fun _ => ?_
      rw [unmark, Program.bind_assoc]
      exact orderly_last fun _ => ⟨_, rfl⟩

/-- **Every operation is orderly.** -/
theorem perform_orderly (p : Pipeline) (now : String) (ctx : Context) : ∀ request : Request,
    Orderly p ctx true (p.perform now ctx request)
  | .create data => orderly_create data
  | .findOne conditions includeDeleted => orderly_findOne conditions includeDeleted
  | .list params => orderly_list params
  | .update id data => orderly_update id data
  | .deleteOne id => orderly_deleteOne id
  | .restore id => orderly_restore id
  | .permanentDelete id => orderly_permanentDelete id
  | .bulkCreate records => orderly_bulkCreate (fun _ => now) records
  | .bulkDelete ids => orderly_bulkDelete ids
  | .bulkRestore ids => orderly_bulkRestore ids

/-! ## What is refused -/

/-- What the validators make of the parts of a request. -/
def checks (p : Pipeline) : Request → List (Except ServiceError Json)
  | .create data => [p.validators.record data]
  | .findOne conditions _ => [p.validators.conditions conditions]
  | .list params => [(p.validators.list params.encode >>= ListParams.ofJson).map ListParams.encode]
  | .update id data => [p.validators.id id, p.validators.changes data]
  | .deleteOne id => [p.validators.id id]
  | .restore id => [p.validators.id id]
  | .permanentDelete id => [p.validators.id id]
  | .bulkCreate records => records.map p.validators.record
  | .bulkDelete ids => ids.map p.validators.id
  | .bulkRestore ids => ids.map p.validators.id

/-- Whether the request is to be validated: the context does not skip it, and the first hook has said so. -/
def validates (ctx : Context) : List Exchange → Bool
  | ⟨.permit _ _ _, .ok validate⟩ :: _ => !ctx.skipValidation && validate
  | _ => false

/-- **Reasons to refuse a request**, in view of the replies to it. -/
inductive Rejects (p : Pipeline) (ctx : Context) (t : List Exchange) : Request → Prop where
  /-- A hook failed. -/
  | hook {request : Request} {y : Exchange} {error : ServiceError} : y ∈ t → y.call.isStoreCall = false →
      y.reply = .error error → Rejects p ctx t request
  /-- A validator failed on a part of the request. -/
  | validator {request : Request} {error : ServiceError} : validates ctx t = true → .error error ∈ p.checks request →
      Rejects p ctx t request
  /-- A record is looked for by no condition. -/
  | unconditional {conditions : Json} {includeDeleted : Bool} {row : Row} :
      ((if validates ctx t then p.validators.conditions conditions else .ok conditions) >>= recordOf) = .ok row →
      p.entity.conditionsOf row = [] → Rejects p ctx t (.findOne conditions includeDeleted)
  /-- Records are to be restored which are never marked as deleted. -/
  | restore {id : Json} : p.entity.softDelete = none → Rejects p ctx t (.restore id)
  | bulkRestore {ids : List Json} : p.entity.softDelete = none → Rejects p ctx t (.bulkRestore ids)

/-- The trace has no call to a store, and the result is an error. -/
structure Refused (t : List Exchange) (r : Except ServiceError Answer) : Prop where
  uncalled : ∀ y ∈ t, y.call.isStoreCall = false
  failed : ∃ error, r = .error error

section
variable {α : Type} {t : List Exchange} {r : Except ServiceError Answer} {error : ServiceError}

theorem refused_of_bind {x : Program α} {f : α → Program Answer} (hx : x.AsksHooks) (h : (x >>= f).Answered t r)
    (hf : ∀ a before behind, t = before ++ behind → x.Answered before (.ok a) → (f a).Answered behind r →
      Refused behind r) : Refused t r := by
  rcases answered_bind h with ⟨error, herror, rfl⟩ | ⟨a, before, behind, hbefore, hbehind, rfl⟩
  · exact ⟨hx.not_stored herror, error, rfl⟩
  · obtain ⟨huncalled, hfailed⟩ := hf a before behind rfl hbefore hbehind
    exact ⟨List.forall_mem_append.2 ⟨hx.not_stored hbefore, huncalled⟩, hfailed⟩

theorem refused_of_onlyFails {x : Program α} {f : α → Program Answer} (hx : x.AsksHooks) (hfails : x.OnlyFails)
    (h : (x >>= f).Answered t r) : Refused t r :=
  refused_of_bind hx h fun _ before _ _ hbefore _ => by
    obtain ⟨error, herror⟩ := hfails before _ hbefore
    cases herror

theorem refused_of_lift {x : Except ServiceError α} {f : α → Program Answer}
    (h : ((liftM x : Program α) >>= f).Answered t r) (hx : x = .error error) : Refused t r := by
  rw [hx] at h
  obtain ⟨rfl, rfl⟩ := answered_done h
  exact ⟨by simp, error, rfl⟩

/-- The trace tells whether the request is validated. -/
theorem validates_of_permit {operation : Operation} {data : Json} {b : Bool} {before : List Exchange}
    (h : (permit operation data ctx).Answered before (.ok b)) (behind : List Exchange) :
    validates ctx (before ++ behind) = b := by
  unfold permit at h
  split at h
  · rename_i hskip
    obtain ⟨-, hb⟩ := answered_done h
    cases hb
    unfold validates
    split
    · rw [hskip]
      rfl
    · rfl
  · rename_i hskip
    rw [answered_call h]
    simp [validates, hskip]

/-- What follows the first hook is refused, when it is in either case. -/
theorem refused_of_permit {operation : Operation} {data : Json} {f : Bool → Program Answer}
    (h : (permit operation data ctx >>= f).Answered t r)
    (hf : ∀ behind, (f (validates ctx t)).Answered behind r → Refused behind r) : Refused t r :=
  refused_of_bind (asksHooks_permit operation data ctx) h fun b before behind ht hbefore hbehind => by
    refine hf behind ?_
    rw [ht, validates_of_permit hbefore]
    exact hbehind

theorem refused_of_validator {operation : Operation} {data : Json} {validator : Validator} {f : Json → Program Answer}
    (h : (validated operation data ctx validator >>= f).Answered t r) (ht : validates ctx t = true)
    (hdata : validator data = .error error) : Refused t r := by
  rw [validated, Program.bind_assoc] at h
  refine refused_of_permit h fun behind h => ?_
  rw [ht] at h
  exact refused_of_lift h hdata

theorem checkIds_error {validator : Validator} : ∀ (ids : List Json) (i : Nat), .error error ∈ ids.map validator →
    ∃ error, checkIds validator i ids = .error error
  | id :: rest, i, h => by
    rw [checkIds]
    cases hid : validator id with
    | error failure => exact ⟨_, rfl⟩
    | ok id' =>
      rw [List.map_cons, hid] at h
      have hrest : .error error ∈ rest.map validator := by simpa using h
      obtain ⟨failure, hfailure⟩ := checkIds_error rest (i + 1) hrest
      rw [hfailure]
      exact ⟨failure, rfl⟩

theorem refused_of_ids {operation : Operation} {ids : List Json} {f : List Json → Program Answer}
    (h : (p.validatedIds operation ids ctx >>= f).Answered t r) (ht : validates ctx t = true)
    (hids : .error error ∈ ids.map p.validators.id) : Refused t r := by
  rw [validatedIds, Program.bind_assoc] at h
  refine refused_of_permit h fun behind h => ?_
  rw [ht] at h
  obtain ⟨failure, hfailure⟩ := checkIds_error ids 0 hids
  exact refused_of_lift h hfailure

theorem onlyFails_rowsFor {clock : Nat → String} : ∀ (records : List Json) (i : Nat),
    .error error ∈ records.map p.validators.record → (p.rowsFor clock true i records).OnlyFails
  | record :: rest, i, h => by
    rw [rowsFor]
    cases hrecord : p.validators.record record with
    | error failure => exact onlyFails_lift_bind rfl _
    | ok record' =>
      rw [List.map_cons, hrecord] at h
      have hrest : .error error ∈ rest.map p.validators.record := by simpa using h
      exact OnlyFails.bind (fun _ => .bind (fun _ => .bind (fun _ =>
        fun t r h => by
          rcases answered_bind h with ⟨failure, _, hr⟩ | ⟨rows, before, _, hbefore, _, _⟩
          · exact ⟨failure, hr⟩
          · obtain ⟨failure, hr⟩ := onlyFails_rowsFor rest (i + 1) hrest before _ hbefore
            cases hr) _) _) _

/-! ### Operation by operation -/

theorem create_refused {data : Json} (h : (p.create now ctx data).Answered t r) (ht : validates ctx t = true)
    (hchecks : .error error ∈ p.checks (.create data)) : Refused t r :=
  refused_of_validator h ht (List.mem_singleton.1 hchecks).symm

theorem findOne_refused {conditions : Json} {includeDeleted : Bool}
    (h : (p.findOne ctx conditions includeDeleted).Answered t r) (ht : validates ctx t = true)
    (hchecks : .error error ∈ p.checks (.findOne conditions includeDeleted)) : Refused t r :=
  refused_of_validator h ht (List.mem_singleton.1 hchecks).symm

theorem findOne_refused_of_unconditional {conditions : Json} {includeDeleted : Bool} {row : Row}
    (h : (p.findOne ctx conditions includeDeleted).Answered t r)
    (hrow : ((if validates ctx t then p.validators.conditions conditions else .ok conditions) >>= recordOf) = .ok row)
    (hnone : p.entity.conditionsOf row = []) : Refused t r := by
  obtain ⟨settled, hsettled, hrow⟩ := ok_of_bind hrow
  rw [findOne, validated, Program.bind_assoc] at h
  refine refused_of_permit h fun behind h => ?_
  rw [lift_ite, hsettled, lift_ok_bind, hrow, lift_ok_bind, hnone] at h
  obtain ⟨rfl, rfl⟩ := answered_done h
  exact ⟨by simp, _, rfl⟩

theorem list_refused {params : ListParams} (h : (p.list ctx params).Answered t r) (ht : validates ctx t = true)
    (hchecks : .error error ∈ p.checks (.list params)) : Refused t r := by
  refine refused_of_permit h fun behind h => ?_
  rw [ht] at h
  cases hparams : p.validators.list params.encode >>= ListParams.ofJson with
  | error failure => exact refused_of_lift h hparams
  | ok params' =>
    rw [checks, hparams] at hchecks
    cases List.mem_singleton.1 hchecks

theorem update_refused {id data : Json} (h : (p.update now ctx id data).Answered t r) (ht : validates ctx t = true)
    (hchecks : .error error ∈ p.checks (.update id data)) : Refused t r := by
  refine refused_of_permit h fun behind h => ?_
  rw [ht] at h
  cases hid : p.validators.id id with
  | error failure => exact refused_of_lift h (by rw [hid]; rfl)
  | ok id' =>
    cases hdata : p.validators.changes data with
    | error failure => exact refused_of_lift h (by rw [hid, hdata]; rfl)
    | ok data' =>
      rw [checks, hid, hdata] at hchecks
      simp at hchecks

theorem deleteOne_refused {id : Json} (h : (p.deleteOne now ctx id).Answered t r) (ht : validates ctx t = true)
    (hchecks : .error error ∈ p.checks (.deleteOne id)) : Refused t r :=
  refused_of_validator h ht (List.mem_singleton.1 hchecks).symm

/-- An entity without soft deletion has nothing to restore. -/
theorem restore_refused_of_unmarked {id : Json} (h : (p.restore now ctx id).Answered t r)
    (hnone : p.entity.softDelete = none) : Refused t r :=
  refused_of_lift h (Entity.requireSoftDelete_of_none hnone)

theorem restore_refused {id : Json} (h : (p.restore now ctx id).Answered t r) (ht : validates ctx t = true)
    (hchecks : .error error ∈ p.checks (.restore id)) : Refused t r := by
  cases hs : p.entity.softDelete with
  | none => exact restore_refused_of_unmarked h hs
  | some s =>
    rw [restore, Entity.requireSoftDelete_eq_ok_iff.2 hs] at h
    exact refused_of_validator h ht (List.mem_singleton.1 hchecks).symm

theorem permanentDelete_refused {id : Json} (h : (p.permanentDelete ctx id).Answered t r) (ht : validates ctx t = true)
    (hchecks : .error error ∈ p.checks (.permanentDelete id)) : Refused t r :=
  refused_of_validator h ht (List.mem_singleton.1 hchecks).symm

theorem bulkCreate_refused {clock : Nat → String} {records : List Json}
    (h : (p.bulkCreate clock ctx records).Answered t r) (ht : validates ctx t = true)
    (hchecks : .error error ∈ p.checks (.bulkCreate records)) : Refused t r := by
  unfold bulkCreate at h
  split at h
  · rw [(answered_done h).1] at ht
    cases ht
  · refine refused_of_permit h fun behind h => ?_
    rw [ht] at h
    exact refused_of_onlyFails (p.asksHooks_rowsFor clock true records 0) (onlyFails_rowsFor records 0 hchecks) h

theorem bulkDelete_refused {ids : List Json} (h : (p.bulkDelete now ctx ids).Answered t r)
    (ht : validates ctx t = true) (hchecks : .error error ∈ p.checks (.bulkDelete ids)) : Refused t r := by
  unfold bulkDelete at h
  split at h
  · rw [(answered_done h).1] at ht
    cases ht
  · exact refused_of_ids h ht hchecks

theorem bulkRestore_refused_of_unmarked {ids : List Json} (h : (p.bulkRestore now ctx ids).Answered t r)
    (hnone : p.entity.softDelete = none) : Refused t r :=
  refused_of_lift h (Entity.requireSoftDelete_of_none hnone)

theorem bulkRestore_refused {ids : List Json} (h : (p.bulkRestore now ctx ids).Answered t r)
    (ht : validates ctx t = true) (hchecks : .error error ∈ p.checks (.bulkRestore ids)) : Refused t r := by
  cases hs : p.entity.softDelete with
  | none => exact bulkRestore_refused_of_unmarked h hs
  | some s =>
    rw [bulkRestore, Entity.requireSoftDelete_eq_ok_iff.2 hs] at h
    change Program.Answered (if ids.isEmpty then _ else _) t r at h
    split at h
    · rw [(answered_done h).1] at ht
      cases ht
    · exact refused_of_ids h ht hchecks

/-- **A request that is rejected has called no store**, and ends in an error. -/
theorem refused_of_rejects {request : Request} (h : (p.perform now ctx request).Answered t r)
    (hrejects : Rejects p ctx t request) : Refused t r := by
  cases hrejects with
  | @hook _ y error hy hcall hreply =>
    obtain ⟨pre, post, rfl⟩ := List.append_of_mem hy
    obtain ⟨rfl, rfl⟩ := Orderly.failure_last h (perform_orderly p now ctx request) pre y post error rfl hreply
    refine ⟨List.forall_mem_append.2 ⟨fun z hz => ?_, by simpa using hcall⟩, error, rfl⟩
    obtain ⟨first, last, rfl⟩ := List.append_of_mem hz
    by_contra hstored
    have hbehind := Orderly.stored_behind h (perform_orderly p now ctx request) first z (last ++ [y]) (by simp)
      (by simpa using hstored) y (by simp)
    rw [hcall] at hbehind
    cases hbehind
  | validator ht hchecks =>
    cases request with
    | create data => exact create_refused h ht hchecks
    | findOne conditions includeDeleted => exact findOne_refused h ht hchecks
    | list params => exact list_refused h ht hchecks
    | update id data => exact update_refused h ht hchecks
    | deleteOne id => exact deleteOne_refused h ht hchecks
    | restore id => exact restore_refused h ht hchecks
    | permanentDelete id => exact permanentDelete_refused h ht hchecks
    | bulkCreate records => exact bulkCreate_refused h ht hchecks
    | bulkDelete ids => exact bulkDelete_refused h ht hchecks
    | bulkRestore ids => exact bulkRestore_refused h ht hchecks
  | unconditional hrow hnone => exact findOne_refused_of_unconditional h hrow hnone
  | restore hnone => exact restore_refused_of_unmarked h hnone
  | bulkRestore hnone => exact bulkRestore_refused_of_unmarked h hnone

end

/-! ## The discipline -/

/-- **How a request calls the store**, as the trace of its calls and replies and its result show. -/
structure Disciplined (p : Pipeline) (ctx : Context) (request : Request) (t : List Exchange)
    (r : Except ServiceError Answer) : Prop where
  /-- The calls go to the store of the context, or to the usual one where it has none. -/
  addressed : ∀ y ∈ t, y.call.isStoreCall = true → y.call.GoesTo ctx.store p.entity
  one_change : t.countP (·.call.mutates) ≤ 1
  change_last : ∀ pre y post, t = pre ++ y :: post → y.call.mutates = true → post = []
  failure_last : ∀ pre y post error, t = pre ++ y :: post → y.reply = .error error → post = [] ∧ r = .error error
  refused : Rejects p ctx t request → Refused t r
  /-- An empty list is created or deleted without any call. -/
  idle : request = .bulkCreate [] ∨ request = .bulkDelete [] → t = []

/-- Only the last can be counted. -/
theorem countP_le_one {α : Type} {q : α → Bool} : ∀ {l : List α},
    (∀ pre y post, l = pre ++ y :: post → q y = true → post = []) → l.countP q ≤ 1
  | [], _ => by simp
  | y :: rest, h => by
    by_cases hy : q y = true
    · rw [h [] y rest rfl hy]
      simp [hy]
    · rw [List.countP_cons_of_neg hy]
      exact countP_le_one fun pre z post hrest => h (y :: pre) z post (congrArg (y :: ·) hrest)

/-- **Whatever the hooks and the stores reply, every operation is disciplined.** -/
theorem perform_disciplined (p : Pipeline) (now : String) (ctx : Context) (request : Request) {t : List Exchange}
    {r : Except ServiceError Answer} (h : (p.perform now ctx request).Answered t r) : Disciplined p ctx request t r where
  addressed := Orderly.addressed h (perform_orderly p now ctx request)
  one_change := countP_le_one (Orderly.change_last h (perform_orderly p now ctx request))
  change_last := Orderly.change_last h (perform_orderly p now ctx request)
  failure_last := Orderly.failure_last h (perform_orderly p now ctx request)
  refused := refused_of_rejects h
  idle := by
    rintro (rfl | rfl)
    · exact (answered_done h).1
    · exact (answered_done h).1

end Pipeline

/-- The record is there, but the store fails to remove it. -/
def Notes.unavailable : List Exchange :=
  [⟨.permit .permanentDelete (.str "1") (Notes.occasion "a").context, .ok true⟩,
   ⟨.rows none Notes.byTenant.entity (.select (.firstOf [.eq "id" (.str "1")])),
    .ok [Notes.row "1" (.str "a") .null]⟩,
   ⟨.rows none Notes.byTenant.entity (.delete [.eq "id" (.str "1"), .eq "tenant" (.str "a")]),
    .error (.store "unavailable")⟩]

theorem Pipeline.perform_disciplined_notes :
    (Notes.byTenant.perform "2024-05-01T10:00:00Z" (Notes.occasion "a").context (.permanentDelete (.str "1"))).Answered
      Notes.unavailable (.error (.store "unavailable")) ∧
    Disciplined Notes.byTenant (Notes.occasion "a").context (.permanentDelete (.str "1")) Notes.unavailable
      (.error (.store "unavailable")) := by
  have h : (Notes.byTenant.perform "2024-05-01T10:00:00Z" (Notes.occasion "a").context
      (.permanentDelete (.str "1"))).Answered Notes.unavailable (.error (.store "unavailable")) :=
    .ask (.ask (.ask (.done _)))
  exact ⟨h, perform_disciplined Notes.byTenant "2024-05-01T10:00:00Z" _ _ h⟩

end RecordService
