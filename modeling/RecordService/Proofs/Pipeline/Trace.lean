import RecordService.Proofs.Pipeline.Intent
/-!
# Traces — the calls of a program and the replies to them

Nothing is known here of the hooks and the stores: a program is answered by a trace, in which every call has some reply
(`Program.Answered`), and every run is answered by its own (`answered_run`).  A program is orderly (`Program.Orderly`)
when it asks its hooks first, then reads from one store, and at last makes at most one change there; what that means for
a trace follows by going along it (`Orderly.addressed`, `Orderly.failure_last`, `Orderly.change_last`,
`Orderly.stored_behind`).
-/
namespace RecordService

/-! ## Traces -/

/-- A call and the reply to it. -/
structure Exchange where
  call : Call
  reply : Except ServiceError call.Reply

namespace Call

/-- The call is to the store with the name, about the entity. -/
def GoesTo (store : Option String) (e : Entity) : Call → Prop
  | .rows s e' _ => s = store ∧ e' = e
  | .count s e' _ => s = store ∧ e' = e
  | _ => False

theorem not_goesTo_of_hook {c : Call} {store : Option String} {e : Entity} (h : c.isStoreCall = false) :
    ¬c.GoesTo store e := by
  cases c <;> first | exact id | cases h

theorem GoesTo.isStoreCall {c : Call} {store : Option String} {e : Entity} (h : c.GoesTo store e) :
    c.isStoreCall = true := by
  cases c <;> first | rfl | cases h

end Call

namespace Program

variable {α β σ : Type}

/-- **With the replies of the trace, the program comes to the result.** -/
inductive Answered : Program α → List Exchange → Except ServiceError α → Prop where
  | done (result : Except ServiceError α) : Answered (.done result) [] result
  | ask {c : Call} {next : Except ServiceError c.Reply → Program α} {reply : Except ServiceError c.Reply}
      {rest : List Exchange} {result : Except ServiceError α} :
      Answered (next reply) rest result → Answered (.ask c next) (⟨c, reply⟩ :: rest) result

/-- The calls of a run with their replies. -/
def trace (w : Surroundings σ) : Program α → σ → List Exchange
  | .done _, _ => []
  | .ask c next, s => ⟨c, (w.reply c s).1⟩ :: (next (w.reply c s).1).trace w (w.reply c s).2

theorem trace_calls (w : Surroundings σ) : ∀ (x : Program α) (s : σ), (x.trace w s).map Exchange.call = x.calls w s
  | .done _, _ => rfl
  | .ask c next, s => congrArg (c :: ·) (trace_calls w (next (w.reply c s).1) (w.reply c s).2)

/-- **A run is answered by its own replies**, in whatever surroundings. -/
theorem answered_run (w : Surroundings σ) : ∀ (x : Program α) (s : σ), x.Answered (x.trace w s) (x.run w s).1
  | .done result, _ => .done result
  | .ask c next, s => .ask (answered_run w (next (w.reply c s).1) (w.reply c s).2)

theorem answered_done {result r : Except ServiceError α} {t : List Exchange} (h : (done result).Answered t r) :
    t = [] ∧ r = result := by
  cases h
  exact ⟨rfl, rfl⟩

theorem answered_ask {c : Call} {next : Except ServiceError c.Reply → Program α} {t : List Exchange}
    {r : Except ServiceError α} (h : (ask c next).Answered t r) :
    ∃ reply rest, t = ⟨c, reply⟩ :: rest ∧ (next reply).Answered rest r := by
  cases h with
  | ask h => exact ⟨_, _, rfl, h⟩

theorem answered_call {c : Call} {t : List Exchange} {r : Except ServiceError c.Reply} (h : (call c).Answered t r) :
    t = [⟨c, r⟩] := by
  obtain ⟨reply, rest, rfl, hrest⟩ := answered_ask h
  obtain ⟨rfl, rfl⟩ := answered_done hrest
  rfl

/-- A composition ends in an error of its first part, or goes on from its value. -/
theorem answered_bind {f : α → Program β} {t : List Exchange} {r : Except ServiceError β} :
    ∀ {x : Program α}, (x >>= f).Answered t r →
      (∃ error, x.Answered t (.error error) ∧ r = .error error) ∨
        ∃ a before behind, x.Answered before (.ok a) ∧ (f a).Answered behind r ∧ t = before ++ behind
  | .done (.ok a), h => .inr ⟨a, [], t, .done _, h, rfl⟩
  | .done (.error error), h => by
    obtain ⟨rfl, rfl⟩ := answered_done h
    exact .inl ⟨error, .done _, rfl⟩
  | .ask c next, h => by
    have hask : (ask c fun reply => next reply >>= f).Answered t r := h
    obtain ⟨reply, rest, rfl, hrest⟩ := answered_ask hask
    rcases answered_bind hrest with ⟨error, hx, rfl⟩ | ⟨a, before, behind, hx, hf, rfl⟩
    · exact .inl ⟨error, .ask hx, rfl⟩
    · exact .inr ⟨a, _, behind, .ask hx, hf, rfl⟩

theorem lift_ok_bind (a : α) (f : α → Program β) :
    (liftM (.ok a : Except ServiceError α) : Program α) >>= f = f a := rfl

theorem lift_ite (b : Bool) (x : Except ServiceError α) (a : α) :
    (if b then liftM x else pure a : Program α) = liftM (if b then x else .ok a) := by
  cases b <;> rfl

/-! ## Asking the hooks -/

/-- **The program asks hooks only, and ends where one of them fails.** -/
inductive AsksHooks : Program α → Prop where
  | done (result : Except ServiceError α) : AsksHooks (.done result)
  | hook {c : Call} {next : Except ServiceError c.Reply → Program α} : c.isStoreCall = false →
      (∀ error, next (.error error) = .done (.error error)) → (∀ reply, AsksHooks (next (.ok reply))) →
      AsksHooks (.ask c next)

theorem asksHooks_call {c : Call} (h : c.isStoreCall = false) : (call c).AsksHooks :=
  .hook h (fun _ => rfl) fun _ => .done _

theorem AsksHooks.bind {f : α → Program β} (hf : ∀ a, (f a).AsksHooks) {x : Program α} (hx : x.AsksHooks) :
    (x >>= f).AsksHooks := by
  induction hx with
  | done result =>
    cases result with
    | ok a => exact hf a
    | error error => exact .done _
  | hook hc herror _ ih =>
    refine .hook hc (fun error => ?_) ih
    rw [herror]
    rfl

theorem AsksHooks.not_stored {x : Program α} {t : List Exchange} {r : Except ServiceError α} (hx : x.AsksHooks)
    (h : x.Answered t r) : ∀ y ∈ t, y.call.isStoreCall = false := by
  induction h with
  | done result => simp
  | ask h ih =>
    rename_i c next reply rest result
    cases hx with
    | hook hc herror hok =>
      refine List.forall_mem_cons.2 ⟨hc, ?_⟩
      cases reply with
      | ok reply => exact ih (hok reply)
      | error error =>
        rw [herror] at h
        rw [(answered_done h).1]
        simp

/-- **Whatever the replies, the program ends in an error.** -/
def OnlyFails (x : Program α) : Prop := ∀ t r, x.Answered t r → ∃ error, r = .error error

theorem onlyFails_lift_bind {x : Except ServiceError α} {error : ServiceError} (hx : x = .error error)
    (f : α → Program β) : ((liftM x : Program α) >>= f).OnlyFails := by
  intro t r h
  rw [hx] at h
  exact ⟨error, (answered_done h).2⟩

theorem OnlyFails.bind {f : α → Program β} (hf : ∀ a, (f a).OnlyFails) (x : Program α) : (x >>= f).OnlyFails := by
  intro t r h
  rcases answered_bind h with ⟨error, _, hr⟩ | ⟨a, _, behind, _, hbehind, _⟩
  · exact ⟨error, hr⟩
  · exact hf a behind r hbehind

/-! ## Calling the store -/

/-- **The program asks hooks, as long as it may, then reads, and at last makes one change.**  Its calls to a store are
to that of the context, and it ends where a call fails. -/
inductive Orderly (p : Pipeline) (ctx : Context) : Bool → Program Answer → Prop where
  | done {hooks : Bool} (result : Except ServiceError Answer) : Orderly p ctx hooks (.done result)
  | hook {c : Call} {next : Except ServiceError c.Reply → Program Answer} : c.isStoreCall = false →
      (∀ error, next (.error error) = .done (.error error)) → (∀ reply, Orderly p ctx true (next (.ok reply))) →
      Orderly p ctx true (.ask c next)
  | read {hooks : Bool} {c : Call} {next : Except ServiceError c.Reply → Program Answer} : c.GoesTo ctx.store p.entity →
      c.mutates = false → (∀ error, next (.error error) = .done (.error error)) →
      (∀ reply, Orderly p ctx false (next (.ok reply))) → Orderly p ctx hooks (.ask c next)
  | last {hooks : Bool} {c : Call} {next : Except ServiceError c.Reply → Program Answer} :
      c.GoesTo ctx.store p.entity → (∀ error, next (.error error) = .done (.error error)) →
      (∀ reply, ∃ result, next (.ok reply) = .done result) → Orderly p ctx hooks (.ask c next)

section
variable {p : Pipeline} {ctx : Context} {hooks : Bool}

theorem AsksHooks.orderly_bind {f : α → Program Answer} (hf : ∀ a, Orderly p ctx true (f a)) {x : Program α}
    (hx : x.AsksHooks) : Orderly p ctx true (x >>= f) := by
  induction hx with
  | done result =>
    cases result with
    | ok a => exact hf a
    | error error => exact .done _
  | hook hc herror _ ih =>
    refine .hook hc (fun error => ?_) ih
    rw [herror]
    rfl

theorem orderly_read {c : RowCall} {f : List Row → Program Answer} (hc : c.mutates = false)
    (hf : ∀ rows, Orderly p ctx false (f rows)) : Orderly p ctx hooks (p.rows ctx c >>= f) :=
  .read ⟨rfl, rfl⟩ hc (fun _ => rfl) hf

/-- The last call may be a change. -/
theorem orderly_last {c : RowCall} {f : List Row → Program Answer} (hf : ∀ rows, ∃ result, f rows = .done result) :
    Orderly p ctx hooks (p.rows ctx c >>= f) :=
  .last ⟨rfl, rfl⟩ (fun _ => rfl) hf

theorem orderly_count {filter : List Predicate} {f : Nat → Program Answer}
    (hf : ∀ total, ∃ result, f total = .done result) :
    Orderly p ctx hooks (Program.call (.count ctx.store p.entity filter) >>= f) :=
  .last ⟨rfl, rfl⟩ (fun _ => rfl) hf

/-! ### What an orderly program does -/

variable {x : Program Answer} {t : List Exchange} {r : Except ServiceError Answer}

theorem Orderly.goesTo {c : Call} {next : Except ServiceError c.Reply → Program Answer}
    (h : Orderly p ctx hooks (.ask c next)) (hc : c.isStoreCall = true) : c.GoesTo ctx.store p.entity := by
  cases h with
  | hook hhook => rw [hhook] at hc; cases hc
  | read hto => exact hto
  | last hto => exact hto

theorem Orderly.early {c : Call} {next : Except ServiceError c.Reply → Program Answer}
    (h : Orderly p ctx hooks (.ask c next)) (hc : c.isStoreCall = false) : hooks = true := by
  cases h with
  | hook => rfl
  | read hto => exact absurd hto (Call.not_goesTo_of_hook hc)
  | last hto => exact absurd hto (Call.not_goesTo_of_hook hc)

theorem Orderly.ends_at_error {c : Call} {next : Except ServiceError c.Reply → Program Answer}
    (h : Orderly p ctx hooks (.ask c next)) (error : ServiceError) : next (.error error) = .done (.error error) := by
  cases h with
  | hook _ herror => exact herror error
  | read _ _ herror => exact herror error
  | last _ herror => exact herror error

theorem Orderly.ends_at_change {c : Call} {next : Except ServiceError c.Reply → Program Answer}
    (h : Orderly p ctx hooks (.ask c next)) (hc : c.mutates = true) (reply : c.Reply) :
    ∃ result, next (.ok reply) = .done result := by
  cases h with
  | hook hhook =>
    cases c <;> first | cases hc | cases hhook
  | read _ hmutates => rw [hmutates] at hc; cases hc
  | last _ _ hlast => exact hlast reply

/-- What follows is orderly again, and asks no hook behind a call to a store. -/
theorem Orderly.next {c : Call} {next : Except ServiceError c.Reply → Program Answer}
    (h : Orderly p ctx hooks (.ask c next)) : ∀ reply, Orderly p ctx (!c.isStoreCall) (next reply)
  | .error error => by
    rw [h.ends_at_error]
    exact .done _
  | .ok reply => by
    cases h with
    | hook hc _ hnext =>
      rw [hc]
      exact hnext reply
    | read hto _ _ hnext =>
      rw [hto.isStoreCall]
      exact hnext reply
    | last _ _ hlast =>
      obtain ⟨result, hresult⟩ := hlast reply
      rw [hresult]
      exact .done result

variable {x : Program Answer} {t : List Exchange} {r : Except ServiceError Answer}

/-- **Every call to a store is to that of the context, about the entity.** -/
theorem Orderly.addressed (h : x.Answered t r) (hx : Orderly p ctx hooks x) :
    ∀ y ∈ t, y.call.isStoreCall = true → y.call.GoesTo ctx.store p.entity := by
  induction h generalizing hooks with
  | done result => simp
  | ask _ ih => exact List.forall_mem_cons.2 ⟨hx.goesTo, ih (hx.next _)⟩

/-- **A call that fails is the last, and its error is the result.** -/
theorem Orderly.failure_last (h : x.Answered t r) (hx : Orderly p ctx hooks x) : ∀ pre y post error,
    t = pre ++ y :: post → y.reply = .error error → post = [] ∧ r = .error error := by
  induction h generalizing hooks with
  | done result => intro pre y post error ht; cases pre <;> cases ht
  | @ask c next reply rest result h ih =>
    intro pre y post error ht hy
    cases pre with
    | nil =>
      cases ht
      have hreply : reply = .error error := hy
      rw [hreply, hx.ends_at_error] at h
      exact answered_done h
    | cons z pre =>
      cases ht
      exact ih (hx.next _) pre y post error rfl hy

/-- **A change is the last call.** -/
theorem Orderly.change_last (h : x.Answered t r) (hx : Orderly p ctx hooks x) : ∀ pre y post,
    t = pre ++ y :: post → y.call.mutates = true → post = [] := by
  induction h generalizing hooks with
  | done result => intro pre y post ht; cases pre <;> cases ht
  | @ask c next reply rest result h ih =>
    intro pre y post ht hy
    cases pre with
    | nil =>
      cases ht
      cases reply with
      | ok reply =>
        obtain ⟨end', hend⟩ := hx.ends_at_change hy reply
        rw [hend] at h
        exact (answered_done h).1
      | error error =>
        rw [hx.ends_at_error] at h
        exact (answered_done h).1
    | cons z pre =>
      cases ht
      exact ih (hx.next _) pre y post rfl hy

theorem Orderly.all_stored (h : x.Answered t r) (hx : Orderly p ctx false x) :
    ∀ y ∈ t, y.call.isStoreCall = true := by
  induction h with
  | done result => simp
  | @ask c next reply rest result _ ih =>
    have hc : c.isStoreCall = true := by
      cases hc : c.isStoreCall with
      | true => rfl
      | false => cases hx.early hc
    have hrest := hx.next reply
    rw [hc] at hrest
    exact List.forall_mem_cons.2 ⟨hc, ih hrest⟩

/-- **Behind a call to a store no hook is asked.** -/
theorem Orderly.stored_behind (h : x.Answered t r) (hx : Orderly p ctx hooks x) : ∀ pre y post,
    t = pre ++ y :: post → y.call.isStoreCall = true → ∀ z ∈ post, z.call.isStoreCall = true := by
  induction h generalizing hooks with
  | done result => intro pre y post ht; cases pre <;> cases ht
  | ask h ih =>
    intro pre y post ht hy
    cases pre with
    | nil =>
      cases ht
      have hrest := hx.next
      rw [hy] at hrest
      exact (hrest _).all_stored h
    | cons z pre =>
      cases ht
      exact ih (hx.next _) pre y post rfl hy

end

end Program

end RecordService
