import Mathlib.Data.List.Dedup
import RecordService.Proofs.Scope.View
/-!
# Interleaving — operations that run at the same time

Tasks share one memory store.  Each makes its calls in its own order, and between two of them the others may make any
of theirs; a call to the store is one step (`Interleaved`).  Whatever a task other than a list has read before, its
last call to the store comes to what the whole task would come to on the tables it finds then, and the calls before
that change nothing (`Stage.effect_or_ahead`).  So the tasks have the results, and leave the tables, that they would
have and leave one after another, in the order of their last calls (`serial_of_interleaved`).
-/
namespace RecordService

/-! ## Tasks -/

/-- An operation of a pipeline, on an occasion. -/
structure Task where
  pipeline : Pipeline
  occasion : Occasion
  request : Request

namespace Task

def program (t : Task) : Program Answer := t.pipeline.perform t.occasion.now t.occasion.context t.request

def plan (t : Task) : Except ServiceError Intent := t.pipeline.plan t.occasion t.request

/-- What answers the calls of the task: the hooks of its pipeline, and the store. -/
def surroundings (t : Task) : Surroundings MemoryStore := t.pipeline.onMemory t.occasion.draws

/-- What the task comes to when no other comes between its calls. -/
def runOn (t : Task) (s : MemoryStore) : Except ServiceError Answer × MemoryStore :=
  t.pipeline.runOn t.occasion t.request s

/-- The results of tasks that run one after another, and the store behind the last. -/
def runAll : List Task → MemoryStore → List (Except ServiceError Answer) × MemoryStore
  | [], s => ([], s)
  | t :: rest, s => ((t.runOn s).1 :: (runAll rest (t.runOn s).2).1, (runAll rest (t.runOn s).2).2)

end Task

/-! ## Interleavings -/

/-- **Tasks at work at the same time**, from what each of them has still to do and the store, to their results and the
store behind the last call.  The log names the task of each call to the store, in the order of the calls. -/
inductive Interleaved {ι : Type} [DecidableEq ι] (tasks : ι → Task) :
    (ι → Program Answer) → MemoryStore → List ι → (ι → Except ServiceError Answer) → MemoryStore → Prop where
  | done {rest : ι → Program Answer} {s : MemoryStore} {results : ι → Except ServiceError Answer} :
      (∀ i, rest i = .done (results i)) → Interleaved tasks rest s [] results s
  | hook {rest : ι → Program Answer} {s s' : MemoryStore} {log : List ι} {results : ι → Except ServiceError Answer}
      (i : ι) {c : Call} {next : Except ServiceError c.Reply → Program Answer} :
      rest i = .ask c next → c.isStoreCall = false →
      Interleaved tasks (Function.update rest i (next ((tasks i).surroundings.reply c s).1)) s log results s' →
      Interleaved tasks rest s log results s'
  | store {rest : ι → Program Answer} {s s' : MemoryStore} {log : List ι} {results : ι → Except ServiceError Answer}
      (i : ι) {c : Call} {next : Except ServiceError c.Reply → Program Answer} :
      rest i = .ask c next → c.isStoreCall = true →
      Interleaved tasks (Function.update rest i (next ((tasks i).surroundings.reply c s).1))
        ((tasks i).surroundings.reply c s).2 log results s' →
      Interleaved tasks rest s (i :: log) results s'

/-- **An order of all tasks that goes by their last calls.**  The last occurrences in the log say how the tasks that
call the store follow each other; the others may stand anywhere. -/
structure ByLastCall {ι : Type} [DecidableEq ι] (log order : List ι) : Prop where
  nodup : order.Nodup
  complete : ∀ i, i ∈ order
  agrees : order.filter (· ∈ log) = log.dedup

/-- Finitely many tasks can be put into such an order. -/
theorem exists_byLastCall {ι : Type} [DecidableEq ι] {all : List ι} (hall : ∀ i, i ∈ all) (log : List ι) :
    ∃ order, ByLastCall log order := by
  refine ⟨all.dedup.filter (· ∉ log) ++ log.dedup, ?_, fun i => ?_, ?_⟩
  · refine List.Nodup.append ((List.nodup_dedup all).filter _) (List.nodup_dedup log) fun i hi hlog => ?_
    have hnot := (List.mem_filter.1 hi).2
    exact of_decide_eq_true hnot (List.mem_dedup.1 hlog)
  · by_cases hi : i ∈ log
    · exact List.mem_append_right _ (List.mem_dedup.2 hi)
    · exact List.mem_append_left _ (List.mem_filter.2 ⟨List.mem_dedup.2 (hall i), decide_eq_true hi⟩)
  · have hidle : (all.dedup.filter (· ∉ log)).filter (· ∈ log) = [] := by
      rw [List.filter_filter, List.filter_eq_nil_iff]
      intro i _
      simp
    have hcalled : log.dedup.filter (· ∈ log) = log.dedup :=
      List.filter_eq_self.2 fun i hi => decide_eq_true (List.mem_dedup.1 hi)
    rw [List.filter_append, hidle, hcalled, List.nil_append]

/-! ## What a task intends -/

namespace Pipeline

variable {p : Pipeline} {o : Occasion} {request : Request}

/-- Only a list intends a page, and what is removed for good goes by its identifier. -/
def Fits (p : Pipeline) (request : Request) : Intent → Prop
  | .page _ _ _ => request.operation = .list
  | .expunge id filter => Narrows filter [p.entity.idEquals id]
  | _ => True

theorem plan_fits {i : Intent} (hi : p.plan o request = .ok i) : p.Fits request i := by
  cases request with
  | create data => obtain ⟨_, _, _, -, -, -, rfl⟩ := Intended.of_create hi; trivial
  | findOne conditions includeDeleted => obtain ⟨_, _, -, -, rfl⟩ := Intended.of_findOne hi; trivial
  | list params => obtain ⟨_, -, rfl⟩ := Intended.of_list hi; rfl
  | update id data => obtain ⟨_, _, _, _, -, -, -, rfl⟩ := Intended.of_update hi; trivial
  | deleteOne id => obtain ⟨_, -, rfl⟩ := Intended.of_deleteOne hi; trivial
  | restore id => obtain ⟨_, _, -, -, rfl⟩ := Intended.of_restore hi; trivial
  | permanentDelete id => obtain ⟨_, -, rfl⟩ := Intended.of_permanentDelete hi; exact p.reach_narrows _ _ _
  | bulkCreate records => obtain ⟨-, rfl⟩ | ⟨_, _, -, -, rfl⟩ := Intended.of_bulkCreate hi <;> trivial
  | bulkDelete ids => obtain ⟨-, rfl⟩ | ⟨_, -, rfl⟩ := Intended.of_bulkDelete hi <;> trivial
  | bulkRestore ids => obtain ⟨-, rfl⟩ | ⟨_, _, -, -, rfl⟩ := Intended.of_bulkRestore hi <;> trivial

end Pipeline

/-! ## The stages of a task -/

namespace Task

variable {t : Task} {s : MemoryStore}

def afterHooks (t : Task) (x : Program Answer) : Program Answer := x.afterHooks t.pipeline.hooks

def carryOut (t : Task) (i : Intent) : Program Answer := i.program t.pipeline t.occasion.context

/-- **What a task has still to do**, apart from asking its hooks: nothing but to report that it was refused, all of
what it intends, or to remove what it found. -/
inductive Stage (t : Task) : Program Answer → Prop where
  | refused {error : ServiceError} : t.plan = .error error → t.Stage (.done (.error error))
  | planned {i : Intent} : t.plan = .ok i → t.Stage (t.carryOut i)
  | found {id : Json} {filter : List Predicate} : t.plan = .ok (.expunge id filter) →
      t.Stage (t.carryOut (.call (.delete filter) (.affectedSome id)))

/-- What a task intends begins with a call to the store. -/
theorem afterHooks_carryOut (t : Task) (i : Intent) : t.afterHooks (t.carryOut i) = t.carryOut i := by
  cases i <;> rfl

theorem stage_program (t : Task) : t.Stage (t.afterHooks t.program) := by
  have hopens : t.program.OpensWith t.pipeline.hooks t.plan t.carryOut := t.pipeline.perform_onMemory t.occasion t.request
  cases hplan : t.plan with
  | error error =>
    rw [hplan] at hopens
    rw [show t.afterHooks t.program = .done (.error error) from hopens]
    exact .refused hplan
  | ok i =>
    rw [hplan] at hopens
    rw [show t.afterHooks t.program = t.afterHooks (t.carryOut i) from hopens, afterHooks_carryOut]
    exact .planned hplan

theorem afterHooks_ask_hook {c : Call} (hc : c.isStoreCall = false)
    (next : Except ServiceError c.Reply → Program Answer) (s : MemoryStore) :
    t.afterHooks (.ask c next) = t.afterHooks (next (t.surroundings.reply c s).1) := by
  cases c with
  | permit operation data ctx => rfl
  | revise stage data => rfl
  | rows store e call => cases hc
  | count store e filter => cases hc

theorem afterHooks_ask_store {c : Call} (hc : c.isStoreCall = true)
    (next : Except ServiceError c.Reply → Program Answer) : t.afterHooks (.ask c next) = .ask c next := by
  cases c with
  | permit operation data ctx => cases hc
  | revise stage data => cases hc
  | rows store e call => rfl
  | count store e filter => rfl

theorem runOn_congr {s' : MemoryStore} (t : Task) (h : s.Same s') :
    (t.runOn s).1 = (t.runOn s').1 ∧ (t.runOn s).2.Same (t.runOn s').2 :=
  Program.run_congr t.pipeline t.occasion.draws _ h

/-- A task that has no call to make comes to the same in every store, and changes none. -/
theorem Stage.runOn_of_done {result : Except ServiceError Answer} (h : t.Stage (.done result)) (s : MemoryStore) :
    t.runOn s = (result, s) := by
  generalize hx : Program.done result = x at h
  cases h with
  | refused hplan =>
    cases hx
    exact Pipeline.runOn_of_refusal hplan
  | planned hplan =>
    rename_i i
    cases i with
    | answer a => cases hx; exact Pipeline.runOn_of_plan hplan
    | find filter => cases hx
    | page filter orderBy bounds => cases hx
    | call c outcome => cases hx
    | expunge id filter => cases hx
  | found hplan => cases hx

/-- **A call to the store is the one by which the task takes effect, or one ahead of it.**  By the first, the task comes to
its result and leaves the tables as if all of it had run at this moment; one ahead changes nothing, and another call
is to come. -/
theorem Stage.effect_or_ahead (hlist : t.request.operation ≠ .list) {c : Call}
    {next : Except ServiceError c.Reply → Program Answer} (h : t.Stage (.ask c next)) (s : MemoryStore) :
    (∃ result, next (t.surroundings.reply c s).1 = .done result ∧ (t.runOn s).1 = result ∧
      (t.runOn s).2.Same (t.surroundings.reply c s).2) ∨
    ((t.surroundings.reply c s).2 = s ∧ t.Stage (next (t.surroundings.reply c s).1) ∧
      ∃ c' next', c'.isStoreCall = true ∧ next (t.surroundings.reply c s).1 = .ask c' next') := by
  generalize hx : Program.ask c next = x at h
  cases h with
  | refused hplan => cases hx
  | planned hplan =>
    rename_i i
    have hrun : t.runOn s = i.runOn t.pipeline t.occasion s := Pipeline.runOn_of_plan hplan
    rw [hrun]
    cases i with
    | answer a => cases hx
    | find filter =>
      cases hx
      exact .inl ⟨_, rfl, rfl, MemoryStore.Same.refl s⟩
    | page filter orderBy bounds => exact absurd (Pipeline.plan_fits hplan) hlist
    | call call outcome =>
      rw [carryOut, Intent.program_call] at hx
      cases hx
      rw [Intent.runOn_call]
      exact .inl ⟨_, rfl, rfl, MemoryStore.Same.refl _⟩
    | expunge id filter =>
      cases hx
      rw [Intent.runOn_expunge]
      by_cases hnone : ((s.visible t.pipeline.entity [t.pipeline.entity.idEquals id]).take 1).isEmpty = true
      · rw [if_pos hnone]
        exact .inl ⟨_, if_pos hnone, rfl, MemoryStore.Same.refl s⟩
      · have hnext : (if ((s.visible t.pipeline.entity [t.pipeline.entity.idEquals id]).take 1).isEmpty = true
            then .fail (t.pipeline.entity.notFound id) else t.carryOut (.call (.delete filter) (.affectedSome id))) =
            t.carryOut (.call (.delete filter) (.affectedSome id)) := if_neg hnone
        have hfound : t.Stage (t.carryOut (.call (.delete filter) (.affectedSome id))) := .found hplan
        rw [← hnext] at hfound
        exact .inr ⟨rfl, hfound, _, _, rfl, hnext.trans (Intent.program_call _ _ _ _)⟩
  | found hplan =>
    rename_i id filter
    have hrun : t.runOn s = (Intent.expunge id filter).runOn t.pipeline t.occasion s := Pipeline.runOn_of_plan hplan
    obtain ⟨hanswer, hstore⟩ := Intent.runOn_expunge_eq (o := t.occasion) (s := s) (Pipeline.plan_fits hplan)
    rw [carryOut, Intent.program_call] at hx
    cases hx
    rw [hrun, hanswer, Intent.runOn_call]
    rw [Intent.runOn_call] at hstore
    exact .inl ⟨_, rfl, rfl, hstore⟩

end Task

/-! ## Serial runs -/

namespace Task

/-- Serial runs of the same tasks come to the same on stores with the same tables. -/
theorem runAll_congr : ∀ (ts : List Task) {s s' : MemoryStore}, s.Same s' →
    (runAll ts s).1 = (runAll ts s').1 ∧ (runAll ts s).2.Same (runAll ts s').2
  | [], _, _, h => ⟨rfl, h⟩
  | t :: ts, s, s', h => by
    obtain ⟨hresult, hstore⟩ := t.runOn_congr h
    obtain ⟨hresults, hlast⟩ := runAll_congr ts hstore
    exact ⟨by rw [runAll, runAll, hresult, hresults], hlast⟩

/-- A task that makes no call may stand anywhere in a serial run. -/
theorem runAll_filter {ι : Type} (tasks : ι → Task) (results : ι → Except ServiceError Answer) {called : ι → Bool}
    (hidle : ∀ i, called i = false → ∀ s, (tasks i).runOn s = (results i, s)) : ∀ (order : List ι) (s : MemoryStore),
    (runAll ((order.filter called).map tasks) s).1 = (order.filter called).map results →
      (runAll (order.map tasks) s).1 = order.map results ∧
        (runAll (order.map tasks) s).2 = (runAll ((order.filter called).map tasks) s).2
  | [], _, _ => ⟨rfl, rfl⟩
  | i :: order, s, h => by
    cases hi : called i with
    | true =>
      rw [List.filter_cons_of_pos hi] at h ⊢
      obtain ⟨hresult, hrest⟩ := List.cons.inj h
      obtain ⟨hresults, hlast⟩ := runAll_filter tasks results hidle order _ hrest
      refine ⟨?_, hlast⟩
      rw [List.map_cons, List.map_cons, runAll, hresult, hresults]
    | false =>
      rw [List.filter_cons_of_neg (by simp [hi])] at h ⊢
      obtain ⟨hresults, hlast⟩ := runAll_filter tasks results hidle order s h
      rw [List.map_cons, List.map_cons, runAll, hidle i hi s]
      exact ⟨by rw [hresults], hlast⟩

end Task

namespace Interleaved

variable {ι : Type} [DecidableEq ι] {tasks : ι → Task} {rest : ι → Program Answer} {s s' : MemoryStore} {log : List ι}
  {results : ι → Except ServiceError Answer}

/-- What the task has still to do, its hooks having answered. -/
theorem afterHooks_update_hook {i : ι} {c : Call} {next : Except ServiceError c.Reply → Program Answer}
    (hask : rest i = .ask c next) (hc : c.isStoreCall = false) (s : MemoryStore) (j : ι) :
    (tasks j).afterHooks (Function.update rest i (next ((tasks i).surroundings.reply c s).1) j) =
      (tasks j).afterHooks (rest j) := by
  by_cases hj : j = i
  · subst hj
    rw [Function.update_self, hask, Task.afterHooks_ask_hook hc]
  · rw [Function.update_of_ne hj]

/-- A task that has only hooks to ask makes no more calls, and one that awaits the store makes one. -/
theorem mem_log_iff (h : Interleaved tasks rest s log results s') (i : ι) :
    (∀ result, (tasks i).afterHooks (rest i) = .done result → i ∉ log ∧ results i = result) ∧
    (∀ c next, (tasks i).afterHooks (rest i) = .ask c next → i ∈ log) := by
  induction h with
  | done hdone =>
    refine ⟨fun result hi => ⟨List.not_mem_nil, ?_⟩, fun c next hi => ?_⟩
    · rw [hdone i] at hi
      exact Program.done.inj hi
    · rw [hdone i] at hi
      cases hi
  | hook j hask hc _ ih =>
    rw [afterHooks_update_hook hask hc] at ih
    exact ih
  | store j hask hc _ ih =>
    by_cases hij : i = j
    · subst hij
      refine ⟨fun result hi => ?_, fun _ _ _ => List.mem_cons_self⟩
      rw [hask, Task.afterHooks_ask_store hc] at hi
      cases hi
    · rw [Function.update_of_ne hij] at ih
      exact ⟨fun result hi => ⟨List.not_mem_cons_of_ne_of_not_mem hij (ih.1 result hi).1, (ih.1 result hi).2⟩,
        fun c next hi => List.mem_cons_of_mem j (ih.2 c next hi)⟩

/-- **The tasks that call the store, one after another in the order of their last calls.** -/
theorem serial_dedup (hlist : ∀ i, (tasks i).request.operation ≠ .list)
    (h : Interleaved tasks rest s log results s') (hstage : ∀ i ∈ log, (tasks i).Stage ((tasks i).afterHooks (rest i))) :
    (Task.runAll (log.dedup.map tasks) s).1 = log.dedup.map results ∧
      (Task.runAll (log.dedup.map tasks) s).2.Same s' := by
  induction h with
  | done _ => exact ⟨rfl, MemoryStore.Same.refl _⟩
  | hook i hask hc _ ih =>
    refine ih fun j hj => ?_
    rw [afterHooks_update_hook hask hc]
    exact hstage j hj
  | store i hask hc hrest ih =>
    rename_i rest s s' log results c next
    have hafter : ∀ j, j ≠ i → Function.update rest i (next ((tasks i).surroundings.reply c s).1) j = rest j :=
      fun j hj => Function.update_of_ne hj _ _
    have hmine := hrest.mem_log_iff i
    rw [Function.update_self] at hmine
    have hnow := hstage i List.mem_cons_self
    rw [hask, Task.afterHooks_ask_store hc] at hnow
    by_cases hi : i ∈ log
    · -- The call is not the last one of its task, so it is ahead of the effect.
      rw [List.dedup_cons_of_mem hi]
      obtain ⟨result, hnext, -, -⟩ | ⟨hsame, hahead, c', next', hc', hnext⟩ := hnow.effect_or_ahead (hlist i) s
      · exact absurd hi (hmine.1 result (by rw [hnext]; rfl)).1
      · have hserial := ih fun j hj => by
          by_cases hji : j = i
          · subst hji
            rw [Function.update_self, hnext, Task.afterHooks_ask_store hc', ← hnext]
            exact hahead
          · rw [hafter j hji]
            exact hstage j (List.mem_cons_of_mem i hj)
        rwa [hsame] at hserial
    · -- The call is the last one of its task, which takes effect here.
      rw [List.dedup_cons_of_notMem hi]
      obtain ⟨result, hnext, hresult, hstore⟩ | ⟨-, -, c', next', hc', hnext⟩ := hnow.effect_or_ahead (hlist i) s
      · obtain ⟨hresults, hlast⟩ := ih fun j hj => by
          rw [hafter j (ne_of_mem_of_not_mem hj hi)]
          exact hstage j (List.mem_cons_of_mem i hj)
        obtain ⟨hanswers, hend⟩ := Task.runAll_congr (log.dedup.map tasks) hstore
        refine ⟨?_, hend.trans hlast⟩
        rw [List.map_cons, List.map_cons, Task.runAll, hanswers, hresults, hresult,
          (hmine.1 result (by rw [hnext]; rfl)).2]
      · exact absurd (hmine.2 c' next' (by rw [hnext, Task.afterHooks_ask_store hc'])) hi

end Interleaved

/-- **Operations other than lists are linearizable.**  However their calls to the store are interleaved, one after
another they come to the same results and leave the same tables, in every order of all of them that goes by the last
call of each. -/
theorem serial_of_interleaved {ι : Type} [DecidableEq ι] {tasks : ι → Task}
    (hlist : ∀ i, (tasks i).request.operation ≠ .list) {s s' : MemoryStore} {log : List ι}
    {results : ι → Except ServiceError Answer}
    (h : Interleaved tasks (fun i => (tasks i).program) s log results s') {order : List ι}
    (horder : ByLastCall log order) :
    (Task.runAll (order.map tasks) s).1 = order.map results ∧ (Task.runAll (order.map tasks) s).2.Same s' := by
  have hstage : ∀ i, (tasks i).Stage ((tasks i).afterHooks (tasks i).program) := fun i => (tasks i).stage_program
  have hidle : ∀ i, decide (i ∈ log) = false → ∀ s, (tasks i).runOn s = (results i, s) := by
    intro i hi s
    have hnot : i ∉ log := of_decide_eq_false hi
    cases hleft : (tasks i).afterHooks (tasks i).program with
    | done result =>
      rw [((h.mem_log_iff i).1 result hleft).2]
      exact (hleft ▸ hstage i).runOn_of_done s
    | ask c next => exact absurd ((h.mem_log_iff i).2 c next hleft) hnot
  obtain ⟨hresults, hstore⟩ := h.serial_dedup hlist fun i _ => hstage i
  rw [← horder.agrees] at hresults hstore
  obtain ⟨hall, hlast⟩ := Task.runAll_filter tasks results hidle order s hresults
  exact ⟨hall, hlast ▸ hstore⟩

namespace Notes

/-- Two tasks that remove the same note for good. -/
def removals : Bool → Task := fun _ => ⟨byTenant, occasion "a", .permanentDelete (.str "1")⟩

def removalResults : Bool → Except ServiceError Answer
  | true => .ok (.affected 1)
  | false => .error (.notFound "note \"1\"")

/-- Both find the note, and then the second removes it before the first can. -/
theorem interleaved_removals : Interleaved removals (fun i => (removals i).program)
    (store [row "1" (.str "a") .null]) [false, true, true, false] removalResults (store []) := by
  refine .hook false rfl rfl (.hook true rfl rfl ?_)
  refine .store false rfl rfl (.store true rfl rfl ?_)
  refine .store true rfl rfl (.store false rfl rfl (.done ?_))
  intro i
  cases i <;> rfl

end Notes

/-- The first task comes to the same as if it had only begun when the second had ended. -/
theorem serial_of_interleaved_removals :
    (∀ i, (Notes.removals i).request.operation ≠ .list) ∧
      Interleaved Notes.removals (fun i => (Notes.removals i).program) (Notes.store [Notes.row "1" (.str "a") .null])
        [false, true, true, false] Notes.removalResults (Notes.store []) ∧
      ByLastCall [false, true, true, false] [true, false] ∧
      (Task.runAll ([true, false].map Notes.removals) (Notes.store [Notes.row "1" (.str "a") .null])).1 =
        [.ok (.affected 1), .error (.notFound "note \"1\"")] := by
  have hlist : ∀ i, (Notes.removals i).request.operation ≠ .list := fun i => by cases i <;> decide
  have horder : ByLastCall [false, true, true, false] [true, false] := ⟨by decide, by decide, by decide⟩
  exact ⟨hlist, Notes.interleaved_removals, horder, (serial_of_interleaved hlist Notes.interleaved_removals horder).1⟩

end RecordService
