import RecordService.Proofs.Pipeline.Memory
import RecordService.Proofs.Store.Sort
/-!
# Views — what a context lets an operation reach

The view of a context is the restrictions of its scope and, unless deleted rows are asked for, the rule that hides
them.  Whatever an operation other than a creation intends, it stays within the view (`plan_within`).  An intent
within a view comes to the same on stores that agree on the view, touches its rows only, and returns no others.
-/
namespace RecordService

/-! ## The view of a context -/

namespace Pipeline

/-- The rows within the scope of the caller; without the deleted ones when they are not included. -/
def view (p : Pipeline) (ctx : Context) (includeDeleted : Bool) : List Predicate :=
  p.scope.restrictions ctx.scope ctx.actor ++ visibility p.entity.softDelete includeDeleted

theorem view_includeDeleted (p : Pipeline) (ctx : Context) :
    p.view ctx true = p.scope.restrictions ctx.scope ctx.actor := by
  have hnone : visibility p.entity.softDelete true = [] := by unfold visibility; split <;> rfl
  rw [view, hnone, List.append_nil]

/-- To hide the deleted rows narrows the view. -/
theorem view_narrows (p : Pipeline) (ctx : Context) (includeDeleted : Bool) :
    Narrows (p.view ctx includeDeleted) (p.view ctx true) := by
  rw [view_includeDeleted]
  exact .of_subset fun q h => List.mem_append_left _ h

theorem satisfies_reach (p : Pipeline) (ctx : Context) (ps : List Predicate) (includeDeleted : Bool) (row : Row) :
    row.satisfies (p.reach ctx ps includeDeleted) = (row.satisfies ps && row.satisfies (p.view ctx includeDeleted)) := by
  simp [reach, applyVisibility, Scope.apply, view]

theorem reach_narrows (p : Pipeline) (ctx : Context) (ps : List Predicate) (includeDeleted : Bool) :
    Narrows (p.reach ctx ps includeDeleted) ps := by
  intro row h
  rw [satisfies_reach, Bool.and_eq_true] at h
  exact h.1

theorem reach_narrows_view (p : Pipeline) (ctx : Context) (ps : List Predicate) (includeDeleted : Bool) :
    Narrows (p.reach ctx ps includeDeleted) (p.view ctx includeDeleted) := by
  intro row h
  rw [satisfies_reach, Bool.and_eq_true] at h
  exact h.2

end Pipeline

theorem Table.mem_of_mem_window {limit offset : Option Nat} {rows : List Row} {row : Row}
    (h : row ∈ Table.window limit offset rows) : row ∈ rows := by
  unfold Table.window at h
  cases limit with
  | none => exact List.mem_of_mem_drop h
  | some n => exact List.mem_of_mem_drop (List.mem_of_mem_take h)

/-- A selection shows rows that satisfy the filter, in whatever order. -/
theorem MemoryStore.mem_visible_of_mem_select {s : MemoryStore} {e : Entity} {selection : Selection} {rows : List Row}
    (h : s.select e selection = .ok rows) {row : Row} (hrow : row ∈ rows) : row ∈ s.visible e selection.filter := by
  obtain ⟨sorted, hsorted, rfl⟩ := MemoryStore.select_eq_ok_iff.1 h
  exact (OrderBy.sortRows_perm hsorted).mem_iff.1 (Table.mem_of_mem_window hrow)

/-- Where nothing is visible, every selection is empty. -/
theorem MemoryStore.select_eq_nil {s : MemoryStore} {e : Entity} {selection : Selection}
    (h : s.visible e selection.filter = []) : s.select e selection = .ok [] := by
  obtain ⟨sorted, hsorted⟩ := OrderBy.sortRows_of_length_le (e.ordersBy selection.orderBy)
    (by rw [h]; exact Nat.zero_le 20 : (s.visible e selection.filter).length ≤ 20)
  have hselect : s.select e selection = .ok (Table.window selection.limit selection.offset sorted) :=
    MemoryStore.select_eq_ok_iff.2 ⟨sorted, hsorted, rfl⟩
  refine hselect.trans (congrArg _ (List.eq_nil_iff_forall_not_mem.2 fun row hrow => ?_))
  have hvisible := MemoryStore.mem_visible_of_mem_select hselect hrow
  rw [h] at hvisible
  cases hvisible

/-! ## Intents within a view -/

/-- The rows that reading comes to. -/
def Answer.read : Answer → List Row
  | .found r => r.toList
  | .page p => p.results
  | _ => []

namespace Intent

/-- Every row that the intent is about is one of the view. -/
def Within (p : Pipeline) (view : List Predicate) : Intent → Prop
  | .answer a => a.read = []
  | .find filter => Narrows filter view
  | .page filter _ _ => Narrows filter view
  | .call c _ => c.Within view
  | .expunge id filter => Narrows filter view ∧ Narrows filter [p.entity.idEquals id]

variable {p : Pipeline} {o : Occasion} {i : Intent} {view : List Predicate} {s t : MemoryStore}

theorem Within.mono {view' : List Predicate} (h : Narrows view view') : ∀ {i : Intent}, i.Within p view → i.Within p view'
  | .answer _, hi => hi
  | .find _, hi => hi.trans h
  | .page _ _ _, hi => hi.trans h
  | .call (.select _) _, hi => hi.trans h
  | .call (.insert _) _, hi => hi.elim
  | .call (.update _ _) _, hi => hi.trans h
  | .call (.delete _) _, hi => hi.trans h
  | .expunge _ _, hi => ⟨hi.1.trans h, hi.2⟩

/-- **To look a record up before it is removed changes neither the answer nor the tables**: when it is not there, there
is nothing to remove. -/
theorem runOn_expunge_eq {id : Json} {filter : List Predicate} (h : Narrows filter [p.entity.idEquals id]) :
    ((expunge id filter).runOn p o s).1 = ((call (.delete filter) (.affectedSome id)).runOn p o s).1 ∧
      ((expunge id filter).runOn p o s).2.Same ((call (.delete filter) (.affectedSome id)).runOn p o s).2 := by
  rw [runOn_expunge]
  split
  · rename_i habsent
    have hid : s.visible p.entity [p.entity.idEquals id] = [] := by
      rw [List.isEmpty_iff, List.take_eq_nil_iff] at habsent
      exact habsent.resolve_left (by decide)
    have hnone : (MemoryStore.answer o.draws p.entity (.delete filter) s).1 = .ok [] := by
      rw [MemoryStore.answer_delete, ← h.filter_filter]
      exact congrArg (fun rows => Except.ok (List.filter _ rows)) hid
    rw [runOn_call]
    dsimp only
    rw [hnone]
    exact ⟨rfl, (MemoryStore.answer_nil hnone).symm⟩
  · exact ⟨rfl, MemoryStore.Same.refl _⟩

/-- **An intent within the view comes to the same on stores that agree on it.** -/
theorem runOn_eq_of_agree (hi : i.Within p view) (h : s.visible p.entity view = t.visible p.entity view) :
    (i.runOn p o s).1 = (i.runOn p o t).1 := by
  cases i with
  | answer a => rfl
  | find filter => rw [runOn_find, runOn_find, MemoryStore.visible_eq_of_agree hi h]
  | page filter orderBy bounds =>
    rw [runOn_page, runOn_page, MemoryStore.count_eq_of_agree hi h]
    exact congrArg (Except.map fun rows => Answer.page (Page.of rows bounds _)) (MemoryStore.select_eq_of_agree hi h)
  | call c outcome =>
    rw [runOn_call, runOn_call]
    exact congrArg (· >>= outcome.answer p) (MemoryStore.answer_eq_of_agree o.draws hi h)
  | expunge id filter =>
    rw [(runOn_expunge_eq hi.2).1, (runOn_expunge_eq hi.2).1, runOn_call, runOn_call]
    have hdelete : RowCall.Within view (.delete filter) := hi.1
    exact congrArg (· >>= Outcome.answer p _) (MemoryStore.answer_eq_of_agree o.draws hdelete h)

/-- **Stores that agree on the view agree on it after an intent within it.** -/
theorem agree_runOn (hi : i.Within p view) (h : s.visible p.entity view = t.visible p.entity view) :
    (i.runOn p o s).2.visible p.entity view = (i.runOn p o t).2.visible p.entity view := by
  cases i with
  | answer a => exact h
  | find filter => exact h
  | page filter orderBy bounds =>
    rw [runOn_page, runOn_page]
    exact h
  | call c outcome =>
    rw [runOn_call, runOn_call]
    exact MemoryStore.agree_answer o.draws hi h
  | expunge id filter =>
    rw [(runOn_expunge_eq hi.2).2.visible_eq, (runOn_expunge_eq hi.2).2.visible_eq, runOn_call, runOn_call]
    have hdelete : RowCall.Within view (.delete filter) := hi.1
    exact MemoryStore.agree_answer o.draws hdelete h

/-- **An intent within the view leaves every other row where it is.** -/
theorem runOn_confined (hi : i.Within p view) : Confined view (s.rowsOf p.entity) ((i.runOn p o s).2.rowsOf p.entity) := by
  cases i with
  | answer a => exact Confined.refl view _
  | find filter => exact Confined.refl view _
  | page filter orderBy bounds =>
    rw [runOn_page]
    exact Confined.refl view _
  | call c outcome =>
    rw [runOn_call]
    exact MemoryStore.answer_confined o.draws hi
  | expunge id filter =>
    rw [MemoryStore.rowsOf, MemoryStore.rowsOf, (runOn_expunge_eq hi.2).2.table_eq, runOn_call]
    have hdelete : RowCall.Within view (.delete filter) := hi.1
    exact MemoryStore.answer_confined o.draws hdelete

theorem read_eq_nil_of_outcome {outcome : Outcome} {rows : List Row} {a : Answer} (h : outcome.answer p rows = .ok a) :
    a.read = [] := by
  cases outcome <;> unfold Outcome.answer at h <;> dsimp only at h
  · split at h <;> cases h; rfl
  · unfold Pipeline.firstOrNotFound at h
    split at h <;> cases h; rfl
  · cases h; rfl
  · unfold Pipeline.affectedOrNotFound at h
    split at h <;> cases h; rfl
  · cases h; rfl

/-- **What an intent within the view reads is in the view.** -/
theorem read_satisfies (hi : i.Within p view) {a : Answer} (h : (i.runOn p o s).1 = .ok a) :
    ∀ row ∈ a.read, row.satisfies view = true := by
  cases i with
  | answer b => cases h; rw [show a.read = [] from hi]; simp
  | find filter =>
    rw [runOn_find] at h
    cases h
    intro row hrow
    have hmem := List.mem_of_mem_head? (Option.mem_toList.1 hrow)
    exact hi row (List.mem_filter.1 hmem).2
  | page filter orderBy bounds =>
    rw [runOn_page] at h
    obtain ⟨rows, hrows, rfl⟩ := ok_of_map h
    intro row hrow
    exact hi row (List.mem_filter.1 (MemoryStore.mem_visible_of_mem_select hrows hrow)).2
  | call c outcome =>
    rw [runOn_call] at h
    obtain ⟨rows, -, h⟩ := ok_of_bind h
    rw [read_eq_nil_of_outcome h]; simp
  | expunge id filter =>
    rw [(runOn_expunge_eq hi.2).1, runOn_call] at h
    obtain ⟨rows, -, h⟩ := ok_of_bind h
    rw [read_eq_nil_of_outcome h]; simp

end Intent

/-! ## Every operation but a creation -/

namespace Request

/-- The operation stores records of its own. -/
def creates : Request → Bool
  | .create _ => true
  | .bulkCreate _ => true
  | _ => false

end Request

namespace Decoder

theorem visitMembers_append {σ : Type} (fields : List (Field σ)) : ∀ (a b : Row) (record : σ),
    visitMembers fields (a ++ b) record = visitMembers fields a record >>= visitMembers fields b
  | [], _, _ => rfl
  | (name, v) :: a, b, record => by
    rw [List.cons_append, visitMembers, visitMembers]
    split
    · rename_i field _
      cases field.read v record with
      | error e => rfl
      | ok record => exact visitMembers_append fields a b record
    · exact visitMembers_append fields a b record

end Decoder

namespace ListParams

/-- List parameters that were written and read again ask for deleted rows if they did before. -/
theorem includeDeleted_of_ofJson {params q : ListParams} (h : ofJson params.encode = .ok q) :
    q.includeDeleted = params.includeDeleted := by
  unfold ofJson at h
  split at h
  · rename_i q' hq
    cases h
    obtain ⟨done, hdone, hq⟩ := ok_of_bind hq
    split at hq
    · cases hq
      rw [Decoder.visitMembers_append] at hdone
      obtain ⟨before, -, hlast⟩ := ok_of_bind hdone
      cases hlast
      rfl
    · cases hq
  · cases h

/-- The standard validator asks for deleted rows only when the caller does. -/
theorem includeDeleted_of_validator {params q : ListParams} (h : (validator params.encode >>= ofJson) = .ok q) :
    q.includeDeleted = params.includeDeleted := by
  obtain ⟨v, hv, hq⟩ := ok_of_bind h
  obtain ⟨r, hr, hv⟩ := ok_of_bind hv
  obtain ⟨-, -, hv⟩ := ok_of_bind hv
  cases hv
  rw [includeDeleted_of_ofJson hq, includeDeleted_of_ofJson hr]

end ListParams

namespace Pipeline

variable {p : Pipeline} {o : Occasion} {request : Request} {i : Intent}

/-- The operation passes over the rows that are marked as deleted.  A list that does not ask for them does so, unless
a validator of the application's own asks for them instead. -/
def HidesDeleted (p : Pipeline) : Request → Prop
  | .findOne _ includeDeleted => includeDeleted = false
  | .list params => params.includeDeleted = false ∧ p.validators.list = ListParams.validator
  | .update _ _ => True
  | _ => False

theorem includeDeleted_of_paramsFor {h : Hooks} {ctx : Context} {params q : ListParams}
    (hlist : p.validators.list = ListParams.validator) (hq : p.paramsFor h params ctx = .ok q) :
    q.includeDeleted = params.includeDeleted := by
  obtain ⟨b, -, hq⟩ := ok_of_bind hq
  cases b with
  | true => rw [hlist] at hq; exact ListParams.includeDeleted_of_validator hq
  | false => cases hq; rfl

theorem revision_within (now : String) (changes : Row) {filter view : List Predicate} (h : Narrows filter view) :
    (p.revision now changes filter).Within view := by
  unfold revision
  split <;> exact h

theorem removal_within (now : String) {filter view : List Predicate} (h : Narrows filter view) :
    (p.removal now filter).Within view := by
  unfold removal
  split <;> exact h

/-- **Whatever an operation other than a creation intends is within the view of its context**, and within the rows that
are not deleted when it hides those. -/
theorem plan_within_some (hr : request.creates = false) (hi : p.plan o request = .ok i) :
    ∃ includeDeleted, i.Within p (p.view o.context includeDeleted) ∧
      (p.HidesDeleted request → includeDeleted = false) := by
  cases request with
  | create data => cases hr
  | findOne conditions includeDeleted =>
    obtain ⟨c, row, -, -, rfl⟩ := Intended.of_findOne hi
    exact ⟨includeDeleted, p.reach_narrows_view _ _ _, id⟩
  | list params =>
    obtain ⟨q, hq, rfl⟩ := Intended.of_list hi
    refine ⟨q.includeDeleted, p.reach_narrows_view _ _ _, fun h => ?_⟩
    rw [includeDeleted_of_paramsFor h.2 hq, h.1]
  | update id data =>
    obtain ⟨id', data', revised, row, -, -, -, rfl⟩ := Intended.of_update hi
    exact ⟨false, revision_within _ _ (p.reach_narrows_view _ _ _), fun _ => rfl⟩
  | deleteOne id =>
    obtain ⟨id', -, rfl⟩ := Intended.of_deleteOne hi
    exact ⟨true, removal_within _ (p.reach_narrows_view _ _ _), False.elim⟩
  | restore id =>
    obtain ⟨s, id', -, -, rfl⟩ := Intended.of_restore hi
    exact ⟨true, p.reach_narrows_view _ _ _, False.elim⟩
  | permanentDelete id =>
    obtain ⟨id', -, rfl⟩ := Intended.of_permanentDelete hi
    exact ⟨true, ⟨p.reach_narrows_view _ _ _, p.reach_narrows _ _ _⟩, False.elim⟩
  | bulkCreate records => cases hr
  | bulkDelete ids =>
    obtain ⟨-, rfl⟩ | ⟨ids', -, rfl⟩ := Intended.of_bulkDelete hi
    · exact ⟨true, rfl, False.elim⟩
    · exact ⟨true, removal_within _ (p.reach_narrows_view _ _ _), False.elim⟩
  | bulkRestore ids =>
    obtain ⟨-, rfl⟩ | ⟨s, ids', -, -, rfl⟩ := Intended.of_bulkRestore hi
    · exact ⟨true, rfl, False.elim⟩
    · exact ⟨true, p.reach_narrows_view _ _ _, False.elim⟩

theorem plan_within (hr : request.creates = false) (hi : p.plan o request = .ok i) :
    i.Within p (p.view o.context true) := by
  obtain ⟨includeDeleted, hwithin, -⟩ := plan_within_some hr hi
  exact hwithin.mono (p.view_narrows _ _)

theorem plan_within_visible (hr : request.creates = false) (hd : p.HidesDeleted request)
    (hi : p.plan o request = .ok i) : i.Within p (p.view o.context false) := by
  obtain ⟨includeDeleted, hwithin, hhides⟩ := plan_within_some hr hi
  exact hhides hd ▸ hwithin

end Pipeline

end RecordService
