import RecordService.Proofs.Scope.View
/-!
# Isolation — what is outside of a view takes no part in an operation

An operation isolates a view when the rows outside of it have no influence on the answer, nor on the rows of the view,
and stay as they are.  Every operation but a creation isolates the scope of its context, and the operations that hide
deleted rows isolate what is left of it (`isolates_view`).  Isolation carries over to operations one after another
(`runAll_eq_of_agree`).
-/
namespace RecordService
namespace Pipeline

/-- **The operation isolates the view.** -/
structure Isolates (p : Pipeline) (o : Occasion) (request : Request) (view : List Predicate) : Prop where
  /-- Stores with the same rows in the view give the same result, be it an answer or an error. -/
  result : ∀ s t : MemoryStore, s.visible p.entity view = t.visible p.entity view →
    (p.runOn o request s).1 = (p.runOn o request t).1
  /-- They have the same rows in the view afterwards. -/
  agree : ∀ s t : MemoryStore, s.visible p.entity view = t.visible p.entity view →
    (p.runOn o request s).2.visible p.entity view = (p.runOn o request t).2.visible p.entity view
  /-- The rows outside of the view keep their content and their order. -/
  confined : ∀ s : MemoryStore, Confined view (s.rowsOf p.entity) ((p.runOn o request s).2.rowsOf p.entity)

variable {p : Pipeline} {o : Occasion} {request : Request} {view : List Predicate}

theorem Isolates.of_within (h : ∀ i : Intent, p.plan o request = .ok i → i.Within p view) :
    p.Isolates o request view := by
  cases hplan : p.plan o request with
  | error error =>
    refine ⟨fun s t _ => ?_, fun s t hagree => ?_, fun s => ?_⟩
    · rw [runOn_of_refusal hplan, runOn_of_refusal hplan]
    · rw [runOn_of_refusal hplan, runOn_of_refusal hplan]
      exact hagree
    · rw [runOn_of_refusal hplan]
      exact Confined.refl view _
  | ok i =>
    have hi := h i hplan
    refine ⟨fun s t hagree => ?_, fun s t hagree => ?_, fun s => ?_⟩
    · rw [runOn_of_plan hplan, runOn_of_plan hplan]
      exact Intent.runOn_eq_of_agree hi hagree
    · rw [runOn_of_plan hplan, runOn_of_plan hplan]
      exact Intent.agree_runOn hi hagree
    · rw [runOn_of_plan hplan]
      exact Intent.runOn_confined hi

/-- **Every operation but a creation isolates the scope of its context**, with the deleted rows or, when it passes
over those, without them. -/
theorem isolates_view (p : Pipeline) (o : Occasion) (request : Request) (hr : request.creates = false) :
    p.Isolates o request (p.view o.context true) ∧
      (p.HidesDeleted request → p.Isolates o request (p.view o.context false)) := by
  constructor
  · exact .of_within fun i hi => plan_within hr hi
  · intro hd
    exact .of_within fun i hi => plan_within_visible hr hd hi

/-- The second note is another tenant's in one store and deleted in the other. -/
theorem isolates_view_notes :
    (Notes.rename "2").creates = false ∧ Notes.byTenant.HidesDeleted (Notes.rename "2") ∧
      (Notes.byTenant.runOn (Notes.occasion "a") (Notes.rename "2")
        (Notes.store [Notes.row "1" (.str "a") .null, Notes.row "2" (.str "b") .null])).1 =
      (Notes.byTenant.runOn (Notes.occasion "a") (Notes.rename "2")
        (Notes.store [Notes.row "1" (.str "a") .null, Notes.row "2" (.str "a") (.str "2024-04-01")])).1 :=
  ⟨rfl, trivial, ((isolates_view Notes.byTenant (Notes.occasion "a") (Notes.rename "2") rfl).2 trivial).result _ _ rfl⟩

/-- **Operations that isolate a view cannot tell apart stores that agree on it**, however many of them run one after
another. -/
theorem runAll_eq_of_agree : ∀ (steps : List (Occasion × Request)) (s t : MemoryStore),
    (∀ step ∈ steps, p.Isolates step.1 step.2 view) → s.visible p.entity view = t.visible p.entity view →
      (p.runAll steps s).1 = (p.runAll steps t).1 ∧
        (p.runAll steps s).2.visible p.entity view = (p.runAll steps t).2.visible p.entity view
  | [], _, _, _, h => ⟨rfl, h⟩
  | (o, request) :: rest, s, t, hsteps, h => by
    obtain ⟨hstep, hrest⟩ := List.forall_mem_cons.1 hsteps
    obtain ⟨hanswers, hagree⟩ := runAll_eq_of_agree rest _ _ hrest (hstep.agree s t h)
    refine ⟨?_, hagree⟩
    rw [runAll, runAll, hstep.result s t h, hanswers]

end Pipeline
end RecordService
