import Mathlib.Data.List.Forall2
import RecordService.Proofs.Scope.View
import RecordService.Proofs.Store.Alteration
/-!
# Bulk — many identifiers at once

An operation on a list of identifiers alters the rows that are within the scope and have one of them.  To perform the
operation for one identifier after another, in whatever order and however often, alters the same rows: what was altered
under one identifier may have left the scope by the time of the next, or come into it, but is not altered further.  So
both leave the same store, and the rows that are counted are those that have any of the identifiers (`Bulk.runOn_many`).
-/
namespace RecordService

/-! ## Having one of several identifiers -/

theorem Entity.satisfies_idAmong (e : Entity) (row : Row) : ∀ ids : List Json,
    row.satisfies [e.idAmong ids] = ids.any fun id => row.satisfies [e.idEquals id]
  | [] => by simp [idAmong, Predicate.holds]
  | id :: ids => by
    have ih := e.satisfies_idAmong row ids
    rw [List.any_cons, ← ih]
    simp only [Row.satisfies_singleton, idAmong, idEquals, Predicate.eq, Predicate.holds, Comparison.holds, List.any_cons]
    cases hcell : (row.cell e.idField).isNull
    · -- a null among the identifiers is compared like the others, and is equal to no cell either
      cases id with
      | null =>
        have hnull : Cell.equal (row.cell e.idField) .null = false := Cell.equal_null hcell rfl
        simp [Json.isNull, hnull]
      | _ => simp [Json.isNull]
    · rfl

namespace Pipeline

variable {p : Pipeline} {ctx : Context}

/-- The row has the identifier that the value stands for. -/
def denotes (p : Pipeline) (ctx : Context) (row : Row) (id : Json) : Bool :=
  match p.validators.idFor ctx id with
  | .ok id' => row.satisfies [p.entity.idEquals id']
  | .error _ => false

theorem denotes_of_idFor {id id' : Json} (h : p.validators.idFor ctx id = .ok id') (row : Row) :
    p.denotes ctx row id = row.satisfies [p.entity.idEquals id'] := by
  rw [denotes, h]

theorem denotes_singleton {id id' : Json} (h : p.validators.idFor ctx id = .ok id') (row : Row) :
    row.satisfies [p.entity.idEquals id'] = [id].any (p.denotes ctx row) := by
  rw [List.any_cons, List.any_nil, Bool.or_false, denotes_of_idFor h]

/-! ### Validating them -/

/-- A list is validated element by element, so that each of its values comes to the identifier that it stands for. -/
theorem checkIds_ok {validator : Validator} : ∀ {ids : List Json} (i : Nat), (∀ id ∈ ids, ∃ id', validator id = .ok id') →
    ∃ ids', checkIds validator i ids = .ok ids' ∧ List.Forall₂ (fun id id' => validator id = .ok id') ids ids'
  | [], _, _ => ⟨[], rfl, .nil⟩
  | id :: ids, i, h => by
    obtain ⟨⟨id', hid⟩, hids⟩ := List.forall_mem_cons.1 h
    obtain ⟨ids', hchecked, hall⟩ := checkIds_ok (i + 1) hids
    refine ⟨id' :: ids', ?_, .cons hid hall⟩
    rw [checkIds, hid, hchecked]
    rfl

theorem idsFor_ok {ids : List Json} (h : ∀ id ∈ ids, ∃ id', p.validators.idFor ctx id = .ok id') :
    ∃ ids', p.validators.idsFor ctx ids = .ok ids' ∧
      List.Forall₂ (fun id id' => p.validators.idFor ctx id = .ok id') ids ids' := by
  unfold Validators.idsFor Validators.idFor at *
  cases hskip : ctx.skipValidation
  · simp only [hskip, Bool.false_eq_true, if_false] at h ⊢
    exact checkIds_ok 0 h
  · exact ⟨ids, rfl, List.forall₂_same.2 fun _ _ => rfl⟩

theorem any_denotes {ids ids' : List Json} (h : List.Forall₂ (fun id id' => p.validators.idFor ctx id = .ok id') ids ids')
    (row : Row) : row.satisfies [p.entity.idAmong ids'] = ids.any (p.denotes ctx row) := by
  rw [p.entity.satisfies_idAmong]
  induction h with
  | nil => rfl
  | cons hid _ ih => rw [List.any_cons, List.any_cons, ih, denotes_of_idFor hid]

end Pipeline

/-! ## The operations on lists -/

/-- What is done to the records with an identifier, of those that can be done to a list. -/
inductive Bulk where
  | deletion
  | restoration

namespace Bulk

def one : Bulk → Json → Request
  | .deletion => .deleteOne
  | .restoration => .restore

def many : Bulk → List Json → Request
  | .deletion => .bulkDelete
  | .restoration => .bulkRestore

/-- Only what is marked as deleted can be restored. -/
def Offered (p : Pipeline) : Bulk → Prop
  | .deletion => True
  | .restoration => p.entity.softDelete.isSome = true

/-- The changes that are written into the records, if they are not removed. -/
def edit (p : Pipeline) (now : String) : Bulk → Option Row
  | .deletion => p.entity.softDelete.map fun s => p.marking now s (s.marker now)
  | .restoration => p.entity.softDelete.map fun s => p.marking now s s.notDeletedValue

/-- What is written into the field for the mark. -/
def mark (s : SoftDelete) (now : String) : Bulk → Json
  | .deletion => s.marker now
  | .restoration => s.notDeletedValue

/-- Only restoration minds when there is no record with the identifier. -/
def outcome (id : Json) : Bulk → Outcome
  | .deletion => .affected
  | .restoration => .affectedSome id

variable {p : Pipeline} {o : Occasion} {s : MemoryStore} {b : Bulk} {id id' : Json} {ids ids' : List Json}

theorem edit_of_marks (b : Bulk) {mark : SoftDelete} (h : p.entity.softDelete = some mark) (now : String) :
    b.edit p now = some (p.marking now mark (b.mark mark now)) := by
  cases b <;> rw [edit, h] <;> rfl

theorem removal_eq_alteration (p : Pipeline) (now : String) (filter : List Predicate) :
    p.removal now filter = .alteration (deletion.edit p now) filter := by
  unfold Pipeline.removal edit
  cases p.entity.softDelete <;> rfl

/-- **The operation for one identifier**, or why the identifier is refused. -/
theorem plan_one (hp : p.hooks = .none) (hb : b.Offered p) (o : Occasion) (id : Json) : p.plan o (b.one id) =
    (p.validators.idFor o.context id).map fun id' =>
      .call (.alteration (b.edit p o.now) (p.reach o.context [p.entity.idEquals id'] true)) (b.outcome id') := by
  unfold Pipeline.plan
  rw [hp]
  cases b with
  | deletion =>
    show Pipeline.Intended.deleteOne p .none o.now o.context id = _
    unfold Pipeline.Intended.deleteOne
    rw [Validators.validated_id]
    simp only [removal_eq_alteration]
    cases p.validators.idFor o.context id <;> rfl
  | restoration =>
    obtain ⟨m, hm⟩ := Option.isSome_iff_exists.1 hb
    show Pipeline.Intended.restore p .none o.now o.context id = _
    unfold Pipeline.Intended.restore edit
    rw [Validators.validated_id, Entity.requireSoftDelete_eq_ok_iff.2 hm, hm]
    cases p.validators.idFor o.context id <;> rfl

/-- **The operation for a list**, or why one of its identifiers is refused. -/
theorem plan_many (hp : p.hooks = .none) (hb : b.Offered p) (o : Occasion) (hne : ids ≠ []) : p.plan o (b.many ids) =
    (p.validators.idsFor o.context ids).map fun ids' =>
      .call (.alteration (b.edit p o.now) (p.reach o.context [p.entity.idAmong ids'] true)) .affected := by
  have hempty : ids.isEmpty = false := List.isEmpty_eq_false_iff.2 hne
  unfold Pipeline.plan
  rw [hp]
  cases b with
  | deletion =>
    show Pipeline.Intended.bulkDelete p .none o.now o.context ids = _
    unfold Pipeline.Intended.bulkDelete
    rw [hempty, p.idsFor_none]
    simp only [removal_eq_alteration]
    cases p.validators.idsFor o.context ids <;> rfl
  | restoration =>
    obtain ⟨m, hm⟩ := Option.isSome_iff_exists.1 hb
    show Pipeline.Intended.bulkRestore p .none o.now o.context ids = _
    unfold Pipeline.Intended.bulkRestore edit
    rw [hempty, p.idsFor_none, Entity.requireSoftDelete_eq_ok_iff.2 hm, hm]
    cases p.validators.idsFor o.context ids <;> rfl

/-- Without identifiers there is nothing to do. -/
theorem runOn_many_nil (hb : b.Offered p) : p.runOn o (b.many []) s = (.ok (.affected 0), s) := by
  have hplan : p.plan o (b.many []) = .ok (.answer (.affected 0)) := by
    cases b with
    | deletion => rfl
    | restoration =>
      obtain ⟨m, hm⟩ := Option.isSome_iff_exists.1 hb
      show Pipeline.Intended.bulkRestore p p.hooks o.now o.context [] = _
      unfold Pipeline.Intended.bulkRestore
      rw [Entity.requireSoftDelete_eq_ok_iff.2 hm]
      rfl
  rw [Pipeline.runOn_of_plan hplan]
  rfl

/-! ### On a store -/

/-- The rows within the scope that have one of the identifiers. -/
def chosen (p : Pipeline) (ctx : Context) (ids : List Json) (row : Row) : Bool :=
  row.satisfies (p.scope.restrictions ctx.scope ctx.actor) && ids.any (p.denotes ctx row)

theorem runOn_alteration {edit : Option Row} {outcome : Outcome} {predicate : Predicate}
    (h : ∀ row : Row, row.satisfies [predicate] = ids.any (p.denotes o.context row)) :
    (Intent.call (.alteration edit (p.reach o.context [predicate] true)) outcome).runOn p o s =
      (outcome.answer p (((s.rowsOf p.entity).filter (chosen p o.context ids)).map fun row =>
        (Table.altered p.entity edit row).getD row), s.alter p.entity edit (chosen p o.context ids)) := by
  have hchosen : Row.satisfies (p.reach o.context [predicate] true) = chosen p o.context ids := by
    funext row
    rw [Pipeline.satisfies_reach, Pipeline.view_includeDeleted, h, Bool.and_comm]
    rfl
  rw [Intent.runOn_call, MemoryStore.answer_alteration, MemoryStore.visible, hchosen]
  rfl

/-- **The operation for one identifier** alters the rows that have it, and counts them. -/
theorem runOn_one (hp : p.hooks = .none) (hb : b.Offered p) (hid : p.validators.idFor o.context id = .ok id') :
    (p.runOn o (b.one id) s).2 = s.alter p.entity (b.edit p o.now) (chosen p o.context [id]) ∧
      ((∃ n, (p.runOn o (b.one id) s).1 = .ok (.affected n)) ∨
        b = .restoration ∧ (p.runOn o (b.one id) s).1 = .error (p.entity.notFound id')) := by
  have hplan := plan_one hp hb o id
  rw [hid] at hplan
  rw [Pipeline.runOn_of_plan hplan, runOn_alteration (Pipeline.denotes_singleton hid)]
  refine ⟨rfl, ?_⟩
  cases b with
  | deletion => exact .inl ⟨_, rfl⟩
  | restoration =>
    unfold outcome Outcome.answer Pipeline.affectedOrNotFound
    dsimp only
    split
    · exact .inr ⟨rfl, rfl⟩
    · exact .inl ⟨_, rfl⟩

/-- **The operation for one identifier after another** alters the rows that have any of them. -/
theorem runAll_one (hp : p.hooks = .none) (hb : b.Offered p) : ∀ (id : Json) (rest : List Json) (s : MemoryStore),
    (∀ id' ∈ id :: rest, ∃ valid, p.validators.idFor o.context id' = .ok valid) →
      (p.runAll ((id :: rest).map fun id => (o, b.one id)) s).2 =
        s.alter p.entity (b.edit p o.now) (chosen p o.context (id :: rest))
  | id, [], s, h => by
    obtain ⟨valid, hvalid⟩ := h id List.mem_cons_self
    exact (runOn_one hp hb hvalid).1
  | id, next :: rest, s, h => by
    obtain ⟨⟨valid, hvalid⟩, hrest⟩ := List.forall_mem_cons.1 h
    have ih := runAll_one hp hb next rest (p.runOn o (b.one id) s).2 hrest
    show (p.runAll ((next :: rest).map fun id => (o, b.one id)) (p.runOn o (b.one id) s).2).2 = _
    rw [ih, (runOn_one hp hb hvalid).1, MemoryStore.alter_alter]
    -- What is left is that the rows with the first identifier or one of the others are those with any of them.
    congr 1
    funext row
    simp [chosen, Bool.and_or_distrib_left]

/-- Every answer is that of one of the operations. -/
theorem mem_runAll {a : Except ServiceError Answer} : ∀ {steps : List (Occasion × Request)} {s : MemoryStore},
    a ∈ (p.runAll steps s).1 → ∃ step ∈ steps, ∃ t, a = (p.runOn step.1 step.2 t).1
  | step :: rest, s, h => by
    rcases List.mem_cons.1 h with hfirst | hrest
    · exact ⟨step, List.mem_cons_self, s, hfirst⟩
    · obtain ⟨step', hmem, t, ht⟩ := mem_runAll hrest
      exact ⟨step', List.mem_cons_of_mem _ hmem, t, ht⟩

/-- **The operation on the list** alters and counts the rows that have any of its identifiers. -/
theorem runOn_many_of_ne_nil (hp : p.hooks = .none) (hb : b.Offered p) (hne : ids ≠ [])
    (hids : ∀ id ∈ ids, ∃ valid, p.validators.idFor o.context id = .ok valid) (s : MemoryStore) :
    p.runOn o (b.many ids) s = (.ok (.affected ((s.rowsOf p.entity).filter (chosen p o.context ids)).length),
      s.alter p.entity (b.edit p o.now) (chosen p o.context ids)) := by
  obtain ⟨valid, hvalid, hall⟩ := Pipeline.idsFor_ok hids
  have hplan := plan_many hp hb o hne
  rw [hvalid] at hplan
  rw [Pipeline.runOn_of_plan hplan, runOn_alteration (Pipeline.any_denotes hall), Outcome.answer]
  simp only [List.length_map]

theorem chosen_congr {order : List Json} (h : ∀ id, id ∈ order ↔ id ∈ ids) (ctx : Context) :
    chosen p ctx order = chosen p ctx ids := by
  have hany : ∀ row : Row, order.any (p.denotes ctx row) = ids.any (p.denotes ctx row) := fun row => by
    rw [Bool.eq_iff_iff, List.any_eq_true, List.any_eq_true]
    simp only [h]
  funext row
  rw [chosen, chosen, hany]

/-- **An operation on a list of identifiers leaves the store that the same operation leaves when it is performed for one
of them after another**, in any order and with any repetitions; it counts the rows within the scope that have any of
them, and of the single operations none fails, but for a restoration that finds no row. -/
theorem runOn_many {order : List Json} (hp : p.hooks = .none) (hb : b.Offered p)
    (hids : ∀ id ∈ ids, ∃ valid, p.validators.idFor o.context id = .ok valid) (horder : ∀ id, id ∈ order ↔ id ∈ ids)
    (s : MemoryStore) :
    (p.runOn o (b.many ids) s).1 =
        .ok (.affected ((s.rowsOf p.entity).filter (chosen p o.context ids)).length) ∧
      (p.runOn o (b.many ids) s).2 = (p.runAll (order.map fun id => (o, b.one id)) s).2 ∧
      ∀ error, .error error ∈ (p.runAll (order.map fun id => (o, b.one id)) s).1 →
        b = .restoration ∧ ∃ id, error = p.entity.notFound id := by
  have hvalid : ∀ id ∈ order, ∃ valid, p.validators.idFor o.context id = .ok valid :=
    fun id hid => hids id ((horder id).1 hid)
  refine ⟨?_, ?_, fun error herror => ?_⟩
  · by_cases hne : ids = []
    · subst hne
      have hnone : (s.rowsOf p.entity).filter (chosen p o.context []) = [] :=
        List.filter_eq_nil_iff.2 fun row _ => by simp [chosen]
      rw [runOn_many_nil hb, hnone]
      rfl
    · rw [runOn_many_of_ne_nil hp hb hne hids]
  · cases order with
    | nil =>
      obtain rfl : ids = [] := List.eq_nil_iff_forall_not_mem.2 fun id hid => List.not_mem_nil ((horder id).2 hid)
      rw [runOn_many_nil hb]
      rfl
    | cons id rest =>
      have hne : ids ≠ [] := List.ne_nil_of_mem ((horder id).1 List.mem_cons_self)
      rw [runOn_many_of_ne_nil hp hb hne hids, runAll_one hp hb id rest s hvalid, chosen_congr horder]
  · obtain ⟨step, hstep, t, ht⟩ := mem_runAll herror
    obtain ⟨id, hid, rfl⟩ := List.mem_map.1 hstep
    obtain ⟨valid, hid'⟩ := hvalid id hid
    rcases (runOn_one hp hb hid' (s := t)).2 with ⟨n, hn⟩ | ⟨hrestoration, hmissing⟩
    · cases ht.trans hn
    · exact ⟨hrestoration, valid, Except.error.inj (ht.trans hmissing)⟩

/-- Of three notes two are the caller's, and one of these is among the identifiers, twice. -/
theorem runOn_many_notes :
    (Notes.byTenant.runOn (Notes.occasion "a") (restoration.many [.str "1", .str "2", .str "1"])
        (Notes.store [Notes.row "1" (.str "a") (.str "x"), Notes.row "2" (.str "b") (.str "x"),
          Notes.row "3" (.str "a") (.str "x")])).1 = .ok (.affected 1) ∧
    (Notes.byTenant.runOn (Notes.occasion "a") (restoration.many [.str "1", .str "2", .str "1"])
        (Notes.store [Notes.row "1" (.str "a") (.str "x"), Notes.row "2" (.str "b") (.str "x"),
          Notes.row "3" (.str "a") (.str "x")])).2 =
      (Notes.byTenant.runAll
        [(Notes.occasion "a", .restore (.str "2")), (Notes.occasion "a", .restore (.str "1"))]
        (Notes.store [Notes.row "1" (.str "a") (.str "x"), Notes.row "2" (.str "b") (.str "x"),
          Notes.row "3" (.str "a") (.str "x")])).2 := by
  have hids : ∀ id ∈ [Json.str "1", .str "2", .str "1"],
      ∃ valid, Notes.byTenant.validators.idFor (Notes.occasion "a").context id = .ok valid := by
    simp only [List.forall_mem_cons]
    exact ⟨⟨.str "1", rfl⟩, ⟨.str "2", rfl⟩, ⟨.str "1", rfl⟩, fun _ h => absurd h List.not_mem_nil⟩
  have horder : ∀ id, id ∈ [Json.str "2", .str "1"] ↔ id ∈ [Json.str "1", .str "2", .str "1"] := by
    simp only [List.mem_cons, List.not_mem_nil]
    tauto
  obtain ⟨hcount, hstore, -⟩ := runOn_many (b := restoration) (o := Notes.occasion "a") (p := Notes.byTenant) rfl rfl hids
    horder (Notes.store [Notes.row "1" (.str "a") (.str "x"), Notes.row "2" (.str "b") (.str "x"),
      Notes.row "3" (.str "a") (.str "x")])
  exact ⟨hcount.trans (by rfl), hstore⟩

end Bulk

end RecordService
