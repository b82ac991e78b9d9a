import RecordService.Proofs.Pipeline.Intent
import RecordService.Proofs.Store.Calls
/-!
# Operations over a memory store

An operation runs on an occasion: at a time, in a context, and with the identifiers that are drawn for it.  Run over
a memory store it either refuses its arguments and leaves the store alone, or carries out its intent
(`runOn_of_plan`), and what an intent answers and does is told by the calls it makes (`runOn_find`, `runOn_page`,
`runOn_call`, `runOn_expunge`).  Only the tables of a store matter for a run (`Program.run_congr`).
-/
namespace RecordService

structure Occasion where
  now : String
  /-- The texts of the identifiers that the store draws. -/
  draws : List String
  context : Context

namespace Pipeline

/-- The hooks of the pipeline and one memory store, which goes by every name. -/
def onMemory (p : Pipeline) (draws : List String) : Surroundings MemoryStore :=
  ⟨p.hooks, fun _ => MemoryStore.backend draws⟩

def runOn (p : Pipeline) (o : Occasion) (request : Request) (s : MemoryStore) :
    Except ServiceError Answer × MemoryStore :=
  (p.perform o.now o.context request).run (p.onMemory o.draws) s

def plan (p : Pipeline) (o : Occasion) (request : Request) : Except ServiceError Intent :=
  p.intent p.hooks o.now o.context request

/-- The answers of operations that run one after another, and the store behind the last. -/
def runAll (p : Pipeline) : List (Occasion × Request) → MemoryStore → List (Except ServiceError Answer) × MemoryStore
  | [], s => ([], s)
  | (o, request) :: rest, s =>
    ((p.runOn o request s).1 :: (p.runAll rest (p.runOn o request s).2).1, (p.runAll rest (p.runOn o request s).2).2)

end Pipeline

def Intent.runOn (p : Pipeline) (o : Occasion) (i : Intent) (s : MemoryStore) :
    Except ServiceError Answer × MemoryStore :=
  (i.program p o.context).run (p.onMemory o.draws) s

variable {p : Pipeline} {o : Occasion} {request : Request} {i : Intent} {s t : MemoryStore}

namespace Pipeline

theorem perform_onMemory (p : Pipeline) (o : Occasion) (request : Request) :
    (p.perform o.now o.context request).OpensWith p.hooks (p.plan o request) (Intent.program p o.context) :=
  p.perform_opens o.now o.context request

theorem runOn_of_plan (h : p.plan o request = .ok i) : p.runOn o request s = i.runOn p o s := by
  have hopens := p.perform_onMemory o request
  rw [h] at hopens
  exact hopens.run_ok (w := p.onMemory o.draws) s

/-- A refused operation has asked no store. -/
theorem runOn_of_refusal {error : ServiceError} (h : p.plan o request = .error error) :
    p.runOn o request s = (.error error, s) := by
  have hopens := p.perform_onMemory o request
  rw [h] at hopens
  exact hopens.run_error (w := p.onMemory o.draws) s

end Pipeline

/-! ### Stores with the same tables -/

theorem Pipeline.reply_congr (p : Pipeline) (draws : List String) (h : s.Same t) : ∀ c : Call,
    ((p.onMemory draws).reply c s).1 = ((p.onMemory draws).reply c t).1 ∧
      ((p.onMemory draws).reply c s).2.Same ((p.onMemory draws).reply c t).2
  | .permit _ _ _ => ⟨rfl, h⟩
  | .revise _ _ => ⟨rfl, h⟩
  | .rows _ e call => MemoryStore.answer_congr draws e call h
  | .count _ e filter => by
    refine ⟨congrArg Except.ok ?_, h⟩
    show (s.table e).count filter = (t.table e).count filter
    rw [h.table_eq]

/-- **A program comes to the same on stores with the same tables, and leaves them the same.** -/
theorem Program.run_congr {α : Type} (p : Pipeline) (draws : List String) : ∀ (x : Program α) {s t : MemoryStore}, s.Same t →
    (x.run (p.onMemory draws) s).1 = (x.run (p.onMemory draws) t).1 ∧
      (x.run (p.onMemory draws) s).2.Same (x.run (p.onMemory draws) t).2
  | .done _, _, _, h => ⟨rfl, h⟩
  | .ask c next, s, t, h => by
    obtain ⟨hreply, hstore⟩ := p.reply_congr draws h c
    rw [Program.run, Program.run, hreply]
    exact Program.run_congr p draws _ hstore

namespace Intent

theorem runOn_find (filter : List Predicate) :
    (find filter).runOn p o s = (.ok (.found (s.visible p.entity filter).head?), s) := by
  show (Except.ok (Answer.found ((s.visible p.entity filter).take 1).head?), s) = _
  rw [List.head?_take, if_neg (by decide)]

theorem runOn_call (c : RowCall) (outcome : Outcome) : (call c outcome).runOn p o s =
    ((MemoryStore.answer o.draws p.entity c s).1 >>= outcome.answer p,
      (MemoryStore.answer o.draws p.entity c s).2) := by
  rw [runOn, program_call]
  rfl

theorem runOn_page (filter : List Predicate) (orderBy : List OrderBy) (bounds : PageBounds) :
    (page filter orderBy bounds).runOn p o s =
      ((s.select p.entity ⟨filter, orderBy, some bounds.perPage, some bounds.offset⟩).map fun rows =>
        .page (Page.of rows bounds (s.count p.entity filter)), s) := by
  show Program.run _ (Program.bind (.done (s.select p.entity _)) _) s = _
  cases s.select p.entity ⟨filter, orderBy, some bounds.perPage, some bounds.offset⟩ <;> rfl

theorem runOn_expunge (id : Json) (filter : List Predicate) : (expunge id filter).runOn p o s =
    if ((s.visible p.entity [p.entity.idEquals id]).take 1).isEmpty then (.error (p.entity.notFound id), s)
    else (call (.delete filter) (.affectedSome id)).runOn p o s := by
  show Program.run _ (if ((s.visible p.entity [p.entity.idEquals id]).take 1).isEmpty = true then _ else _) s = _
  split <;> rfl

/-- The call that may change the table. -/
def change? : Intent → Option RowCall
  | .call c _ => some c
  | .expunge _ filter => some (.delete filter)
  | _ => none

theorem after_cases (i : Intent) (p : Pipeline) (o : Occasion) (s : MemoryStore) : (i.runOn p o s).2 = s ∨
    ∃ c, i.change? = some c ∧ (i.runOn p o s).2 = (MemoryStore.answer o.draws p.entity c s).2 := by
  cases i with
  | answer a => exact .inl rfl
  | find filter => exact .inl rfl
  | page filter orderBy bounds => exact .inl (by rw [runOn_page])
  | call c outcome => exact .inr ⟨c, rfl, by rw [runOn_call]⟩
  | expunge id filter =>
    rw [runOn_expunge]
    split
    · exact .inl rfl
    · exact .inr ⟨.delete filter, rfl, by rw [runOn_call]⟩

end Intent

/-- **An operation leaves the store as it was, or as one call of its intent leaves it.** -/
theorem Pipeline.after_cases (p : Pipeline) (o : Occasion) (request : Request) (s : MemoryStore) :
    (p.runOn o request s).2 = s ∨ ∃ i c, p.plan o request = .ok i ∧ i.change? = some c ∧
      (p.runOn o request s).2 = (MemoryStore.answer o.draws p.entity c s).2 := by
  cases hplan : p.plan o request with
  | error error => exact .inl (by rw [runOn_of_refusal hplan])
  | ok i =>
    rw [runOn_of_plan hplan]
    rcases i.after_cases p o s with hsame | ⟨c, hc, hafter⟩
    · exact .inl hsame
    · exact .inr ⟨i, c, rfl, hc, hafter⟩

/-! ## Notes

A small entity that results are shown on. -/

namespace Notes

def entity (scope : List ScopeRule) : Entity where
  name := "note"
  schema := "public"
  table := "notes"
  idField := "id"
  idType := .text
  columns := ["id", "title", "tenant", "team", "deleted_at"].map (⟨·, true, false, none, some "text"⟩)
  allowedFilters := ["id", "title", "tenant", "team", "deleted_at"]
  searchFields := []
  softDelete := some (.timestamp "deleted_at")
  createdAt := none
  updatedAt := none
  defaultPageSize := 20
  maxPageSize := 100
  scope
  rules := []

/-- The columns of the entity, as they are declared. -/
def declaration (scope : List ScopeRule) : Declaration where
  name := "note"
  schema := none
  table := "notes"
  idField := "id"
  idType := .text
  columns := ["id", "title", "tenant", "team", "deleted_at"].map (⟨·, .plain "text", true, none⟩)
  allowedFilters := none
  searchFields := []
  softDelete := some (.timestamp "deleted_at")
  timestamps := none
  pagination := ⟨none, none⟩
  scope
  rules := []

theorem resolveOne_declaration (scope : List ScopeRule) :
    (declaration scope).resolveOne .standard = .ok (entity scope) := rfl

def byTenant : Pipeline := .of (entity [⟨"tenantId", "tenant", true⟩])

def row (id : String) (tenant deletedAt : Json) : Row :=
  [("id", .str id), ("title", .str "draft"), ("tenant", tenant), ("team", .null), ("deleted_at", deletedAt)]

def store (rows : List Row) : MemoryStore := ⟨[("public.notes", ⟨rows, 0⟩)]⟩

/-- On behalf of a tenant. -/
def occasion (tenant : String) : Occasion :=
  ⟨"2024-05-01T10:00:00Z", [], { Context.standard with scope := some [("tenantId", .str tenant)] }⟩

def rename (id : String) : Request := .update (.str id) (.obj [("title", .str "final")])

end Notes

end RecordService
