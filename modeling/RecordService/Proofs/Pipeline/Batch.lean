import RecordService.Proofs.Record.Creation
import RecordService.Proofs.Store.Alteration
/-!
# Batch — many records at once

A list of records is stored when each of its records would be, created after the ones before it, at the reading of the
clock and with the text for an identifier that the list has for it; the rows are the same ones then, and so is the store
(`runBatch_agrees`).  The two differ in when they fail.  A list is looked through for records that are not accepted before
any of it is stored, so that it fails for the first of these, even behind a record that the store would refuse, and
nothing of it is stored.
-/
namespace RecordService

/-! ## Adding a row to a table -/

namespace Table

/-- The row that is stored for an input and the table behind it, unless the table has its identifier. -/
def add (e : Entity) (draw : String) (input : Row) (t : Table) : Except ServiceError (Row × Table) :=
  let (row, lastId) := prepare e draw input t.lastId
  if hasId e (row.cell e.idField) t.rows then .error (duplicate e (row.cell e.idField))
  else .ok (row, ⟨t.rows ++ [row], lastId⟩)

/-- **Inputs are added one after the other**, each to the table behind the one before. -/
theorem insertAll_cons (e : Entity) (draws : List String) (input : Row) (inputs : List Row) (t : Table) :
    insertAll e draws (input :: inputs) t = (do
      let (row, t) ← add e (draws.headD "") input t
      let (rows, t) ← insertAll e draws.tail inputs t
      return (row :: rows, t)) := by
  unfold add
  rw [insertAll]
  dsimp only
  split
  · rfl
  · rw [ok_bind]
    cases insertAll e draws.tail inputs ⟨t.rows ++ [(prepare e (draws.headD "") input t.lastId).1],
      (prepare e (draws.headD "") input t.lastId).2⟩ <;> rfl

end Table

namespace Pipeline

variable {p : Pipeline} {ctx : Context} {clock : Nat → String} {draws : List String} {i : Nat} {record : Json}
  {records : List Json} {s : MemoryStore} {t t' : Table} {rows : List Row}

/-! ## A single record -/

/-- The members of the row that a record is accepted as, before it has its times, or why it is not accepted. -/
def accepted (p : Pipeline) (ctx : Context) (record : Json) : Except ServiceError Row :=
  (if ctx.skipValidation then .ok record else p.validators.record record) >>= recordOf

/-- The row that is stored for a record and the table behind it. -/
def addition (p : Pipeline) (o : Occasion) (record : Json) (t : Table) : Except ServiceError (Row × Table) := do
  let row ← p.accepted o.context record
  Table.add p.entity (o.draws.headD "") (p.entity.stampCreated o.now row) t

/-- Without hooks, a creation intends one insertion, of what its record is accepted as. -/
theorem plan_create (hp : p.hooks = .none) (o : Occasion) (record : Json) : p.plan o (.create record) = (do
    let row ← p.accepted o.context record
    return .call (.insert [p.entity.stampCreated o.now row]) .stored) := by
  unfold plan
  rw [hp]
  show Intended.create p .none o.now o.context record = _
  unfold Intended.create accepted
  rw [Hooks.validated_none, bind_assoc]
  cases o.context.skipValidation
  · cases hvalid : p.validators.record record <;> rfl
  · rfl

/-- **A creation stores the row that the record comes to and answers with it**, or fails and stores nothing. -/
theorem runOn_create_eq (hp : p.hooks = .none) (o : Occasion) (record : Json) (s : MemoryStore) :
    p.runOn o (.create record) s =
      match p.addition o record (s.table p.entity) with
      | .ok (row, t) => (.ok (.row row), s.setTable p.entity t)
      | .error error => (.error error, s) := by
  have hplan := plan_create hp o record
  unfold addition
  cases haccepted : p.accepted o.context record with
  | error error =>
    rw [haccepted] at hplan
    rw [runOn_of_refusal hplan]
    rfl
  | ok row =>
    rw [haccepted] at hplan
    rw [runOn_of_plan hplan, Intent.runOn_call, MemoryStore.answer_insert, Table.insertAll_cons, ok_bind]
    cases Table.add p.entity (o.draws.headD "") (p.entity.stampCreated o.now row) (s.table p.entity) <;> rfl

/-! ## A list of records -/

/-- The rows that are stored for the records, the first of which has the index `i`, and the table behind them. -/
def additions (p : Pipeline) (clock : Nat → String) (ctx : Context) (i : Nat) (draws : List String) (records : List Json)
    (t : Table) : Except ServiceError (List Row × Table) := do
  let inputs ← p.recordsFor .none clock (!ctx.skipValidation) i records
  Table.insertAll p.entity draws inputs t

theorem recordsFor_cons (p : Pipeline) (clock : Nat → String) (ctx : Context) (i : Nat) (record : Json)
    (records : List Json) : p.recordsFor .none clock (!ctx.skipValidation) i (record :: records) = (do
      let row ← inElement i (p.accepted ctx record)
      return p.entity.stampCreated (clock i) row ::
        (← p.recordsFor .none clock (!ctx.skipValidation) (i + 1) records)) := by
  rw [recordsFor]
  unfold accepted
  cases ctx.skipValidation
  · cases hvalid : p.validators.record record <;> rfl
  · rfl

/-- **A list is stored when its first record is and then the others are**, each in its own time. -/
theorem additions_cons_ok_iff : p.additions clock ctx i draws (record :: records) t = .ok (rows, t') ↔
    ∃ row t₁ rest, p.addition ⟨clock i, draws, ctx⟩ record t = .ok (row, t₁) ∧
      p.additions clock ctx (i + 1) draws.tail records t₁ = .ok (rest, t') ∧ rows = row :: rest := by
  unfold additions addition
  rw [recordsFor_cons]
  constructor
  · intro h
    obtain ⟨inputs, hinputs, hstored⟩ := ok_of_bind h
    obtain ⟨row, hrow, hinputs⟩ := ok_of_bind hinputs
    obtain ⟨others, hothers, hinputs⟩ := ok_of_bind hinputs
    cases hinputs
    rw [Table.insertAll_cons] at hstored
    obtain ⟨⟨first, t₁⟩, hadd, hstored⟩ := ok_of_bind hstored
    obtain ⟨⟨rest, t₂⟩, hrest, hstored⟩ := ok_of_bind hstored
    cases hstored
    refine ⟨first, t₁, rest, ?_, ?_, rfl⟩
    · rw [ok_of_inElement hrow, ok_bind]
      exact hadd
    · rw [hothers, ok_bind]
      exact hrest
  · rintro ⟨first, t₁, rest, haddition, hadditions, rfl⟩
    obtain ⟨row, haccepted, hadd⟩ := ok_of_bind haddition
    obtain ⟨others, hothers, hrest⟩ := ok_of_bind hadditions
    rw [haccepted, hothers]
    show Table.insertAll p.entity draws (p.entity.stampCreated (clock i) row :: others) t = _
    rw [Table.insertAll_cons, hadd, ok_bind]
    dsimp only
    rw [hrest]
    rfl

theorem length_of_additions : ∀ {records : List Json} {i : Nat} {draws : List String} {t t' : Table} {rows : List Row},
    p.additions clock ctx i draws records t = .ok (rows, t') → rows.length = records.length
  | [], _, _, _, _, _, h => by
    cases h
    rfl
  | _ :: _, _, _, _, _, _, h => by
    obtain ⟨_, _, _, -, hrest, rfl⟩ := additions_cons_ok_iff.1 h
    exact congrArg (· + 1) (length_of_additions hrest)

/-- The records created one after another, the first of which has the index `i`. -/
def creations (clock : Nat → String) (ctx : Context) : Nat → List String → List Json → List (Occasion × Request)
  | _, _, [] => []
  | i, draws, record :: records =>
    (⟨clock i, draws, ctx⟩, .create record) :: creations clock ctx (i + 1) draws.tail records

/-- **Where a list is stored, the creations of its records come to the same**, row by row. -/
theorem runAll_creations (hp : p.hooks = .none) : ∀ {records : List Json} {i : Nat} {draws : List String}
    {s : MemoryStore} {rows : List Row} {t : Table},
    p.additions clock ctx i draws records (s.table p.entity) = .ok (rows, t) →
      p.runAll (creations clock ctx i draws records) s =
        (rows.map fun row => .ok (.row row), if records = [] then s else s.setTable p.entity t)
  | [], _, _, _, _, _, h => by
    cases h
    rfl
  | record :: records, i, draws, s, rows, t, h => by
    obtain ⟨row, t₁, rest, hfirst, hrest, rfl⟩ := additions_cons_ok_iff.1 h
    have hrun : p.runOn ⟨clock i, draws, ctx⟩ (.create record) s = (.ok (.row row), s.setTable p.entity t₁) := by
      rw [runOn_create_eq hp, hfirst]
    have ih := runAll_creations hp (s := s.setTable p.entity t₁) (by rw [MemoryStore.table_setTable]; exact hrest)
    rw [creations, runAll, hrun]
    dsimp only
    rw [ih, MemoryStore.setTable_setTable]
    -- After the last record, the store is the one that this record has left, and not the one before it.
    cases records with
    | nil =>
      cases hrest
      rfl
    | cons _ _ => rfl

/-- Where every creation comes to a row, the list is stored. -/
theorem additions_of_runAll (hp : p.hooks = .none) : ∀ {records : List Json} {i : Nat} {draws : List String}
    {s : MemoryStore}, (∀ a ∈ (p.runAll (creations clock ctx i draws records) s).1, ∃ answer, a = .ok answer) →
      ∃ rows t, p.additions clock ctx i draws records (s.table p.entity) = .ok (rows, t)
  | [], _, _, s, _ => ⟨[], s.table p.entity, rfl⟩
  | record :: records, i, draws, s, h => by
    obtain ⟨⟨answer, hanswer⟩, hothers⟩ := List.forall_mem_cons.1 h
    cases hfirst : p.addition ⟨clock i, draws, ctx⟩ record (s.table p.entity) with
    | error error =>
      rw [runOn_create_eq hp, hfirst] at hanswer
      cases hanswer
    | ok result =>
      obtain ⟨row, t₁⟩ := result
      rw [runOn_create_eq hp, hfirst] at hothers
      obtain ⟨rest, t₂, hrest⟩ := additions_of_runAll hp hothers
      rw [MemoryStore.table_setTable] at hrest
      exact ⟨row :: rest, t₂, additions_cons_ok_iff.2 ⟨row, t₁, rest, hfirst, hrest, rfl⟩⟩

/-- What a list comes to whose records read the clock one after another, each with the text that is drawn for it. -/
def runBatch (p : Pipeline) (clock : Nat → String) (ctx : Context) (draws : List String) (records : List Json)
    (s : MemoryStore) : Except ServiceError Answer × MemoryStore :=
  (p.bulkCreate clock ctx records).run (p.onMemory draws) s

/-- On one occasion, every record of a list has the same time. -/
theorem runOn_bulkCreate (p : Pipeline) (o : Occasion) (records : List Json) (s : MemoryStore) :
    p.runOn o (.bulkCreate records) s = p.runBatch (fun _ => o.now) o.context o.draws records s := rfl

theorem intended_bulkCreate (p : Pipeline) (clock : Nat → String) (ctx : Context) (hne : records ≠ []) :
    Intended.bulkCreate p .none ctx clock records = (do
      let rows ← p.recordsFor .none clock (!ctx.skipValidation) 0 records
      return .call (.insert rows) .created) := by
  unfold Intended.bulkCreate
  rw [List.isEmpty_eq_false_iff.2 hne, Hooks.admits_none]
  cases ctx.skipValidation <;> rfl

/-- **A list is stored as a whole or not at all.** -/
theorem runBatch_eq (hp : p.hooks = .none) (hne : records ≠ []) (s : MemoryStore) :
    p.runBatch clock ctx draws records s =
      match p.additions clock ctx 0 draws records (s.table p.entity) with
      | .ok (rows, t) => (.ok (.created rows), s.setTable p.entity t)
      | .error error => (.error error, s) := by
  have hopens := p.bulkCreate_opens (h := p.hooks) clock ctx records
  rw [hp, intended_bulkCreate p clock ctx hne, ← hp] at hopens
  unfold runBatch additions
  cases hinputs : p.recordsFor .none clock (!ctx.skipValidation) 0 records with
  | error error =>
    rw [hp, hinputs, ← hp] at hopens
    exact hopens.run_error (w := p.onMemory draws) s
  | ok inputs =>
    rw [hp, hinputs, ← hp] at hopens
    refine (hopens.run_ok (w := p.onMemory draws) s).trans ?_
    show (Intent.call (.insert inputs) .created).runOn p ⟨clock 0, draws, ctx⟩ s = _
    rw [Intent.runOn_call, MemoryStore.answer_insert, ok_bind]
    cases Table.insertAll p.entity draws inputs (s.table p.entity) <;> rfl

theorem additions_of_runBatch (hp : p.hooks = .none) (hne : records ≠ []) {answer : Answer}
    (h : (p.runBatch clock ctx draws records s).1 = .ok answer) :
    ∃ rows t, p.additions clock ctx 0 draws records (s.table p.entity) = .ok (rows, t) := by
  rw [runBatch_eq hp hne] at h
  cases hadditions : p.additions clock ctx 0 draws records (s.table p.entity) with
  | error error =>
    rw [hadditions] at h
    cases h
  | ok result => exact ⟨result.1, result.2, rfl⟩

/-- The first record that is not accepted is why the list is not, under its index. -/
theorem recordsFor_of_rejected {error : ServiceError} {rest : List Json} (herror : p.accepted ctx record = .error error) :
    ∀ {before : List Json} (i : Nat), (∀ r ∈ before, ∃ row, p.accepted ctx r = .ok row) →
      p.recordsFor .none clock (!ctx.skipValidation) i (before ++ record :: rest) =
        .error (error.atIndex (i + before.length))
  | [], i, _ => by
    rw [List.nil_append, recordsFor_cons, herror]
    rfl
  | first :: before, i, h => by
    obtain ⟨⟨row, hrow⟩, hbefore⟩ := List.forall_mem_cons.1 h
    have ih : p.recordsFor .none clock (!ctx.skipValidation) (i + 1) (before ++ record :: rest) = _ :=
      recordsFor_of_rejected herror (i + 1) hbefore
    rw [List.cons_append, recordsFor_cons, hrow, ih, List.length_cons, Nat.add_right_comm, Nat.add_assoc]
    rfl

/-- **A list of records agrees with creating them one after another.**  The list is created exactly when all of the
records are; then it answers with their rows, in their order, and leaves the same store.  For a record that is not
accepted, it fails with what the creation of the first such record fails with, under its index, and stores nothing. -/
theorem runBatch_agrees (hp : p.hooks = .none) (hne : records ≠ []) (clock : Nat → String) (ctx : Context)
    (draws : List String) (s : MemoryStore) :
    ((∃ answer, (p.runBatch clock ctx draws records s).1 = .ok answer) ↔
      ∀ a ∈ (p.runAll (creations clock ctx 0 draws records) s).1, ∃ answer, a = .ok answer) ∧
    (∀ answer, (p.runBatch clock ctx draws records s).1 = .ok answer →
      ∃ rows, answer = .created rows ∧ rows.length = records.length ∧
        p.runAll (creations clock ctx 0 draws records) s =
          (rows.map fun row => .ok (.row row), (p.runBatch clock ctx draws records s).2)) ∧
    ∀ before record rest error, records = before ++ record :: rest →
      (∀ r ∈ before, ∃ row, p.accepted ctx r = .ok row) → p.accepted ctx record = .error error →
        p.runBatch clock ctx draws records s = (.error (error.atIndex before.length), s) ∧
          ∀ o t, o.context = ctx → p.runOn o (.create record) t = (.error error, t) := by
  have hbatch : p.runBatch clock ctx draws records s = _ := runBatch_eq hp hne s
  refine ⟨⟨?_, ?_⟩, ?_, ?_⟩
  · rintro ⟨answer, hanswer⟩
    obtain ⟨rows, t, hadditions⟩ := additions_of_runBatch hp hne hanswer
    rw [runAll_creations hp hadditions]
    rintro _ hmem
    obtain ⟨row, -, rfl⟩ := List.mem_map.1 hmem
    exact ⟨.row row, rfl⟩
  · intro h
    obtain ⟨rows, t, hadditions⟩ := additions_of_runAll hp h
    rw [hadditions] at hbatch
    exact ⟨.created rows, congrArg Prod.fst hbatch⟩
  · intro answer hanswer
    obtain ⟨rows, t, hadditions⟩ := additions_of_runBatch hp hne hanswer
    rw [hadditions] at hbatch
    rw [hbatch] at hanswer ⊢
    cases hanswer
    refine ⟨rows, rfl, length_of_additions hadditions, ?_⟩
    rw [runAll_creations hp hadditions, if_neg hne]
  · rintro before record rest error rfl hbefore herror
    refine ⟨?_, ?_⟩
    · rw [hbatch, additions, recordsFor_of_rejected herror 0 hbefore, Nat.zero_add]
      rfl
    · rintro o t rfl
      rw [runOn_create_eq hp, addition, herror]
      rfl

end Pipeline

/-- Two records, of which only the second has an identifier of its own. -/
def Notes.drafts : List Json := [.obj [("title", .str "draft")], .obj [("id", .str "2"), ("title", .str "draft")]]

namespace Pipeline

/-- They are created one after another as in a list; a text behind them is refused under its index. -/
theorem runBatch_agrees_notes :
    (Pipeline.of (Notes.entity [])).runAll (creations toString .standard 0 ["x", "y"] Notes.drafts)
        (Notes.store [Notes.row "1" .null .null]) =
      ([.ok (.row (Notes.row "x" .null .null)), .ok (.row (Notes.row "2" .null .null))],
        Notes.store [Notes.row "1" .null .null, Notes.row "x" .null .null, Notes.row "2" .null .null]) ∧
    (Pipeline.of (Notes.entity [])).runBatch toString .standard ["x", "y", "z"] (Notes.drafts ++ [.str "no"])
        (Notes.store [Notes.row "1" .null .null]) =
      (.error (.validation [⟨"2.body", "expected an object, got string"⟩]), Notes.store [Notes.row "1" .null .null]) := by
  constructor
  · have hbatch : (Pipeline.of (Notes.entity [])).runBatch toString .standard ["x", "y"] Notes.drafts
        (Notes.store [Notes.row "1" .null .null]) =
      (.ok (.created [Notes.row "x" .null .null, Notes.row "2" .null .null]),
        Notes.store [Notes.row "1" .null .null, Notes.row "x" .null .null, Notes.row "2" .null .null]) := rfl
    have hne : Notes.drafts ≠ [] := List.cons_ne_nil _ _
    obtain ⟨rows, hrows, -, hall⟩ := (runBatch_agrees (p := .of (Notes.entity [])) rfl hne toString .standard ["x", "y"]
      (Notes.store [Notes.row "1" .null .null])).2.1 _ (congrArg Prod.fst hbatch)
    cases hrows
    rw [hall, hbatch]
    rfl
  · have hbefore : ∀ r ∈ Notes.drafts, ∃ row, (Pipeline.of (Notes.entity [])).accepted .standard r = .ok row := by
      simp only [Notes.drafts, List.forall_mem_cons]
      exact ⟨⟨_, rfl⟩, ⟨_, rfl⟩, fun _ h => absurd h List.not_mem_nil⟩
    exact ((runBatch_agrees (p := .of (Notes.entity [])) rfl (List.cons_ne_nil _ _) toString .standard ["x", "y", "z"]
      (Notes.store [Notes.row "1" .null .null])).2.2 _ (.str "no") [] _ rfl hbefore rfl).1

end Pipeline

end RecordService
