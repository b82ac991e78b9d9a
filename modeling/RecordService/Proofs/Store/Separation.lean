import Mathlib.Data.List.Basic
import RecordService.Proofs.Store.Counter
import RecordService.Sql.Statement
/-!
# Separation — entities with tables of their own

A call for an entity reads and writes the table of its qualified name, and no other (`MemoryStore.answer_of_table`).  So
when qualified names differ, calls that are made for both entities in any order answer as if those of each had been made
alone (`MemoryStore.spares_of_ne`).  A qualified name is a schema, a dot and a table, and other dots may be taken for the
one between them (`Entity.qualifiedName_eq_iff`): then two entities interfere (`MemoryStore.separate_iff`), although SQL,
which quotes schema and table one by one, tells their tables apart (`Statement.sql_table_inj`).
-/
namespace RecordService

/-! ## Qualified names -/

namespace Entity

variable {e f : Entity}

/-- A dot of one name is taken for that of the other: the second schema goes on where the first ends, with a dot and the
front of the first table. -/
def Overlaps (e f : Entity) : Prop := ∃ part, f.schema = e.schema ++ "." ++ part ∧ e.table = part ++ "." ++ f.table

theorem Overlaps.dot_mem (h : e.Overlaps f) : '.' ∈ f.schema.toList ∧ '.' ∈ e.table.toList := by
  obtain ⟨part, hschema, htable⟩ := h
  rw [hschema, htable]
  simp

theorem Overlaps.qualifiedName_eq (h : e.Overlaps f) : e.qualifiedName = f.qualifiedName := by
  obtain ⟨part, hschema, htable⟩ := h
  unfold qualifiedName
  rw [hschema, htable]
  simp only [String.append_assoc]

/-- When the second schema is the longer one, or the same. -/
theorem overlaps_of_append {more : List Char} (hschema : f.schema.toList = e.schema.toList ++ more)
    (htable : '.' :: e.table.toList = more ++ '.' :: f.table.toList) :
    (e.schema = f.schema ∧ e.table = f.table) ∨ e.Overlaps f := by
  cases more with
  | nil =>
    rw [List.append_nil] at hschema
    exact .inl ⟨String.toList_injective hschema.symm, String.toList_injective (List.cons.inj htable).2⟩
  | cons c part =>
    obtain ⟨rfl, hrest⟩ := List.cons.inj htable
    refine .inr ⟨String.ofList part, String.toList_injective ?_, String.toList_injective ?_⟩
    · rw [hschema]
      simp
    · rw [hrest]
      simp

/-- **Qualified names are one exactly when their parts are**, or a dot within a part is taken for the one between. -/
theorem qualifiedName_eq_iff : e.qualifiedName = f.qualifiedName ↔
    (e.schema = f.schema ∧ e.table = f.table) ∨ e.Overlaps f ∨ f.Overlaps e := by
  constructor
  · intro h
    have hchars : e.schema.toList ++ '.' :: e.table.toList = f.schema.toList ++ '.' :: f.table.toList := by
      have hlists := congrArg String.toList h
      simpa [qualifiedName] using hlists
    -- one of the schemas is the front of the other
    rcases List.append_eq_append_iff.1 hchars with ⟨more, hschema, htable⟩ | ⟨more, hschema, htable⟩
    · exact (overlaps_of_append hschema htable).imp_right .inl
    · exact (overlaps_of_append hschema htable).imp (fun same => ⟨same.1.symm, same.2.symm⟩) .inr
  · rintro (⟨hschema, htable⟩ | h | h)
    · rw [qualifiedName, qualifiedName, hschema, htable]
    · exact h.qualifiedName_eq
    · exact h.qualifiedName_eq.symm

theorem qualifiedName_ne_iff : e.qualifiedName ≠ f.qualifiedName ↔
    (e.schema, e.table) ≠ (f.schema, f.table) ∧ ¬ e.Overlaps f ∧ ¬ f.Overlaps e := by
  rw [Ne, qualifiedName_eq_iff, not_or, not_or, Ne, Prod.mk.injEq]

end Entity

/-! ## Quoted names -/

namespace Fragment

/-- A quoted name ends where the first quote stands alone. -/
theorem doubleQuotes_append_inj {u v : List Char} (hu : u.head? ≠ some '"') (hv : v.head? ≠ some '"') :
    ∀ {s t : List Char}, doubleQuotes s ++ '"' :: u = doubleQuotes t ++ '"' :: v → s = t ∧ u = v
  | [], [], h => ⟨rfl, (List.cons.inj h).2⟩
  | [], d :: t, h => by
    exfalso
    unfold doubleQuotes at h
    split at h
    · exact hu (congrArg List.head? (List.cons.inj h).2)
    · rename_i hd
      exact hd (List.cons.inj h).1.symm
  | c :: s, [], h => by
    exfalso
    unfold doubleQuotes at h
    split at h
    · exact hv (congrArg List.head? (List.cons.inj h).2).symm
    · rename_i hc
      exact hc (List.cons.inj h).1
  | c :: s, d :: t, h => by
    unfold doubleQuotes at h
    split at h <;> split at h
    · rename_i hc hd
      obtain ⟨hst, huv⟩ := doubleQuotes_append_inj hu hv (List.cons.inj (List.cons.inj h).2).2
      exact ⟨by rw [hc, hd, hst], huv⟩
    · rename_i hd
      exact absurd (List.cons.inj h).1.symm hd
    · rename_i hc _
      exact absurd (List.cons.inj h).1 hc
    · obtain ⟨hcd, hrest⟩ := List.cons.inj h
      obtain ⟨hst, huv⟩ := doubleQuotes_append_inj hu hv hrest
      exact ⟨by rw [hcd, hst], huv⟩

theorem quoteName_append_inj {s t : String} {u v : List Char} (hu : u.head? ≠ some '"') (hv : v.head? ≠ some '"')
    (h : quoteName s ++ u = quoteName t ++ v) : s = t ∧ u = v := by
  unfold quoteName at h
  rw [List.cons_append, List.cons_append, List.append_assoc, List.append_assoc] at h
  obtain ⟨hst, huv⟩ := doubleQuotes_append_inj hu hv (List.cons.inj h).2
  exact ⟨String.toList_injective hst, huv⟩

end Fragment

/-- **In SQL a table is told by its schema and its name**, whatever characters are in them. -/
theorem Statement.sql_table_inj {e f : Entity} :
    (Statement.table e).sql = (Statement.table f).sql ↔ (e.schema, e.table) = (f.schema, f.table) := by
  constructor
  · intro h
    have hchars : Fragment.quoteName e.schema ++ '.' :: (Fragment.quoteName e.table ++ []) =
        Fragment.quoteName f.schema ++ '.' :: (Fragment.quoteName f.table ++ []) := String.ofList_injective h
    obtain ⟨hschema, hrest⟩ := Fragment.quoteName_append_inj (by simp) (by simp) hchars
    obtain ⟨htable, -⟩ := Fragment.quoteName_append_inj (by simp) (by simp) (List.cons.inj hrest).2
    rw [hschema, htable]
  · intro h
    obtain ⟨hschema, htable⟩ := Prod.mk.inj h
    unfold Statement.table
    rw [hschema, htable]

/-! ## Calls -/

/-- **A call answers from the table of its entity alone**, and makes of it what it does from it alone. -/
theorem MemoryStore.answer_of_table {e : Entity} {s t : MemoryStore} (draws : List String) (call : RowCall)
    (h : s.table e = t.table e) :
    (answer draws e call s).1 = (answer draws e call t).1 ∧
      (answer draws e call s).2.table e = (answer draws e call t).2.table e := by
  cases call with
  | select selection => exact ⟨select_of_table selection h, h⟩
  | insert rows =>
    rw [answer_insert, answer_insert, h]
    cases Table.insertAll e draws rows (t.table e) with
    | ok stored => exact ⟨rfl, (table_setTable s e _).trans (table_setTable t e _).symm⟩
    | error error => exact ⟨rfl, h⟩
  | update changes filter =>
    rw [answer_update, answer_update, h]
    exact ⟨rfl, (table_setTable s e _).trans (table_setTable t e _).symm⟩
  | delete filter =>
    rw [answer_delete, answer_delete, h]
    exact ⟨rfl, (table_setTable s e _).trans (table_setTable t e _).symm⟩

/-- What a call to the memory store answers. -/
inductive StoreAnswer where
  | rows (result : Except ServiceError (List Row))
  | count (result : Except ServiceError Nat)

namespace StoreStep

variable {e : Entity} {s t : MemoryStore}

def answer (e : Entity) : StoreStep → MemoryStore → StoreAnswer
  | .rows draws call, s => .rows ((MemoryStore.backend draws).rows e call s).1
  | .count filter, s => .count ((MemoryStore.backend []).count e filter s).1

theorem answer_of_table (step : StoreStep) (h : s.table e = t.table e) :
    step.answer e s = step.answer e t ∧ (step.after e s).table e = (step.after e t).table e := by
  cases step with
  | rows draws call =>
    obtain ⟨hanswer, htable⟩ := MemoryStore.answer_of_table draws call h
    exact ⟨congrArg StoreAnswer.rows hanswer, htable⟩
  | count filter => exact ⟨congrArg (fun u : Table => StoreAnswer.count (.ok (u.count filter))) h, h⟩

end StoreStep

/-! ## Runs of calls for two entities -/

namespace MemoryStore

variable {e f : Entity}

/-- What the calls for an entity answer, one after the other. -/
def answersTo (e : Entity) : List StoreStep → MemoryStore → List StoreAnswer
  | [], _ => []
  | step :: rest, s => step.answer e s :: answersTo e rest (step.after e s)

/-- What the calls for the first entity answer, with calls for the second between them. -/
def answersAmong (e f : Entity) : List (StoreStep ⊕ StoreStep) → MemoryStore → List StoreAnswer
  | [], _ => []
  | .inl step :: rest, s => step.answer e s :: answersAmong e f rest (step.after e s)
  | .inr step :: rest, s => answersAmong e f rest (step.after f s)

/-- The store behind calls for the first entity and the second. -/
def afterBoth (e f : Entity) : List (StoreStep ⊕ StoreStep) → MemoryStore → MemoryStore
  | [], s => s
  | .inl step :: rest, s => afterBoth e f rest (step.after e s)
  | .inr step :: rest, s => afterBoth e f rest (step.after f s)

/-- **The second entity spares the first**: whatever calls are made for both, those for the first answer as if they had been
made alone, and its table has the rows and the counter that they alone give it. -/
structure Spares (f e : Entity) : Prop where
  answers : ∀ calls s, answersAmong e f calls s = answersTo e (calls.filterMap Sum.getLeft?) s
  table : ∀ calls s, (afterBoth e f calls s).table e = (afterAll e (calls.filterMap Sum.getLeft?) s).table e

/-- Calls for an entity answer the same, and leave it the same table, when they find it the same. -/
theorem answersTo_of_table : ∀ (steps : List StoreStep) {s t : MemoryStore}, s.table e = t.table e →
    answersTo e steps s = answersTo e steps t ∧ (afterAll e steps s).table e = (afterAll e steps t).table e
  | [], _, _, h => ⟨rfl, h⟩
  | step :: rest, _, _, h => by
    obtain ⟨hanswer, hafter⟩ := step.answer_of_table h
    obtain ⟨hanswers, htable⟩ := answersTo_of_table rest hafter
    exact ⟨congrArg₂ List.cons hanswer hanswers, htable⟩

theorem among_eq (h : f.qualifiedName ≠ e.qualifiedName) : ∀ (calls : List (StoreStep ⊕ StoreStep)) (s : MemoryStore),
    answersAmong e f calls s = answersTo e (calls.filterMap Sum.getLeft?) s ∧
      (afterBoth e f calls s).table e = (afterAll e (calls.filterMap Sum.getLeft?) s).table e
  | [], _ => ⟨rfl, rfl⟩
  | .inl step :: rest, s => by
    obtain ⟨hanswers, htable⟩ := among_eq h rest (step.after e s)
    exact ⟨congrArg (step.answer e s :: ·) hanswers, htable⟩
  | .inr step :: rest, s => by
    -- the calls behind find the table of the first entity as it was
    obtain ⟨hanswers, htable⟩ := among_eq h rest (step.after f s)
    obtain ⟨hanswers', htable'⟩ := answersTo_of_table (rest.filterMap Sum.getLeft?) (step.table_after_of_ne h s)
    exact ⟨hanswers.trans hanswers', htable.trans htable'⟩

/-- **Entities with other qualified names spare each other.** -/
theorem spares_of_ne (h : f.qualifiedName ≠ e.qualifiedName) : Spares f e :=
  ⟨fun calls s => (among_eq h calls s).1, fun calls s => (among_eq h calls s).2⟩

/-- A row that is stored for one entity is in the table of the other when they have one name. -/
theorem not_spares_of_eq (h : f.qualifiedName = e.qualifiedName) : ¬ Spares f e := by
  intro hspares
  have htable := hspares.table [.inr (.rows [] (.insert [[]]))] empty
  have hinsert : ∃ row lastId, Table.insertAll f [] [[]] .empty = .ok ([row], ⟨[row], lastId⟩) :=
    ⟨(Table.prepare f "" [] 0).1, (Table.prepare f "" [] 0).2, rfl⟩
  obtain ⟨row, lastId, hinsert⟩ := hinsert
  have hstored : ((answer [] f (.insert [[]]) empty).2).table e = ⟨[row], lastId⟩ := by
    have hempty : empty.table f = Table.empty := rfl
    rw [answer_insert, hempty, hinsert]
    dsimp only
    rw [table, ← h]
    exact table_setTable empty f _
  have hnone : ((answer [] f (.insert [[]]) empty).2).table e = Table.empty := htable
  rw [hstored] at hnone
  exact absurd (congrArg Table.rows hnone) (List.cons_ne_nil row [])

theorem spares_iff : Spares f e ↔ e.qualifiedName ≠ f.qualifiedName :=
  ⟨fun hspares heq => not_spares_of_eq heq.symm hspares, fun h => spares_of_ne h.symm⟩

/-- **Entities interfere exactly where a dot within a name is taken for the one between schema and table**, while SQL tells
every two tables apart that differ in schema or name. -/
theorem separate_iff (e f : Entity) :
    ((Statement.table e).sql ≠ (Statement.table f).sql ↔ (e.schema, e.table) ≠ (f.schema, f.table)) ∧
      (Spares e f ∧ Spares f e ↔ (e.schema, e.table) ≠ (f.schema, f.table) ∧ ¬ e.Overlaps f ∧ ¬ f.Overlaps e) := by
  refine ⟨Statement.sql_table_inj.not, ?_⟩
  rw [spares_iff, spares_iff, ne_comm, and_self, Entity.qualifiedName_ne_iff]

/-- Where no schema has a dot in it, or no table, it is enough that schemas or tables differ. -/
theorem separate_of_undotted (hne : (e.schema, e.table) ≠ (f.schema, f.table))
    (hdot : ('.' ∉ e.schema.toList ∧ '.' ∉ f.schema.toList) ∨ ('.' ∉ e.table.toList ∧ '.' ∉ f.table.toList)) :
    Spares e f ∧ Spares f e := by
  have hname : e.qualifiedName ≠ f.qualifiedName := by
    refine Entity.qualifiedName_ne_iff.2 ⟨hne, fun h => ?_, fun h => ?_⟩
    · exact hdot.elim (fun hschemas => hschemas.2 h.dot_mem.1) fun htables => htables.1 h.dot_mem.2
    · exact hdot.elim (fun hschemas => hschemas.1 h.dot_mem.1) fun htables => htables.2 h.dot_mem.2
  exact ⟨spares_of_ne hname, spares_of_ne hname.symm⟩

end MemoryStore

namespace Notes

/-- Notes in a table with a dot in its name. -/
def oldDeclaration : Declaration := { declaration [] with table := "notes.old" }

def oldEntity : Entity := { entity [] with table := "notes.old" }

/-- Labels in a schema with a dot in its name. -/
def dottedDeclaration : Declaration :=
  { declaration [] with name := "label", schema := some "public.notes", table := "old" }

def dottedEntity : Entity := { entity [] with name := "label", schema := "public.notes", table := "old" }

end Notes

/-- A note is found among the labels. -/
theorem MemoryStore.note_among_labels :
    Declaration.resolve .standard [Notes.oldDeclaration, Notes.dottedDeclaration] =
        .ok [Notes.oldEntity, Notes.dottedEntity] ∧
      (Notes.oldEntity.schema, Notes.oldEntity.table) ≠ (Notes.dottedEntity.schema, Notes.dottedEntity.table) ∧
      (Statement.table Notes.oldEntity).sql ≠ (Statement.table Notes.dottedEntity).sql ∧
      empty.rowsOf Notes.dottedEntity = [] ∧
      (empty.afterAll Notes.oldEntity [.rows [] (.insert [[("id", .str "1"), ("title", .str "draft")]])]).rowsOf
          Notes.dottedEntity = [Notes.row "1" .null .null] ∧
      ¬ (Spares Notes.oldEntity Notes.dottedEntity ∧ Spares Notes.dottedEntity Notes.oldEntity) := by
  have hpairs : (Notes.oldEntity.schema, Notes.oldEntity.table) ≠ (Notes.dottedEntity.schema, Notes.dottedEntity.table) := by
    decide
  have hname : Notes.oldEntity.qualifiedName = Notes.dottedEntity.qualifiedName := by decide
  exact ⟨rfl, hpairs, Statement.sql_table_inj.not.2 hpairs, rfl, rfl, fun h => not_spares_of_eq hname h.1⟩

end RecordService
