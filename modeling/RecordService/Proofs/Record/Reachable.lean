import RecordService.Proofs.Record.Creation
/-!
# Reachable stores — what the operations on an entity make of an empty store

A store is reachable for an entity when validated operations on the entity, within whatever scope, and any operations on
entities with other tables lead to it from the empty store.  Its table then has one row for an identifier
(`Reachable.represents`), and with integers for identifiers each is one, or a time where the time of creation goes into
the column of the identifier (`Reachable.numbered`).
-/
namespace RecordService

/-- **The store comes about by validated operations on the entity**, and operations on entities with other tables. -/
inductive Reachable (e : Entity) : MemoryStore → Prop where
  | empty : Reachable e .empty
  | own {s : MemoryStore} (scope : Scope) {o : Occasion} (request : Request) : o.context.skipValidation = false →
      Text.HasZone o.now → Reachable e s → Reachable e ((Pipeline.plain e scope).runOn o request s).2
  | other {s : MemoryStore} {p : Pipeline} (o : Occasion) (request : Request) :
      p.entity.qualifiedName ≠ e.qualifiedName → Reachable e s → Reachable e (p.runOn o request s).2

namespace MemoryStore

/-- A call about an entity leaves the tables with other names alone. -/
theorem table_answer_of_ne {e e' : Entity} (h : e'.qualifiedName ≠ e.qualifiedName) (draws : List String) (call : RowCall)
    (s : MemoryStore) : (answer draws e' call s).2.table e = s.table e := by
  have hset : ∀ t : Table, (s.setTable e' t).table e = s.table e := fun t => by
    rw [table, setTable, find_put, if_neg h]
    rfl
  cases call with
  | select selection => rfl
  | insert rows =>
    rw [answer_insert]
    split
    · exact hset _
    · rfl
  | update changes filter => exact hset _
  | delete filter => exact hset _

end MemoryStore

theorem Pipeline.table_runOn_of_ne {p : Pipeline} {e : Entity} (h : p.entity.qualifiedName ≠ e.qualifiedName)
    (o : Occasion) (request : Request) (s : MemoryStore) : (p.runOn o request s).2.table e = s.table e := by
  rcases p.after_cases o request s with hsame | ⟨i, c, -, -, hafter⟩
  · rw [hsame]
  · rw [hafter, MemoryStore.table_answer_of_ne h]

/-! ## Identifiers that are integers -/

/-- An integer of 64 bits, or a time. -/
def Json.IntegerOrTime (id : Json) : Prop :=
  (∃ i, inSigned64 i = true ∧ id = .num (.int i)) ∨ ∃ now, Text.HasZone now ∧ id = .str now

/-- **Every identifier is an integer**, or a time. -/
def Table.Numbered (t : Table) (e : Entity) : Prop := ∀ row ∈ t.rows, (row.cell e.idField).IntegerOrTime

section
variable {e : Entity} (hid : e.hasColumn e.idField = true) (hbigint : e.idType = .bigint)
include hid hbigint

/-- A row that is prepared for an accepted record has such an identifier. -/
theorem Table.cell_prepare_of_stamped {now : String} (hnow : Text.HasZone now) {input : Row} (h : e.Stamped now input)
    (draw : String) (lastId : Int) : ((prepare e draw input lastId).1.cell e.idField).IntegerOrTime := by
  obtain ⟨body, hissues, rfl⟩ := h
  rw [cell_prepare_id hid]
  cases hbody : body.get? e.idField with
  | some v =>
    obtain ⟨id, hparse, hget⟩ := Entity.get?_stampCreated_of_id hid hissues now hbody
    rw [hbigint] at hparse
    obtain ⟨i, hi, rfl⟩ := IdType.of_parseBigint hparse
    rw [hget]
    exact .inl ⟨i, hi, rfl⟩
  | none =>
    rw [Entity.get?_stampCreated_of_no_id hissues now hbody]
    cases e.stamps e.idField with
    | true => exact .inr ⟨now, hnow, rfl⟩
    | false =>
      rw [freshId, hbigint]
      exact .inl ⟨_, inSigned64_wrapSigned64 (lastId + 1), rfl⟩

/-- **A call keeps the identifiers integers**, when what it inserts was accepted. -/
theorem MemoryStore.numbered_answer {s : MemoryStore} {now : String} (hnow : Text.HasZone now) (draws : List String)
    {call : RowCall} (hinsert : ∀ rows, call = .insert rows → ∀ row ∈ rows, e.Stamped now row)
    (h : (s.table e).Numbered e) : ((answer draws e call s).2.table e).Numbered e := by
  cases call with
  | select selection => exact h
  | insert rows =>
    rw [answer_insert]
    split
    · rename_i stored t hstored
      rw [table_setTable]
      intro row hrow
      rcases Table.of_mem_insertAll hstored row hrow with hold | ⟨input, hinput, draw, lastId, rfl⟩
      · exact h row hold
      · exact Table.cell_prepare_of_stamped hid hbigint hnow (hinsert rows rfl input hinput) draw lastId
    · exact h
  | update changes filter =>
    rw [answer_update, table_setTable]
    exact Table.forall_id_updateRows (q := Json.IntegerOrTime) h
  | delete filter =>
    rw [answer_delete, table_setTable]
    exact fun row hrow => h row (List.mem_filter.1 hrow).1

end

/-! ## Reachable stores -/

namespace Reachable

variable {e : Entity} {s : MemoryStore}

theorem represents (hid : e.hasColumn e.idField = true) (h : Reachable e s) : (s.table e).Represents e := by
  induction h with
  | empty => exact Table.represents_empty e
  | @own s scope o request _ _ _ ih =>
    rcases (Pipeline.plain e scope).after_cases o request s with hsame | ⟨i, c, -, -, hafter⟩
    · rw [hsame]
      exact ih
    · rw [hafter]
      exact MemoryStore.represents_answer hid o.draws c ih
  | other o request hne _ ih =>
    rw [Pipeline.table_runOn_of_ne hne]
    exact ih

theorem numbered (hid : e.hasColumn e.idField = true) (hbigint : e.idType = .bigint) (h : Reachable e s) :
    (s.table e).Numbered e := by
  induction h with
  | empty => exact fun row hrow => by cases hrow
  | @own s scope o request hskip hnow _ ih =>
    rcases (Pipeline.plain e scope).after_cases o request s with hsame | ⟨i, c, hplan, hchange, hafter⟩
    · rw [hsame]
      exact ih
    · rw [hafter]
      refine MemoryStore.numbered_answer hid hbigint hnow o.draws (fun rows hrows => ?_) ih
      exact Pipeline.inserted_of_plan hskip hplan (hrows ▸ hchange)
  | other o request hne _ ih =>
    rw [Pipeline.table_runOn_of_ne hne]
    exact ih

end Reachable

end RecordService
