import Mathlib.Data.List.Induction
import Mathlib.Order.Bounds.Basic
import RecordService.Proofs.Record.Identity
/-!
# The counter of a table

Where identifiers are integers, the counter of a table is the greatest one that was ever in it, for as long as the last
integer of 64 bits has not been taken.  A row adds its identifier (`Table.Tracks.add`), a batch those of its rows
(`Table.Tracks.insertAll`), and so does whatever sequence of calls is made, about this table and others
(`MemoryStore.tracks_afterCalls`).  The next integer is above all of them exactly as long (`Table.Tracks.above_iff`).
-/
namespace RecordService

/-! ## Identifiers that are integers -/

namespace Table

variable {e : Entity}

/-- The identifiers of the rows that are integers. -/
def numbers (e : Entity) (rows : List Row) : List Int := rows.filterMap fun row => (row.cell e.idField).int64?

theorem mem_numbers_iff {rows : List Row} {i : Int} :
    i ∈ numbers e rows ↔ ∃ row ∈ rows, (row.cell e.idField).int64? = some i := List.mem_filterMap

theorem numbers_cons {row : Row} {i : Int} (h : (row.cell e.idField).int64? = some i) (rows : List Row) :
    numbers e (row :: rows) = i :: numbers e rows := List.filterMap_cons_some h

theorem numbers_append (rows rows' : List Row) : numbers e (rows ++ rows') = numbers e rows ++ numbers e rows' :=
  List.filterMap_append

theorem union_numbers_nil (e : Entity) (ever : Set Int) : ever ∪ {i | i ∈ numbers e []} = ever := by
  simp [numbers]

end Table

theorem int64?_int {i : Int} (h : inSigned64 i = true) : (Json.num (.int i)).int64? = some i := IdType.integer?_int h

theorem le_maxId_of_inSigned64 {i : Int} (h : inSigned64 i = true) : i ≤ Table.maxId :=
  Table.le_maxId_of_int64? (int64?_int h)

/-- What is given for the identifier is an integer of 64 bits. -/
def Entity.TakesNumber (e : Entity) (input : Row) : Prop :=
  ∀ v, input.get? e.idField = some v → ∃ i, inSigned64 i = true ∧ v = .num (.int i)

theorem Entity.takesNumber_of_left {e : Entity} {input : Row} (h : input.has e.idField = false) : e.TakesNumber input := by
  intro v hv
  rw [Row.has, hv] at h
  cases h

/-- The identifiers are integers that the store counts itself. -/
structure Entity.Counted (e : Entity) : Prop where
  idField : e.hasColumn e.idField = true
  idType : e.idType = .int ∨ e.idType = .bigint

/-! ## The counter -/

namespace Table

variable {e : Entity} {input : Row}

theorem freshId_of_counted (h : e.Counted) (draw : String) (lastId : Int) :
    freshId e draw lastId = (.num (.int (wrapSigned64 (lastId + 1))), wrapSigned64 (lastId + 1)) := by
  unfold freshId
  rcases h.idType with htype | htype <;> rw [htype]

theorem prepare_of_given (h : e.Counted) (draw : String) (lastId : Int) {i : Int} (hi : inSigned64 i = true)
    (hinput : input.get? e.idField = some (.num (.int i))) :
    (prepare e draw input lastId).1.cell e.idField = .num (.int i) ∧ (prepare e draw input lastId).2 = max lastId i := by
  have hcell : (prepare e draw input lastId).1.cell e.idField = .num (.int i) := by
    rw [cell_prepare_id h.idField, hinput]
    rfl
  refine ⟨hcell, ?_⟩
  have hhas : input.has e.idField = true := by rw [Row.has, hinput, Option.isSome_some]
  unfold prepare at hcell ⊢
  rw [hhas, Bool.true_or, if_pos rfl] at hcell ⊢
  dsimp only at hcell ⊢
  unfold countId
  rw [hcell, int64?_int hi]

theorem prepare_of_left (h : e.Counted) (draw : String) (lastId : Int) (hinput : input.has e.idField = false) :
    (prepare e draw input lastId).1.cell e.idField = .num (.int (wrapSigned64 (lastId + 1))) ∧
      (prepare e draw input lastId).2 = wrapSigned64 (lastId + 1) := by
  have hnone : input.get? e.idField = none := by simpa [Row.has] using hinput
  have hcell : (prepare e draw input lastId).1.cell e.idField = .num (.int (wrapSigned64 (lastId + 1))) := by
    rw [cell_prepare_id h.idField, hnone, freshId_of_counted h]
    rfl
  refine ⟨hcell, ?_⟩
  unfold prepare at hcell ⊢
  rw [hinput, h.idField, Bool.not_true, Bool.or_self, if_neg Bool.false_ne_true, freshId_of_counted h] at hcell ⊢
  dsimp only at hcell ⊢
  unfold countId
  rw [hcell, int64?_int (inSigned64_wrapSigned64 _)]
  exact max_self _

/-- **The table keeps track of the integers that were ever identifiers in it**: the counter is the greatest of them, as long
as the last one has not been taken. -/
structure Tracks (e : Entity) (ever : Set Int) (t : Table) : Prop where
  stored : ∀ row ∈ t.rows, ∃ i ∈ ever, row.cell e.idField = .num (.int i)
  limit : ∀ i ∈ ever, inSigned64 i = true
  counter : maxId ∉ ever → IsGreatest (insert 0 ever) t.lastId

namespace Tracks

variable {ever : Set Int} {t : Table}

theorem lt_maxId (h : Tracks e ever t) (hmax : maxId ∉ ever) : t.lastId < maxId := by
  rcases (h.counter hmax).1 with hzero | hmem
  · rw [hzero]
    decide
  · refine lt_of_le_of_ne (le_maxId_of_inSigned64 (h.limit _ hmem)) ?_
    rintro heq
    exact hmax (heq ▸ hmem)

/-- Until the last integer is taken the next one is counted to. -/
theorem next_eq (h : Tracks e ever t) (hmax : maxId ∉ ever) : wrapSigned64 (t.lastId + 1) = t.lastId + 1 := by
  have hlow : 0 ≤ t.lastId := (h.counter hmax).2 (Set.mem_insert 0 ever)
  have hhigh := h.lt_maxId hmax
  exact wrapSigned64_of_mem (by omega) (by omega)

/-- **The next integer is above all that were identifiers, unless these have come to an end.** -/
theorem above_iff (h : Tracks e ever t) : (∀ j ∈ ever, j < wrapSigned64 (t.lastId + 1)) ↔ maxId ∉ ever := by
  constructor
  · intro habove hmem
    have hlimit := le_maxId_of_inSigned64 (inSigned64_wrapSigned64 (t.lastId + 1))
    have hlt := habove maxId hmem
    omega
  · intro hmax j hj
    rw [h.next_eq hmax]
    exact Int.lt_add_one_of_le ((h.counter hmax).2 (Set.mem_insert_of_mem 0 hj))

theorem isGreatest_insert {i counter : Int} (h : IsGreatest (insert 0 ever) counter) :
    IsGreatest (insert 0 (insert i ever)) (max counter i) := by
  rw [Set.insert_comm]
  exact max_comm counter i ▸ h.insert i

/-- A row is kept track of when the counter goes up to its identifier. -/
theorem extend (h : Tracks e ever t) {row : Row} {counter i : Int} (hi : inSigned64 i = true)
    (hcell : row.cell e.idField = .num (.int i)) (hcounter : maxId ∉ ever → counter = max t.lastId i) :
    Tracks e (insert i ever) ⟨t.rows ++ [row], counter⟩ := by
  constructor
  case stored =>
    intro row' hrow
    rcases List.mem_append.1 hrow with hold | hnew
    · obtain ⟨j, hj, hcell⟩ := h.stored row' hold
      exact ⟨j, Set.mem_insert_of_mem i hj, hcell⟩
    · rw [List.mem_singleton.1 hnew]
      exact ⟨i, Set.mem_insert i ever, hcell⟩
  case limit =>
    rintro j (rfl | hj)
    · exact hi
    · exact h.limit j hj
  case counter =>
    intro hmax
    have hbefore : maxId ∉ ever := fun hmem => hmax (Set.mem_insert_of_mem i hmem)
    rw [hcounter hbefore]
    exact isGreatest_insert (h.counter hbefore)

/-- **A row adds its identifier to them**, be it given or counted to. -/
theorem add (hcounted : e.Counted) (h : Tracks e ever t) (hinput : e.TakesNumber input) (draw : String) :
    ∃ i, inSigned64 i = true ∧ (prepare e draw input t.lastId).1.cell e.idField = .num (.int i) ∧
      (input.has e.idField = false → i = wrapSigned64 (t.lastId + 1) ∧ (prepare e draw input t.lastId).2 = i) ∧
      Tracks e (insert i ever) ⟨t.rows ++ [(prepare e draw input t.lastId).1], (prepare e draw input t.lastId).2⟩ := by
  cases hget : input.get? e.idField with
  | some v =>
    obtain ⟨i, hi, rfl⟩ := hinput v hget
    obtain ⟨hcell, hcounter⟩ := prepare_of_given hcounted draw t.lastId hi hget
    refine ⟨i, hi, hcell, fun hleft => ?_, h.extend hi hcell fun _ => hcounter⟩
    rw [Row.has, hget] at hleft
    cases hleft
  | none =>
    have hleft : input.has e.idField = false := by rw [Row.has, hget, Option.isSome_none]
    have hi := inSigned64_wrapSigned64 (t.lastId + 1)
    obtain ⟨hcell, hcounter⟩ := prepare_of_left hcounted draw t.lastId hleft
    refine ⟨_, hi, hcell, fun _ => ⟨rfl, hcounter⟩, h.extend hi hcell fun hmax => ?_⟩
    rw [hcounter, h.next_eq hmax]
    exact (max_eq_right (by omega)).symm

/-- What an accepted batch begins with: a row that adds its identifier, to which the other rows add theirs. -/
theorem of_insertAll_cons (hcounted : e.Counted) {inputs stored : List Row} {draws : List String} {t' : Table}
    (h : Tracks e ever t) (hinput : e.TakesNumber input)
    (hins : Table.insertAll e draws (input :: inputs) t = .ok (stored, t')) :
    ∃ first i rest t₁, stored = first :: rest ∧ (first.cell e.idField).int64? = some i ∧
      (input.has e.idField = false → i = wrapSigned64 (t.lastId + 1) ∧ t₁.lastId = i) ∧
      Tracks e (insert i ever) t₁ ∧ Table.insertAll e draws.tail inputs t₁ = .ok (rest, t') ∧
      ∀ rows, insert i ever ∪ {j | j ∈ numbers e rows} = ever ∪ {j | j ∈ numbers e (first :: rows)} := by
  obtain ⟨rest, -, hbatch, rfl⟩ := Table.of_insertAll_cons hins
  obtain ⟨i, hi, hcell, hleft, hadded⟩ := h.add hcounted hinput (draws.headD "")
  have hfirst : ((prepare e (draws.headD "") input t.lastId).1.cell e.idField).int64? = some i := by
    rw [hcell, int64?_int hi]
  refine ⟨_, i, rest, _, rfl, hfirst, hleft, hadded, hbatch, fun rows => ?_⟩
  ext j
  rw [numbers_cons hfirst]
  simp only [Set.mem_union, Set.mem_insert_iff, Set.mem_ofPred_eq, List.mem_cons]
  tauto

/-- **A batch adds the identifiers of its rows**, and a row of it that is left to the store is above all before it exactly
when the last integer has not been taken by then. -/
theorem insertAll (hcounted : e.Counted) : ∀ {inputs stored : List Row} {draws : List String} {t t' : Table}
    {ever : Set Int}, Tracks e ever t → (∀ input ∈ inputs, e.TakesNumber input) →
    Table.insertAll e draws inputs t = .ok (stored, t') →
      Tracks e (ever ∪ {i | i ∈ numbers e stored}) t' ∧
        ∀ (k : Nat) (input : Row), inputs[k]? = some input → input.has e.idField = false →
          ((∃ row i, stored[k]? = some row ∧ (row.cell e.idField).int64? = some i ∧
              ∀ j ∈ ever ∪ {i | i ∈ numbers e (stored.take k)}, j < i) ↔
            maxId ∉ ever ∪ {i | i ∈ numbers e (stored.take k)})
  | [], _, _, _, _, ever, h, _, hins => by
    cases hins
    refine ⟨?_, fun k input hk => by simp at hk⟩
    rw [union_numbers_nil]
    exact h
  | input :: inputs, _, draws, t, t', ever, h, hinputs, hins => by
    obtain ⟨hinput, hinputs⟩ := List.forall_mem_cons.1 hinputs
    obtain ⟨first, i, rest, t₁, rfl, hfirst, hleft, hadded, hbatch, hunion⟩ := of_insertAll_cons hcounted h hinput hins
    obtain ⟨hrest, hrows⟩ := insertAll hcounted hadded hinputs hbatch
    -- for the other rows the identifier of the first is among those that ever were
    refine ⟨hunion rest ▸ hrest, fun k input' hk hleft' => ?_⟩
    cases k with
    | zero =>
      cases hk
      rw [List.take_zero, union_numbers_nil, ← h.above_iff, ← (hleft hleft').1]
      constructor
      · rintro ⟨row, j, hrow, hj, habove⟩
        cases hrow
        cases hfirst.symm.trans hj
        exact habove
      · exact fun habove => ⟨_, i, rfl, hfirst, habove⟩
    | succ k =>
      rw [List.getElem?_cons_succ] at hk
      rw [List.take_succ_cons, List.getElem?_cons_succ, ← hunion]
      exact hrows k input' hk hleft'

/-- As long as a batch that is left to the store does not come to the last integer, there was room for all of it. -/
theorem lastId_add_length_le (hcounted : e.Counted) : ∀ {inputs stored : List Row} {draws : List String} {t t' : Table}
    {ever : Set Int}, Tracks e ever t → (∀ input ∈ inputs, input.has e.idField = false) →
    Table.insertAll e draws inputs t = .ok (stored, t') → inputs ≠ [] →
    (∀ k < inputs.length, maxId ∉ ever ∪ {i | i ∈ numbers e (stored.take k)}) → t.lastId + inputs.length ≤ maxId
  | input :: inputs, _, draws, t, t', ever, h, hleft, hins, _, hopen => by
    obtain ⟨hinput, hleft⟩ := List.forall_mem_cons.1 hleft
    obtain ⟨first, i, rest, t₁, rfl, -, hfirst, hadded, hbatch, hunion⟩ :=
      of_insertAll_cons hcounted h (Entity.takesNumber_of_left hinput) hins
    have hmax : maxId ∉ ever := by
      have hzero := hopen 0 (by simp)
      rwa [List.take_zero, union_numbers_nil] at hzero
    have hbelow := h.lt_maxId hmax
    obtain ⟨hi, hcounter⟩ := hfirst hinput
    rw [h.next_eq hmax] at hi
    rw [List.length_cons]
    by_cases hlast : inputs = []
    · rw [hlast, List.length_nil]
      omega
    · have hrest := lastId_add_length_le hcounted hadded hleft hbatch hlast fun k hk => by
        have hnext := hopen (k + 1) (by simpa using hk)
        rwa [List.take_succ_cons, ← hunion] at hnext
      omega

end Tracks

/-- The rows of a batch go behind those of the table. -/
theorem rows_of_insertAll : ∀ {inputs stored : List Row} {draws : List String} {t t' : Table},
    insertAll e draws inputs t = .ok (stored, t') → t'.rows = t.rows ++ stored
  | [], _, _, t, _, hins => by
    cases hins
    exact (List.append_nil t.rows).symm
  | input :: inputs, _, _, t, t', hins => by
    obtain ⟨rest, -, hbatch, rfl⟩ := of_insertAll_cons hins
    rw [rows_of_insertAll hbatch, List.append_assoc, List.singleton_append]

end Table

/-! ## Runs of calls -/

/-- Every identifier that the call gives is an integer of 64 bits. -/
def StoreStep.TakesNumbers (e : Entity) : StoreStep → Prop
  | .rows _ (.insert inputs) => ∀ input ∈ inputs, e.TakesNumber input
  | _ => True

theorem StoreStep.table_after_of_ne {e f : Entity} (step : StoreStep) (h : f.qualifiedName ≠ e.qualifiedName)
    (s : MemoryStore) : (step.after f s).table e = s.table e := by
  cases step with
  | count filter => rfl
  | rows draws call => exact MemoryStore.table_answer_of_ne h draws call s

/-- A call of the store, with the entity whose table it is about. -/
structure TableCall where
  entity : Entity
  step : StoreStep

namespace TableCall

def after (call : TableCall) (s : MemoryStore) : MemoryStore := call.step.after call.entity s

/-- The call gives integers of 64 bits for the identifiers of the entity, or is about another table. -/
inductive TakesNumbers (e : Entity) : TableCall → Prop where
  | own {step : StoreStep} : step.TakesNumbers e → TakesNumbers e ⟨e, step⟩
  | other {call : TableCall} : call.entity.qualifiedName ≠ e.qualifiedName → TakesNumbers e call

theorem table_after_of_ne {e : Entity} {call : TableCall} (h : call.entity.qualifiedName ≠ e.qualifiedName)
    (s : MemoryStore) : (call.after s).table e = s.table e := call.step.table_after_of_ne h s

end TableCall

namespace Table.Tracks

variable {e : Entity} {ever : Set Int} {t : Table}

theorem mem_of_mem_numbers (h : Tracks e ever t) {i : Int} (hi : i ∈ numbers e t.rows) : i ∈ ever := by
  obtain ⟨row, hrow, hi⟩ := mem_numbers_iff.1 hi
  obtain ⟨j, hj, hcell⟩ := h.stored row hrow
  rw [hcell, int64?_int (h.limit j hj)] at hi
  exact Option.some.inj hi ▸ hj

/-- What is in the table is among what ever was. -/
theorem union_numbers (h : Tracks e ever t) : Tracks e (ever ∪ {i | i ∈ numbers e t.rows}) t := by
  have hsubset : {i | i ∈ numbers e t.rows} ⊆ ever := fun i hi => h.mem_of_mem_numbers hi
  rw [Set.union_eq_self_of_subset_right hsubset]
  exact h

end Table.Tracks

namespace MemoryStore

variable {e : Entity} {s : MemoryStore} {ever : Set Int}

/-- **A call keeps track of the identifiers**, of those that it adds as of the others. -/
theorem tracks_after (hcounted : e.Counted) {step : StoreStep} (hstep : step.TakesNumbers e)
    (h : (s.table e).Tracks e ever) :
    ((step.after e s).table e).Tracks e (ever ∪ {i | i ∈ Table.numbers e ((step.after e s).rowsOf e)}) := by
  cases step with
  | count filter => exact h.union_numbers
  | rows draws call =>
    show ((answer draws e call s).2.table e).Tracks e
      (ever ∪ {i | i ∈ Table.numbers e ((answer draws e call s).2.rowsOf e)})
    cases call with
    | select selection => exact h.union_numbers
    | insert inputs =>
      rw [answer_insert]
      split
      · rename_i stored t hins
        have hadded := (h.insertAll hcounted hstep hins).1.union_numbers
        have hsubset : {i | i ∈ Table.numbers e stored} ⊆ {i | i ∈ Table.numbers e t.rows} := fun i hi => by
          show i ∈ Table.numbers e t.rows
          rw [Table.rows_of_insertAll hins, Table.numbers_append]
          exact List.mem_append_right _ hi
        rw [Set.union_assoc, Set.union_eq_self_of_subset_left hsubset] at hadded
        rw [rowsOf, table_setTable]
        exact hadded
      · exact h.union_numbers
    | update changes filter =>
      rw [answer_update, rowsOf, table_setTable]
      refine Table.Tracks.union_numbers ⟨?_, h.limit, h.counter⟩
      exact Table.forall_id_updateRows (q := fun id => ∃ i ∈ ever, id = .num (.int i)) h.stored
    | delete filter =>
      rw [answer_delete, rowsOf, table_setTable]
      exact Table.Tracks.union_numbers ⟨fun row hrow => h.stored row (List.mem_filter.1 hrow).1, h.limit, h.counter⟩

/-- Calls about other tables leave the counter and the rows alone. -/
theorem tracks_afterCall (hcounted : e.Counted) {call : TableCall} (hcall : call.TakesNumbers e)
    (h : (s.table e).Tracks e ever) :
    ((call.after s).table e).Tracks e (ever ∪ {i | i ∈ Table.numbers e ((call.after s).rowsOf e)}) := by
  cases hcall with
  | own hstep => exact tracks_after hcounted hstep h
  | other hne =>
    rw [rowsOf, TableCall.table_after_of_ne hne]
    exact h.union_numbers

/-- The store behind the calls. -/
def afterCalls (calls : List TableCall) (s : MemoryStore) : MemoryStore := calls.foldl (fun s call => call.after s) s

theorem afterCalls_concat (calls : List TableCall) (call : TableCall) (s : MemoryStore) :
    s.afterCalls (calls ++ [call]) = call.after (s.afterCalls calls) := List.foldl_concat ..

/-- The integers that were ever identifiers in the table on the way of the calls. -/
def held (e : Entity) (calls : List TableCall) : Set Int :=
  {i | ∃ pre post, calls = pre ++ post ∧ i ∈ Table.numbers e ((empty.afterCalls pre).rowsOf e)}

theorem held_nil (e : Entity) : held e [] = ∅ := by
  refine Set.eq_empty_of_forall_notMem fun i => ?_
  rintro ⟨pre, post, hcalls, hi⟩
  rw [(List.append_eq_nil_iff.1 hcalls.symm).1] at hi
  cases hi

theorem held_concat (e : Entity) (calls : List TableCall) (call : TableCall) : held e (calls ++ [call]) =
    held e calls ∪ {i | i ∈ Table.numbers e ((call.after (empty.afterCalls calls)).rowsOf e)} := by
  ext i
  constructor
  · rintro ⟨pre, post, hcalls, hi⟩
    rcases List.eq_nil_or_concat post with rfl | ⟨post, last, rfl⟩
    · rw [List.append_nil] at hcalls
      rw [← hcalls, afterCalls_concat] at hi
      exact .inr hi
    · rw [List.concat_eq_append, ← List.append_assoc] at hcalls
      exact .inl ⟨pre, post, (List.append_inj' hcalls rfl).1, hi⟩
  · rintro (⟨pre, post, rfl, hi⟩ | hi)
    · exact ⟨pre, post ++ [call], List.append_assoc _ _ _, hi⟩
    · refine ⟨calls ++ [call], [], (List.append_nil _).symm, ?_⟩
      rw [afterCalls_concat]
      exact hi

section
variable (hcounted : e.Counted) {calls : List TableCall} (hcalls : ∀ call ∈ calls, call.TakesNumbers e)
include hcounted hcalls

/-- **Whatever calls are made, the table keeps track of the identifiers** that it ever held. -/
theorem tracks_afterCalls : ((empty.afterCalls calls).table e).Tracks e (held e calls) := by
  induction calls using List.reverseRecOn with
  | nil =>
    rw [held_nil]
    refine ⟨fun row hrow => (by cases hrow), fun i hi => hi.elim, fun _ => ?_⟩
    rw [insert_empty_eq]
    exact isGreatest_singleton
  | append_singleton calls call ih =>
    rw [held_concat, afterCalls_concat]
    have hbefore := ih fun call' hcall => hcalls call' (List.mem_append_left _ hcall)
    exact tracks_afterCall hcounted (hcalls call (by simp)) hbefore

/-- Its rows have identifiers that are apart. -/
theorem represents_afterCalls : ((empty.afterCalls calls).table e).Represents e := by
  induction calls using List.reverseRecOn with
  | nil => exact Table.represents_empty e
  | append_singleton calls call ih =>
    rw [afterCalls_concat]
    have hbefore := ih fun call' hcall => hcalls call' (List.mem_append_left _ hcall)
    cases hcalls call (by simp) with
    | @own step _ => exact represents_afterAll hcounted.idField [step] hbefore
    | other hne =>
      rw [TableCall.table_after_of_ne hne]
      exact hbefore

end

end MemoryStore

end RecordService
