import RecordService.Proofs.Config.Check
import RecordService.Proofs.Pipeline.Memory
import RecordService.Proofs.Store.Calls
/-!
# Representation — what the table of an entity is like

Whatever calls are made for an entity, each row of its table has a cell for every column, in the order of the columns,
and no two rows have identifiers that the store takes for the same (`Table.Represents`).  The counter is not below zero,
nor below an identifier that is an integer of 64 bits (`Table.Counts`), until it comes to the end of these integers,
where the next identifier would be counted from their other end.
-/
namespace RecordService

/-! ## Rows -/

namespace Row

theorem get?_eq_cell {name : String} : ∀ {row : Row}, name ∈ row.keys → row.get? name = some (row.cell name)
  | (k, v) :: rest, h => by
    unfold cell
    rw [get?]
    by_cases hk : k = name
    · rw [if_pos hk]
      rfl
    · rw [if_neg hk]
      rcases List.mem_cons.1 h with heq | hrest
      · exact absurd heq.symm hk
      · rw [get?_eq_cell hrest]
        rfl

/-- A member that is there keeps its place. -/
theorem keys_set {name : String} {value : Json} : ∀ {row : Row}, name ∈ row.keys → (row.set name value).keys = row.keys
  | (k, v) :: rest, h => by
    unfold set
    by_cases hk : k = name
    · rw [if_pos hk]
      rfl
    · rw [if_neg hk]
      rcases List.mem_cons.1 h with heq | hrest
      · exact absurd heq.symm hk
      · exact congrArg (k :: ·) (keys_set hrest)

end Row

namespace Table

variable {e : Entity}

theorem keys_complete (e : Entity) (input : Row) (fresh : Json) : (complete e input fresh).keys = e.columnNames := by
  simp [complete, Row.keys, Entity.columnNames]

/-- A cell is what the input says, or else what the column has for it. -/
theorem get?_complete (e : Entity) (input : Row) (fresh : Json) (name : String) :
    (complete e input fresh).get? name =
      (e.column? name).map fun c => (input.get? name).getD (if name = e.idField then fresh else defaultValue c) := by
  unfold complete Entity.column?
  induction e.columns with
  | nil => rfl
  | cons c rest ih =>
    rw [List.map_cons, Row.get?, Entity.findColumn]
    by_cases hc : c.name = name
    · rw [if_pos hc, if_pos hc, ← hc]
      cases input.get? c.name <;> rfl
    · rw [if_neg hc, if_neg hc]
      exact ih

theorem keys_prepare (e : Entity) (draw : String) (input : Row) (lastId : Int) :
    (prepare e draw input lastId).1.keys = e.columnNames := by
  unfold prepare
  split <;> exact keys_complete _ _ _

theorem keys_assign {row : Row} : ∀ changes : Row, row.keys = e.columnNames → (assign e changes row).keys = e.columnNames
  | [], h => h
  | (k, v) :: changes, h => by
    unfold assign
    split
    · rename_i hwritten
      have hcolumn : e.hasColumn k = true := (Bool.and_eq_true_iff.1 hwritten).2
      have hk : k ∈ row.keys := h ▸ (e.hasColumn_iff k).1 hcolumn
      exact keys_assign changes ((Row.keys_set hk).trans h)
    · exact keys_assign changes h

/-- The identifier is never assigned to, nor a member that is not among the changes. -/
theorem get?_assign_of_spared {key : String} : ∀ (changes row : Row),
    key = e.idField ∨ (∀ change ∈ changes, change.1 ≠ key) → (assign e changes row).get? key = row.get? key
  | [], _, _ => rfl
  | (k, v) :: changes, row, h => by
    have hrest : key = e.idField ∨ ∀ change ∈ changes, change.1 ≠ key :=
      h.imp_right fun hnot change hmem => hnot change (List.mem_cons_of_mem _ hmem)
    unfold assign
    rw [get?_assign_of_spared changes _ hrest]
    split
    · rename_i hwritten
      have hk : key ≠ k := by
        rintro rfl
        rcases h with rfl | hnot
        · simp at hwritten
        · exact hnot _ List.mem_cons_self rfl
      rw [Row.get?_set, if_neg hk]
    · rfl

theorem cell_assign_id (e : Entity) (changes row : Row) : (assign e changes row).cell e.idField = row.cell e.idField := by
  rw [Row.cell, Row.cell, get?_assign_of_spared changes row (.inl rfl)]

/-- **Changes keep every identifier**, and the rows in their places. -/
theorem cells_updateRows_id (e : Entity) (changes : Row) (filter : List Predicate) (rows : List Row) :
    (updateRows e changes filter rows).map (Row.cell · e.idField) = rows.map (Row.cell · e.idField) := by
  unfold updateRows
  rw [List.map_map]
  refine List.map_congr_left fun row _ => ?_
  rw [Function.comp_apply]
  split
  · exact cell_assign_id e changes row
  · rfl

/-- What holds of the identifiers holds of them behind changes. -/
theorem forall_id_updateRows {q : Json → Prop} {changes : Row} {filter : List Predicate} {rows : List Row}
    (h : ∀ row ∈ rows, q (row.cell e.idField)) : ∀ row ∈ updateRows e changes filter rows, q (row.cell e.idField) := by
  intro row hrow
  have hcell : row.cell e.idField ∈ (updateRows e changes filter rows).map (Row.cell · e.idField) :=
    List.mem_map_of_mem hrow
  rw [cells_updateRows_id] at hcell
  obtain ⟨before, hbefore, hsame⟩ := List.mem_map.1 hcell
  exact hsame ▸ h before hbefore

/-! ## Tables -/

/-- **The rows have the columns of the entity and an identifier of their own**: the store takes no two identifiers for
the same. -/
structure Represents (t : Table) (e : Entity) : Prop where
  keys : ∀ row ∈ t.rows, row.keys = e.columnNames
  apart : t.rows.Pairwise fun earlier later => Cell.equal (earlier.cell e.idField) (later.cell e.idField) = false

theorem represents_empty (e : Entity) : Represents .empty e := ⟨by simp [empty], List.Pairwise.nil⟩

/-- What is not found among the rows equals the identifier of none. -/
theorem not_equal_of_hasId {id : Json} {rows : List Row} (hid : e.hasColumn e.idField = true)
    (hkeys : ∀ row ∈ rows, row.keys = e.columnNames) (h : hasId e id rows = false) :
    ∀ row ∈ rows, Cell.equal (row.cell e.idField) id = false := by
  intro row hrow
  have hmem : e.idField ∈ row.keys := hkeys row hrow ▸ (e.hasColumn_iff e.idField).1 hid
  have hnot := List.any_eq_false.1 h row hrow
  rw [Row.get?_eq_cell hmem] at hnot
  exact Bool.eq_false_iff.2 hnot

theorem exists_equal_of_hasId {id : Json} {rows : List Row} (h : hasId e id rows = true) :
    ∃ row ∈ rows, Cell.equal (row.cell e.idField) id = true := by
  obtain ⟨row, hrow, hequal⟩ := List.any_eq_true.1 h
  refine ⟨row, hrow, ?_⟩
  unfold Row.cell
  cases hget : row.get? e.idField with
  | none => rw [hget] at hequal; cases hequal
  | some v => rw [hget] at hequal; exact hequal

/-- What an accepted batch begins with: a row that is not there yet. -/
theorem of_insertAll_cons {draws : List String} {input : Row} {inputs stored : List Row} {t t' : Table}
    (h : insertAll e draws (input :: inputs) t = .ok (stored, t')) :
    ∃ rest, hasId e ((prepare e (draws.headD "") input t.lastId).1.cell e.idField) t.rows = false ∧
      insertAll e draws.tail inputs ⟨t.rows ++ [(prepare e (draws.headD "") input t.lastId).1],
        (prepare e (draws.headD "") input t.lastId).2⟩ = .ok (rest, t') ∧
      stored = (prepare e (draws.headD "") input t.lastId).1 :: rest := by
  unfold insertAll at h
  dsimp only at h
  split at h
  · cases h
  · rename_i hfresh
    cases hrest : insertAll e draws.tail inputs ⟨t.rows ++ [(prepare e (draws.headD "") input t.lastId).1],
        (prepare e (draws.headD "") input t.lastId).2⟩ with
    | error error => rw [hrest] at h; cases h
    | ok result =>
      rw [hrest] at h
      cases h
      exact ⟨result.1, Bool.eq_false_iff.2 hfresh, rfl, rfl⟩

theorem Represents.insertAll (hid : e.hasColumn e.idField = true) : ∀ {inputs stored : List Row} {draws : List String}
    {t t' : Table}, t.Represents e → insertAll e draws inputs t = .ok (stored, t') → t'.Represents e
  | [], _, _, _, _, h, hins => by cases hins; exact h
  | input :: inputs, _, draws, t, t', h, hins => by
    obtain ⟨rest, hfresh, hins, -⟩ := of_insertAll_cons hins
    refine Represents.insertAll hid ⟨fun row hrow => ?_, ?_⟩ hins
    · rcases List.mem_append.1 hrow with hold | hnew
      · exact h.keys row hold
      · rw [List.mem_singleton.1 hnew]
        exact keys_prepare e _ input _
    · refine List.pairwise_append.2 ⟨h.apart, List.pairwise_singleton _ _, fun earlier hearlier later hlater => ?_⟩
      rw [List.mem_singleton.1 hlater]
      exact not_equal_of_hasId hid h.keys hfresh earlier hearlier

theorem Represents.updateRows {t : Table} (h : t.Represents e) (changes : Row) (filter : List Predicate) :
    Represents ⟨Table.updateRows e changes filter t.rows, t.lastId⟩ e := by
  refine ⟨fun row hrow => ?_, ?_⟩
  · obtain ⟨before, hbefore, rfl⟩ := List.mem_map.1 hrow
    split
    · exact keys_assign changes (h.keys before hbefore)
    · exact h.keys before hbefore
  · -- the identifiers are the same ones, so they are still apart
    have hcells : (t.rows.map (Row.cell · e.idField)).Pairwise fun a b => Cell.equal a b = false :=
      List.pairwise_map.2 h.apart
    rw [← cells_updateRows_id e changes filter] at hcells
    exact List.pairwise_map.1 hcells

theorem Represents.filter {t : Table} (h : t.Represents e) (keep : Row → Bool) :
    Represents ⟨t.rows.filter keep, t.lastId⟩ e :=
  ⟨fun row hrow => h.keys row (List.mem_filter.1 hrow).1, h.apart.filter keep⟩

/-! ## The counter -/

/-- The last identifier that can be counted to. -/
def maxId : Int := 9223372036854775807

/-- **The counter is behind no identifier.** -/
structure Counts (t : Table) (e : Entity) : Prop where
  nonneg : 0 ≤ t.lastId
  covers : ∀ row ∈ t.rows, ∀ i, (row.cell e.idField).int64? = some i → i ≤ t.lastId

theorem counts_empty (e : Entity) : Counts .empty e := ⟨Int.le_refl 0, by simp [empty]⟩

theorem le_maxId_of_int64? {v : Json} {i : Int} (h : v.int64? = some i) : i ≤ maxId := by
  unfold Json.int64? at h
  unfold maxId
  split at h
  · split at h
    · rename_i hrange
      cases h
      simp at hrange
      omega
    · cases h
  · cases h

theorem wrapSigned64_of_mem {i : Int} (hlow : -9223372036854775808 ≤ i) (hhigh : i ≤ maxId) : wrapSigned64 i = i := by
  unfold maxId at hhigh
  unfold wrapSigned64
  rw [Int.bmod_def]
  omega

theorem inSigned64_wrapSigned64 (i : Int) : inSigned64 (wrapSigned64 i) = true := by
  unfold inSigned64 wrapSigned64
  rw [Int.bmod_def]
  simp only [Bool.and_eq_true, decide_eq_true_eq]
  omega

theorem le_countId (e : Entity) (row : Row) (lastId : Int) : lastId ≤ countId e row lastId := by
  unfold countId
  split <;> omega

theorem countId_covers {row : Row} {lastId i : Int} (h : (row.cell e.idField).int64? = some i) :
    i ≤ countId e row lastId := by
  unfold countId
  rw [h]
  exact Int.le_max_right _ _

theorem countId_le_maxId {row : Row} {lastId : Int} (h : lastId ≤ maxId) : countId e row lastId ≤ maxId := by
  unfold countId
  split
  · rename_i n hn
    exact Int.max_le.2 ⟨h, le_maxId_of_int64? hn⟩
  · exact h

/-- Before its end the counter does not go back. -/
theorem freshId_snd (e : Entity) (draw : String) {lastId : Int} (hnonneg : 0 ≤ lastId) (hbelow : lastId < maxId) :
    lastId ≤ (freshId e draw lastId).2 ∧ (freshId e draw lastId).2 ≤ maxId := by
  have hnext : wrapSigned64 (lastId + 1) = lastId + 1 := wrapSigned64_of_mem (by omega) (by omega)
  unfold freshId
  split <;> dsimp only <;> omega

/-- **The counter behind a row** covers the row, and whatever it covered before. -/
theorem prepare_counts (e : Entity) (draw : String) (input : Row) {lastId : Int} (hnonneg : 0 ≤ lastId)
    (hbelow : lastId < maxId) :
    lastId ≤ (prepare e draw input lastId).2 ∧ (prepare e draw input lastId).2 ≤ maxId ∧
      ∀ i, ((prepare e draw input lastId).1.cell e.idField).int64? = some i → i ≤ (prepare e draw input lastId).2 := by
  unfold prepare
  split
  · exact ⟨le_countId _ _ _, countId_le_maxId (Int.le_of_lt hbelow), fun i hi => countId_covers hi⟩
  · obtain ⟨hle, hmax⟩ := freshId_snd e draw hnonneg hbelow
    exact ⟨Int.le_trans hle (le_countId _ _ _), countId_le_maxId hmax, fun i hi => countId_covers hi⟩

/-- The counters behind the rows of a batch. -/
def countersOf (e : Entity) : List String → List Row → Int → List Int
  | _, [], _ => []
  | draws, input :: inputs, lastId =>
    (prepare e (draws.headD "") input lastId).2 ::
      countersOf e draws.tail inputs (prepare e (draws.headD "") input lastId).2

theorem Counts.insertAll : ∀ {inputs stored : List Row} {draws : List String} {t t' : Table}, t.Counts e →
    t.lastId < maxId → maxId ∉ countersOf e draws inputs t.lastId → insertAll e draws inputs t = .ok (stored, t') →
      t'.Counts e ∧ t'.lastId < maxId
  | [], _, _, _, _, h, hbelow, _, hins => by cases hins; exact ⟨h, hbelow⟩
  | input :: inputs, _, draws, t, t', h, hbelow, hcounters, hins => by
    obtain ⟨rest, -, hins, -⟩ := of_insertAll_cons hins
    obtain ⟨hle, hmax, hcovers⟩ := prepare_counts e (draws.headD "") input h.nonneg hbelow
    obtain ⟨hnot, hcounters⟩ := not_or.1 (mt List.mem_cons.2 hcounters)
    have hbelow' : (prepare e (draws.headD "") input t.lastId).2 < maxId := by omega
    refine Counts.insertAll ⟨Int.le_trans h.nonneg hle, fun row hrow i hi => ?_⟩ hbelow' hcounters hins
    rcases List.mem_append.1 hrow with hold | hnew
    · exact Int.le_trans (h.covers row hold i hi) hle
    · rw [List.mem_singleton.1 hnew] at hi
      exact hcovers i hi

end Table

/-! ## Runs of calls -/

/-- A call to the memory store, with the texts that are drawn for identifiers. -/
inductive StoreStep where
  | rows (draws : List String) (call : RowCall)
  | count (filter : List Predicate)

namespace StoreStep

/-- The store behind the call, whether it fails or not. -/
def after (e : Entity) : StoreStep → MemoryStore → MemoryStore
  | .rows draws call, s => ((MemoryStore.backend draws).rows e call s).2
  | .count filter, s => ((MemoryStore.backend []).count e filter s).2

/-- The counters that the table of the entity goes through in the call. -/
def counters (e : Entity) : StoreStep → MemoryStore → List Int
  | .rows draws (.insert inputs), s =>
    match Table.insertAll e draws inputs (s.table e) with
    | .ok _ => Table.countersOf e draws inputs (s.table e).lastId
    | .error _ => []
  | _, _ => []

end StoreStep

namespace MemoryStore

variable {e : Entity} {s : MemoryStore}

def afterAll (e : Entity) : List StoreStep → MemoryStore → MemoryStore
  | [], s => s
  | step :: rest, s => afterAll e rest (step.after e s)

def countersOf (e : Entity) : List StoreStep → MemoryStore → List Int
  | [], _ => []
  | step :: rest, s => step.counters e s ++ countersOf e rest (step.after e s)

/-- **A call keeps a table of the entity one.** -/
theorem represents_answer (hid : e.hasColumn e.idField = true) (draws : List String) (call : RowCall)
    (h : (s.table e).Represents e) : ((answer draws e call s).2.table e).Represents e := by
  cases call with
  | select selection => exact h
  | insert inputs =>
    rw [answer_insert]
    split
    · rename_i stored t hins
      rw [table_setTable]
      exact h.insertAll hid hins
    · exact h
  | update changes filter =>
    rw [answer_update, table_setTable]
    exact h.updateRows changes filter
  | delete filter =>
    rw [answer_delete, table_setTable]
    exact h.filter _

/-- A call keeps the counter ahead, unless it comes to its end on the way. -/
theorem counts_after (step : StoreStep) (h : (s.table e).Counts e) (hbelow : (s.table e).lastId < Table.maxId)
    (hcounters : Table.maxId ∉ step.counters e s) :
    ((step.after e s).table e).Counts e ∧ ((step.after e s).table e).lastId < Table.maxId := by
  cases step with
  | count filter => exact ⟨h, hbelow⟩
  | rows draws call =>
    show ((answer draws e call s).2.table e).Counts e ∧ ((answer draws e call s).2.table e).lastId < Table.maxId
    cases call with
    | select selection => exact ⟨h, hbelow⟩
    | insert inputs =>
      rw [answer_insert]
      split
      · rename_i stored t hins
        simp only [StoreStep.counters, hins] at hcounters
        rw [table_setTable]
        exact h.insertAll hbelow hcounters hins
      · exact ⟨h, hbelow⟩
    | update changes filter =>
      rw [answer_update, table_setTable]
      exact ⟨⟨h.nonneg, Table.forall_id_updateRows (q := fun id => ∀ i, id.int64? = some i → i ≤ _) h.covers⟩, hbelow⟩
    | delete filter =>
      rw [answer_delete, table_setTable]
      exact ⟨⟨h.nonneg, fun row hrow => h.covers row (List.mem_filter.1 hrow).1⟩, hbelow⟩

theorem represents_afterAll (hid : e.hasColumn e.idField = true) : ∀ (steps : List StoreStep) {s : MemoryStore},
    (s.table e).Represents e → ((s.afterAll e steps).table e).Represents e
  | [], _, h => h
  | .rows draws call :: rest, _, h => represents_afterAll hid rest (represents_answer hid draws call h)
  | .count _ :: rest, _, h => represents_afterAll hid rest h

theorem counts_afterAll : ∀ (steps : List StoreStep) {s : MemoryStore}, (s.table e).Counts e →
    (s.table e).lastId < Table.maxId → Table.maxId ∉ s.countersOf e steps → ((s.afterAll e steps).table e).Counts e
  | [], _, h, _, _ => h
  | step :: rest, s, h, hbelow, hcounters => by
    obtain ⟨hstep, hrest⟩ := not_or.1 (mt List.mem_append.2 hcounters)
    obtain ⟨hafter, hbelow⟩ := counts_after step h hbelow hstep
    exact counts_afterAll rest hafter hbelow hrest

/-- **Whatever calls are made for an entity, from the empty store on**, its table has the columns of the entity, each
once, and identifiers that are apart; the counter is behind none of them, as long as it has not come to its end; and
changes keep the identifiers. -/
theorem represents_of_calls {e : Entity} (hnames : e.columnNames.Nodup) (hid : e.hasColumn e.idField = true)
    (steps : List StoreStep) :
    ((empty.afterAll e steps).table e).Represents e ∧
      (∀ row ∈ (empty.afterAll e steps).rowsOf e, row.keys.Nodup) ∧
      (Table.maxId ∉ empty.countersOf e steps → ((empty.afterAll e steps).table e).Counts e) ∧
      ∀ (draws : List String) (changes : Row) (filter : List Predicate),
        ((answer draws e (.update changes filter) (empty.afterAll e steps)).2.rowsOf e).map (Row.cell · e.idField) =
            ((empty.afterAll e steps).rowsOf e).map (Row.cell · e.idField) ∧
          (answer draws e (.update changes filter) (empty.afterAll e steps)).1.map (List.map (Row.cell · e.idField)) =
            .ok (((empty.afterAll e steps).visible e filter).map (Row.cell · e.idField)) := by
  have hrepresents := represents_afterAll hid steps (s := empty) (Table.represents_empty e)
  refine ⟨hrepresents, fun row hrow => hrepresents.keys row hrow ▸ hnames, fun hcounters => ?_,
    fun draws changes filter => ⟨?_, ?_⟩⟩
  · have hbelow : (0 : Int) < Table.maxId := by decide
    exact counts_afterAll steps (Table.counts_empty e) hbelow hcounters
  · rw [answer_update, rowsOf, table_setTable]
    exact Table.cells_updateRows_id e changes filter _
  · rw [answer_update]
    refine congrArg Except.ok ?_
    rw [List.map_map]
    exact List.map_congr_left fun row _ => Table.cell_assign_id e changes row

end MemoryStore

namespace Notes

/-- Notes that are counted. -/
def counted : Entity := { entity [] with idType := .bigint }

/-- A batch of a note with the number 7 and the next one, one that is refused for its second note, and changes that name
the identifier. -/
def countedSteps : List StoreStep :=
  [.rows [] (.insert [[("id", .num (.int 7))], [("title", .str "draft"), ("colour", .str "red")]]),
   .rows [] (.insert [[("id", .num (.int 9))], [("id", .num (.int 8))]]),
   .rows [] (.update [("id", .num (.int 1)), ("title", .str "final")] [.eq "id" (.num (.int 8))]),
   .count [], .rows [] (.delete [.eq "title" (.str "final")])]

end Notes

theorem MemoryStore.represents_of_calls_notes :
    Notes.counted.columnNames.Nodup ∧ Notes.counted.hasColumn Notes.counted.idField = true ∧
      ((MemoryStore.empty.afterAll Notes.counted Notes.countedSteps).table Notes.counted).Represents Notes.counted ∧
      ((MemoryStore.empty.afterAll Notes.counted Notes.countedSteps).table Notes.counted).Counts Notes.counted := by
  have hnames : Notes.counted.columnNames.Nodup := by decide
  have hcounters : Table.maxId ∉ MemoryStore.empty.countersOf Notes.counted Notes.countedSteps := by decide +kernel
  obtain ⟨hrepresents, -, hcounts, -⟩ := MemoryStore.represents_of_calls hnames rfl Notes.countedSteps
  exact ⟨hnames, rfl, hrepresents, hcounts hcounters⟩

end RecordService
