import RecordService.Proofs.Store.Representation
/-!
# Alterations — rows that are rewritten or removed

The calls that change what is stored are of two kinds: the chosen rows get the same changes written into them, or they
are removed.  Either way a row that was altered once is not altered further (`Row.setAll_setAll`), so that alterations of
one kind that follow each other are one alteration of all the rows that any of them chooses (`MemoryStore.alter_alter`),
and a call that stores no row of its own changes nothing the second time (`MemoryStore.answer_answer`).
-/
namespace RecordService

/-! ## Writing members -/

namespace Row

theorem has_set (row : Row) (name : String) (value : Json) (key : String) :
    (row.set name value).has key = (decide (key = name) || row.has key) := by
  unfold has
  rw [get?_set]
  by_cases h : key = name <;> simp [h]

theorem set_set (name : String) (value value' : Json) : ∀ row : Row,
    (row.set name value).set name value' = row.set name value'
  | [] => by simp [set]
  | (k, v) :: rest => by
    have ih := set_set name value value' rest
    unfold set
    by_cases hk : k = name
    · simp [hk, set]
    · simp [hk, set, ih]

/-- To set a member to what it is changes nothing. -/
theorem set_of_get? {name : String} {value : Json} : ∀ {row : Row}, row.get? name = some value →
    row.set name value = row
  | (k, v) :: rest, h => by
    unfold get? at h
    unfold set
    by_cases hk : k = name
    · rw [if_pos hk] at h ⊢
      rw [Option.some.inj h]
    · rw [if_neg hk] at h ⊢
      rw [set_of_get? h]

/-- A member that is there already keeps its place, so that another one may be set before it or after it. -/
theorem set_comm {name other : String} (hne : name ≠ other) (value value' : Json) : ∀ {row : Row},
    row.has name = true → (row.set name value).set other value' = (row.set other value').set name value
  | (k, v) :: rest, h => by
    by_cases hk : k = name
    · subst hk
      simp [set, hne]
    · have hrest : Row.has rest name = true := by
        simpa [has, get?, hk] using h
      by_cases hother : k = other
      · subst hother
        simp [set, hk]
      · simp [set, hk, hother, set_comm hne value value' hrest]

/-- Sets the members one after the other. -/
def setAll : Row → Row → Row
  | [], row => row
  | (k, v) :: changes, row => setAll changes (row.set k v)

theorem has_setAll {key : String} : ∀ (changes : Row) {row : Row}, row.has key = true →
    (setAll changes row).has key = true
  | [], _, h => h
  | (k, v) :: changes, _, h => has_setAll changes (by rw [has_set, h, Bool.or_true])

/-- A member that is not among the changes is what it was. -/
theorem get?_setAll {key : String} : ∀ {changes : Row} (row : Row), key ∉ changes.keys →
    (setAll changes row).get? key = row.get? key
  | [], _, _ => rfl
  | (k, v) :: changes, row, h => by
    obtain ⟨hk, hrest⟩ := not_or.1 (mt List.mem_cons.2 h)
    rw [setAll, get?_setAll _ hrest, get?_set, if_neg hk]

/-- What is set first is lost when the changes set it again. -/
theorem setAll_set {key : String} (value : Json) : ∀ {changes row : Row}, key ∈ changes.keys → row.has key = true →
    setAll changes (row.set key value) = setAll changes row
  | (k, v) :: changes, row, hmem, hrow => by
    unfold setAll
    by_cases hk : key = k
    · rw [hk, set_set]
    · have hrest : key ∈ Row.keys changes := (List.mem_cons.1 hmem).resolve_left hk
      rw [set_comm hk value v hrow, setAll_set value hrest (by rw [has_set, hrow, Bool.or_true])]

/-- **What was written once is the same when it is written again.** -/
theorem setAll_setAll : ∀ changes row : Row, setAll changes (setAll changes row) = setAll changes row
  | [], _ => rfl
  | (k, v) :: changes, row => by
    have ih := setAll_setAll changes (row.set k v)
    have hset : (row.set k v).get? k = some v := by rw [get?_set, if_pos rfl]
    show setAll changes ((setAll changes (row.set k v)).set k v) = setAll changes (row.set k v)
    by_cases hk : k ∈ Row.keys changes
    · have hhas : (row.set k v).has k = true := by rw [has, hset, Option.isSome_some]
      rw [setAll_set v hk (has_setAll changes hhas), ih]
    · have hsame : (setAll changes (row.set k v)).get? k = some v := (get?_setAll _ hk).trans hset
      rw [set_of_get? hsame, ih]

end Row

namespace Table

variable {e : Entity}

/-- To assign changes is to set the members among them that may be written. -/
theorem assign_eq_setAll (e : Entity) : ∀ changes row : Row, assign e changes row = Row.setAll (e.changesOf changes) row
  | [], _ => rfl
  | (k, v) :: changes, row => by
    have ih := assign_eq_setAll e changes
    unfold assign Entity.changesOf
    by_cases hwritten : (k ≠ e.idField && e.hasColumn k) = true
    · rw [if_pos hwritten, List.filter_cons_of_pos (by simpa using hwritten), Row.setAll, ih]
      rfl
    · rw [if_neg hwritten, List.filter_cons_of_neg (by simpa using hwritten), ih]
      rfl

theorem assign_assign (e : Entity) (changes row : Row) :
    assign e changes (assign e changes row) = assign e changes row := by
  rw [assign_eq_setAll, assign_eq_setAll, Row.setAll_setAll]

/-! ## Altering rows

An alteration is given by the changes that are written into the chosen rows, or by none when these are removed. -/

/-- What becomes of a row that is chosen. -/
def altered (e : Entity) : Option Row → Row → Option Row
  | some changes, row => some (assign e changes row)
  | none, _ => none

theorem altered_altered {edit : Option Row} {row row' : Row} (h : altered e edit row = some row') :
    altered e edit row' = some row' := by
  cases edit with
  | some changes =>
    cases h
    exact congrArg some (assign_assign e changes row)
  | none => cases h

def alter (e : Entity) (edit : Option Row) (chosen : Row → Bool) (rows : List Row) : List Row :=
  rows.filterMap fun row => if chosen row then altered e edit row else some row

/-- **Two alterations of one kind are one, of the rows that either of them chooses**: what the second chooses of the rows
that the first has altered makes no difference. -/
theorem alter_alter (e : Entity) (edit : Option Row) (first second : Row → Bool) (rows : List Row) :
    alter e edit second (alter e edit first rows) = alter e edit (fun row => first row || second row) rows := by
  unfold alter
  rw [List.filterMap_filterMap]
  congr 1
  funext row
  by_cases hfirst : first row = true
  · simp only [hfirst, if_true, Bool.true_or]
    cases haltered : altered e edit row with
    | none => rfl
    | some row' => simp [altered_altered haltered]
  · simp [hfirst]

theorem alter_some (changes : Row) (filter : List Predicate) (rows : List Row) :
    alter e (some changes) (Row.satisfies filter) rows = updateRows e changes filter rows := by
  unfold alter updateRows
  rw [← List.filterMap_eq_map]
  congr 1
  funext row
  unfold altered
  rw [Function.comp_apply]
  split <;> rfl

theorem alter_none (filter : List Predicate) (rows : List Row) :
    alter e none (Row.satisfies filter) rows = rows.filter fun row => !row.satisfies filter := by
  unfold alter
  rw [← List.filterMap_eq_filter]
  congr 1
  funext row
  cases h : row.satisfies filter <;> simp [altered, Option.guard, h]

end Table

/-! ## Altering a store -/

/-- The call that alters the rows of the filter. -/
def RowCall.alteration : Option Row → List Predicate → RowCall
  | some changes, filter => .update changes filter
  | none, filter => .delete filter

namespace MemoryStore

theorem put_put (name : String) (t t' : Table) : ∀ ts : List (String × Table),
    put (put ts name t) name t' = put ts name t'
  | [] => by simp [put]
  | (k, u) :: rest => by
    have ih := put_put name t t' rest
    unfold put
    by_cases hk : k = name
    · simp [hk, put]
    · simp [hk, put, ih]

/-- A table that is put in the place of another leaves no trace of it. -/
theorem setTable_setTable (s : MemoryStore) (e : Entity) (t t' : Table) :
    (s.setTable e t).setTable e t' = s.setTable e t' :=
  congrArg MemoryStore.mk (put_put e.qualifiedName t t' s.tables)

def alter (s : MemoryStore) (e : Entity) (edit : Option Row) (chosen : Row → Bool) : MemoryStore :=
  s.setTable e ⟨Table.alter e edit chosen (s.rowsOf e), (s.table e).lastId⟩

variable {e : Entity} {s : MemoryStore} {draws : List String}

/-- **An alteration answers with the rows of the filter as they are afterwards, or were when they are removed.** -/
theorem answer_alteration (edit : Option Row) (filter : List Predicate) :
    answer draws e (.alteration edit filter) s =
      (.ok ((s.visible e filter).map fun row => (Table.altered e edit row).getD row),
        s.alter e edit (Row.satisfies filter)) := by
  unfold alter rowsOf
  cases edit with
  | some changes =>
    rw [Table.alter_some]
    rfl
  | none =>
    rw [Table.alter_none]
    refine congrArg (fun rows => (Except.ok rows, _)) ?_
    exact (List.map_id (s.visible e filter)).symm

theorem alter_alter (s : MemoryStore) (e : Entity) (edit : Option Row) (first second : Row → Bool) :
    (s.alter e edit first).alter e edit second = s.alter e edit fun row => first row || second row := by
  unfold alter rowsOf
  rw [setTable_setTable, table_setTable, Table.alter_alter]

/-- **A call that stores no row of its own leaves the store as it is when it is made again.** -/
theorem answer_answer {call : RowCall} (h : ∀ rows, call ≠ .insert rows) :
    (answer draws e call (answer draws e call s).2).2 = (answer draws e call s).2 := by
  have halteration : ∀ edit filter, (answer draws e (.alteration edit filter)
      (answer draws e (.alteration edit filter) s).2).2 = (answer draws e (.alteration edit filter) s).2 := by
    intro edit filter
    simp only [answer_alteration, alter_alter, Bool.or_self]
  cases call with
  | select selection => rfl
  | insert rows => exact absurd rfl (h rows)
  | update changes filter => exact halteration (some changes) filter
  | delete filter => exact halteration none filter

end MemoryStore

end RecordService
