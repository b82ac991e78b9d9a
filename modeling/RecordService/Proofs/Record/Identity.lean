import RecordService.Proofs.Number.Double
import RecordService.Proofs.Record.Reachable
/-!
# Identity — which row an integer names

The store compares numbers as doubles, so that two integers of more than 53 binary digits may be one identifier to it.
In a reachable store an integer names no other row than its own exactly when no other identifier is rounded to the same
double (`names_only_iff`), as is always so for integers of fewer digits (`names_only_of_small`).
-/
namespace RecordService

/-! ## Integers as cells -/

theorem Cell.equal_int (i j : Int) :
    Cell.equal (.num (.int i)) (.num (.int j)) = ((Double.ofInt i).toInt == (Double.ofInt j).toInt) := by
  simp [equal, isNumber, real?, Number.toDouble, ExtendedDouble.equals, ExtendedDouble.compare?]

/-- A time equals no number. -/
theorem Cell.equal_time {now : String} (h : Text.HasZone now) (n : Number) : Cell.equal (.str now) (.num n) = false := by
  simp [equal, isNumber, real?, Text.readDouble_of_hasZone h]

/-! ## Rows that are spared -/

namespace MemoryStore

/-- A call within the view leaves the rows outside of it, in their order, as far as changes keep them there. -/
theorem filter_rowsOf_answer {e : Entity} {view : List Predicate} {call : RowCall} {s : MemoryStore} {keep : Row → Bool}
    (draws : List String) (hc : call.Within view)
    (hspared : ∀ row ∈ s.rowsOf e, row.satisfies view = true → keep row = false)
    (hkeep : ∀ changes row : Row, keep (Table.assign e changes row) = keep row) :
    ((answer draws e call s).2.rowsOf e).filter keep = (s.rowsOf e).filter keep := by
  cases call with
  | select selection => rfl
  | insert rows => exact hc.elim
  | update changes filter =>
    rw [answer_update, rowsOf, rowsOf, table_setTable]
    refine Table.filter_updateRows_of_spared fun row hrow hf => ?_
    rw [hkeep]
    exact ⟨hspared row hrow (hc row hf), hspared row hrow (hc row hf)⟩
  | delete filter =>
    rw [answer_delete, rowsOf, rowsOf, table_setTable]
    exact Table.filter_delete_of_spared fun row hrow hf => hspared row hrow (hc row hf)

end MemoryStore

theorem Intent.filter_rowsOf_runOn {p : Pipeline} {o : Occasion} {i : Intent} {view : List Predicate} {s : MemoryStore}
    {keep : Row → Bool} (hi : i.Within p view)
    (hspared : ∀ row ∈ s.rowsOf p.entity, row.satisfies view = true → keep row = false)
    (hkeep : ∀ changes row : Row, keep (Table.assign p.entity changes row) = keep row) :
    ((i.runOn p o s).2.rowsOf p.entity).filter keep = (s.rowsOf p.entity).filter keep := by
  rcases i.after_cases p o s with hsame | ⟨c, hc, hafter⟩
  · rw [hsame]
  · rw [hafter]
    refine MemoryStore.filter_rowsOf_answer o.draws ?_ hspared hkeep
    cases i with
    | call c' outcome => cases hc; exact hi
    | expunge id filter => cases hc; exact hi.1
    | _ => cases hc

/-- An entity that has all its parts has a column for the identifier. -/
theorem Entity.hasColumn_of_checkParts {e : Entity} (h : e.checkParts = .ok ()) : e.hasColumn e.idField = true := by
  unfold checkParts at h
  split at h
  · cases h
  · split at h
    · cases h
    · rename_i hcolumn
      simpa using hcolumn

/-! ## Naming a row -/

/-- The identifier of the row is the integer. -/
def Entity.names (e : Entity) (i : Int) (row : Row) : Bool := (row.cell e.idField).int64? == some i

theorem Entity.names_assign (e : Entity) (i : Int) (changes row : Row) :
    e.names i (Table.assign e changes row) = e.names i row := by
  rw [names, names, Table.cell_assign_id]

/-- **The integer names its own row and no other**, for whatever operation. -/
structure NamesOnly (e : Entity) (s : MemoryStore) (i : Int) : Prop where
  /-- To alter the record leaves every other row as it is, and where it is. -/
  kept : ∀ (scope : Scope) (o : Occasion) (id : Json) (request : Request),
    e.validators.idFor o.context id = .ok (.num (.int i)) → request.Alters id →
    (((Pipeline.plain e scope).runOn o request s).2.rowsOf e).filter (fun row => !e.names i row) =
      (s.rowsOf e).filter fun row => !e.names i row
  /-- To ask for the record finds no other row. -/
  found : ∀ (scope : Scope) (o : Occasion) (id : Json) (includeDeleted : Bool) (row : Row),
    e.validators.idFor o.context id = .ok (.num (.int i)) →
    ((Pipeline.plain e scope).runOn o (Pipeline.lookup e id includeDeleted) s).1 = .ok (.found (some row)) →
      e.names i row = true
  /-- A new record with the identifier is a duplicate only where it is stored. -/
  duplicate : ∀ (scope : Scope) (o : Occasion) (id : Json) (body : Row),
    e.validators.idFor o.context id = .ok (.num (.int i)) → body.get? e.idField = some id →
    ((Pipeline.plain e scope).runOn o (.create (.obj body)) s).1 = .error (Table.duplicate e (.num (.int i))) →
      ∃ row ∈ s.rowsOf e, e.names i row = true

section
variable {e : Entity} {s : MemoryStore} {i : Int}

/-- In the table of a reachable store, what equals the integer has an integer with the same double for its identifier. -/
theorem equal_int_iff (hnumbered : (s.table e).Numbered e) {row : Row} (hrow : row ∈ s.rowsOf e) :
    Cell.equal (row.cell e.idField) (.num (.int i)) = true ↔
      ∃ j, (row.cell e.idField).int64? = some j ∧ (Double.ofInt j).toInt = (Double.ofInt i).toInt := by
  rcases hnumbered row hrow with ⟨j, hj, hcell⟩ | ⟨now, hnow, hcell⟩
  · have hint : (Json.num (.int j)).int64? = some j := IdType.integer?_int hj
    rw [hcell, Cell.equal_int, hint, beq_iff_eq]
    simp
  · rw [hcell, Cell.equal_time hnow]
    simp [Json.int64?]

/-! ### Identifiers that are apart -/

section
variable (hcolumn : e.hasColumn e.idField = true) (hnumbered : (s.table e).Numbered e)
  (hapart : ∀ row ∈ s.rowsOf e, ∀ j, (row.cell e.idField).int64? = some j →
    (Double.ofInt j).toInt = (Double.ofInt i).toInt → j = i)
include hnumbered hapart

/-- Of the rows that equal the integer only its own is there. -/
theorem names_of_equal {row : Row} (hrow : row ∈ s.rowsOf e)
    (hequal : Cell.equal (row.cell e.idField) (.num (.int i)) = true) : e.names i row = true := by
  obtain ⟨j, hj, hdouble⟩ := (equal_int_iff hnumbered hrow).1 hequal
  rw [Entity.names, hj, hapart row hrow j hj hdouble]
  exact beq_self_eq_true _

theorem names_of_satisfies {row : Row} (hrow : row ∈ s.rowsOf e)
    (hsatisfies : row.satisfies [e.idEquals (.num (.int i))] = true) : e.names i row = true := by
  rw [e.satisfies_idEquals rfl] at hsatisfies
  exact names_of_equal hnumbered hapart hrow hsatisfies

theorem kept_of_apart {scope : Scope} {o : Occasion} {id : Json} {request : Request}
    (hid : e.validators.idFor o.context id = .ok (.num (.int i))) (hrequest : request.Alters id) :
    (((Pipeline.plain e scope).runOn o request s).2.rowsOf e).filter (fun row => !e.names i row) =
      (s.rowsOf e).filter fun row => !e.names i row := by
  cases hplan : (Pipeline.plain e scope).plan o request with
  | error error => rw [Pipeline.runOn_of_refusal hplan]
  | ok intent =>
    rw [Pipeline.runOn_of_plan hplan]
    have hwithin := Pipeline.plan_within_id hid hrequest hplan
    refine Intent.filter_rowsOf_runOn hwithin (fun row hrow hsatisfies => ?_) fun changes row => ?_
    · rw [names_of_satisfies hnumbered hapart hrow hsatisfies]
      rfl
    · exact congrArg (!·) (e.names_assign i changes row)

include hcolumn

theorem found_of_apart {scope : Scope} {o : Occasion} {id : Json} {includeDeleted : Bool} {row : Row}
    (hid : e.validators.idFor o.context id = .ok (.num (.int i)))
    (hfound : ((Pipeline.plain e scope).runOn o (Pipeline.lookup e id includeDeleted) s).1 = .ok (.found (some row))) :
    e.names i row = true := by
  rw [Pipeline.runOn_of_plan (Pipeline.plan_lookup hcolumn hid rfl includeDeleted), Intent.runOn_find] at hfound
  have hhead : (s.visible e _).head? = some row := Answer.found.inj (Except.ok.inj hfound)
  obtain ⟨hrow, hsatisfies⟩ := List.mem_filter.1 (List.mem_of_mem_head? hhead)
  exact names_of_satisfies hnumbered hapart hrow (Pipeline.reach_narrows _ _ _ _ row hsatisfies)

theorem stored_of_duplicate {scope : Scope} {o : Occasion} {id : Json} {body : Row}
    (hid : e.validators.idFor o.context id = .ok (.num (.int i))) (hbody : body.get? e.idField = some id)
    (hduplicate : ((Pipeline.plain e scope).runOn o (.create (.obj body)) s).1 =
      .error (Table.duplicate e (.num (.int i)))) : ∃ row ∈ s.rowsOf e, e.names i row = true := by
  cases hplan : (Pipeline.plain e scope).plan o (.create (.obj body)) with
  | error error =>
    rw [Pipeline.runOn_of_refusal hplan] at hduplicate
    obtain ⟨issues, rfl⟩ := Pipeline.validation_of_create_refused hplan
    cases hduplicate
  | ok intent =>
    obtain ⟨input, rfl, hinput⟩ := Pipeline.insert_of_create hcolumn hid rfl hbody hplan
    rw [Pipeline.runOn_create hplan] at hduplicate
    dsimp only at hduplicate
    split at hduplicate
    · rename_i hhas
      obtain ⟨row, hrow, hequal⟩ := Table.exists_equal_of_hasId hhas
      rw [Table.cell_prepare_id hcolumn, hinput] at hequal
      exact ⟨row, hrow, names_of_equal hnumbered hapart hrow hequal⟩
    · cases hduplicate

theorem names_only_of_apart : NamesOnly e s i where
  kept _ _ _ _ hid hrequest := kept_of_apart hnumbered hapart hid hrequest
  found _ _ _ _ _ hid hfound := found_of_apart hcolumn hnumbered hapart hid hfound
  duplicate _ _ _ _ hid hbody hduplicate := stored_of_duplicate hcolumn hnumbered hapart hid hbody hduplicate

end

/-! ### Identifiers that are not -/

theorem Entity.idFor_int (hbigint : e.idType = .bigint) (hi : inSigned64 i = true) :
    e.validators.idFor Context.standard (.num (.int i)) = .ok (.num (.int i)) := by
  show e.idValidator (.num (.int i)) = _
  rw [idValidator, hbigint, IdType.parse, IdType.parseBigint_int hi]

/-- Asked for without a scope and with the deleted rows, the first row that equals the integer is found, and no other
row of a table with identifiers of their own equals that one. -/
theorem lookup_first (hcolumn : e.hasColumn e.idField = true) (hbigint : e.idType = .bigint) (hi : inSigned64 i = true)
    (hrepresents : (s.table e).Represents e) {row : Row} (hrow : row ∈ s.rowsOf e)
    (hequal : Cell.equal (row.cell e.idField) (.num (.int i)) = true) :
    ∃ first, ((Pipeline.plain e .none).runOn ⟨"", [], .standard⟩ (Pipeline.lookup e (.num (.int i)) true) s).1 =
        .ok (.found (some first)) ∧
      (row = first ∨ Cell.equal (first.cell e.idField) (row.cell e.idField) = false) := by
  have hid := Entity.idFor_int hbigint hi
  have hreach : row.satisfies ((Pipeline.plain e .none).reach Context.standard [e.idEquals (.num (.int i))] true) = true := by
    rw [Pipeline.satisfies_reach, Pipeline.view_includeDeleted, e.satisfies_idEquals rfl, hequal]
    rfl
  rw [Pipeline.runOn_of_plan (Pipeline.plan_lookup hcolumn hid rfl true), Intent.runOn_find]
  dsimp only
  generalize (Pipeline.plain e .none).reach Context.standard [e.idEquals (.num (.int i))] true = view at hreach ⊢
  have hvisible : row ∈ s.visible e view := List.mem_filter.2 ⟨hrow, hreach⟩
  have hapart : (s.visible e view).Pairwise fun earlier later =>
      Cell.equal (earlier.cell e.idField) (later.cell e.idField) = false := hrepresents.apart.filter _
  show ∃ first, Except.ok (Answer.found (s.visible e view).head?) = _ ∧ _
  generalize s.visible e view = rows at hvisible hapart ⊢
  cases rows with
  | nil => cases hvisible
  | cons first rest =>
    refine ⟨first, rfl, ?_⟩
    rcases List.mem_cons.1 hvisible with rfl | hrest
    · exact .inl rfl
    · exact .inr ((List.pairwise_cons.1 hapart).1 row hrest)

theorem eq_of_int64? {v : Json} (h : v.int64? = some i) : v = .num (.int i) := by
  unfold Json.int64? at h
  split at h
  · split at h <;> cases h
    rfl
  · cases h

theorem apart_of_names_only (hcolumn : e.hasColumn e.idField = true) (hbigint : e.idType = .bigint)
    (hi : inSigned64 i = true) (hnumbered : (s.table e).Numbered e) (hrepresents : (s.table e).Represents e)
    (h : NamesOnly e s i) : ∀ row ∈ s.rowsOf e, ∀ j, (row.cell e.idField).int64? = some j →
      (Double.ofInt j).toInt = (Double.ofInt i).toInt → j = i := by
  intro row hrow j hj hdouble
  obtain ⟨first, hfound, hfirst⟩ := lookup_first hcolumn hbigint hi hrepresents hrow
    ((equal_int_iff hnumbered hrow).2 ⟨j, hj, hdouble⟩)
  have hnames : (first.cell e.idField).int64? = some i :=
    beq_iff_eq.1 (h.found .none ⟨"", [], .standard⟩ _ true first (Entity.idFor_int hbigint hi) hfound)
  rcases hfirst with rfl | hapart
  · exact Option.some.inj (hj.symm.trans hnames)
  · rw [eq_of_int64? hnames, eq_of_int64? hj, Cell.equal_int, hdouble, beq_self_eq_true] at hapart
    cases hapart

/-! ### The exact condition -/

/-- **In a reachable store an integer names its own row and no other exactly when no identifier but the integer itself is
rounded to the same double.** -/
theorem names_only_iff (hcheck : e.checkParts = .ok ()) (hbigint : e.idType = .bigint) (hs : Reachable e s)
    (hi : inSigned64 i = true) : NamesOnly e s i ↔ ∀ row ∈ s.rowsOf e, ∀ j, (row.cell e.idField).int64? = some j →
      (Double.ofInt j).toInt = (Double.ofInt i).toInt → j = i := by
  have hcolumn := Entity.hasColumn_of_checkParts hcheck
  exact ⟨apart_of_names_only hcolumn hbigint hi (hs.numbered hcolumn hbigint) (hs.represents hcolumn),
    names_only_of_apart hcolumn (hs.numbered hcolumn hbigint)⟩

/-- Integers of less than 53 binary digits name their own rows, whatever is stored. -/
theorem names_only_of_small (hcheck : e.checkParts = .ok ()) (hbigint : e.idType = .bigint) (hs : Reachable e s)
    (hi : i.natAbs < 2 ^ 53) : NamesOnly e s i :=
  names_only_of_apart (Entity.hasColumn_of_checkParts hcheck) (hs.numbered (Entity.hasColumn_of_checkParts hcheck) hbigint)
    fun _ _ _ _ hdouble => Double.eq_of_toInt_ofInt hi hdouble

end

namespace Notes

/-- The first integer behind which not every integer is a double. -/
def large : Request := .create (.obj [("id", .num (.int 9007199254740992)), ("title", .str "draft")])

def largeStore : MemoryStore := ((Pipeline.plain counted .none).runOn (occasion "a") large .empty).2

theorem reachable_largeStore : Reachable counted largeStore :=
  .own .none large rfl (show 'Z' ∈ _ by decide) .empty

theorem rowsOf_largeStore : largeStore.rowsOf counted =
    [[("id", .num (.int 9007199254740992)), ("title", .str "draft"), ("tenant", .null), ("team", .null),
      ("deleted_at", .null)]] := rfl

end Notes

theorem names_only_iff_notes :
    Notes.counted.checkParts = .ok () ∧ Notes.counted.idType = .bigint ∧ Reachable Notes.counted Notes.largeStore ∧
      inSigned64 9007199254740992 = true ∧ NamesOnly Notes.counted Notes.largeStore 9007199254740992 := by
  refine ⟨rfl, rfl, Notes.reachable_largeStore, rfl, ?_⟩
  refine (names_only_iff rfl rfl Notes.reachable_largeStore rfl).2 fun row hrow j hj _ => ?_
  rw [Notes.rowsOf_largeStore] at hrow
  cases List.mem_singleton.1 hrow
  exact (Option.some.inj hj).symm

/-- The next integer is rounded to the same double: who removes the note with that number removes this one. -/
theorem other_note_removed :
    Reachable Notes.counted Notes.largeStore ∧ (Notes.largeStore.rowsOf Notes.counted).length = 1 ∧
      ((Pipeline.plain Notes.counted .none).runOn (Notes.occasion "a") (.permanentDelete (.num (.int 9007199254740993)))
        Notes.largeStore).2.rowsOf Notes.counted = [] ∧
      ¬NamesOnly Notes.counted Notes.largeStore 9007199254740993 := by
  have hremoved : ((Pipeline.plain Notes.counted .none).runOn (Notes.occasion "a")
      (.permanentDelete (.num (.int 9007199254740993))) Notes.largeStore).2.rowsOf Notes.counted = [] :=
    List.isEmpty_iff.1 (by decide +kernel)
  refine ⟨Notes.reachable_largeStore, rfl, hremoved, fun h => ?_⟩
  have hkept := h.kept .none (Notes.occasion "a") (.num (.int 9007199254740993)) _ rfl .permanentDelete
  rw [hremoved, Notes.rowsOf_largeStore] at hkept
  cases hkept

end RecordService
