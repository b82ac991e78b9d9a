import RecordService.Proofs.Pipeline.Memory
import RecordService.Proofs.Sql.Binding
import RecordService.Store.Call
/-!
# Values — what the text of a statement does not depend on

Forgetting the values of a statement leaves its text as it is (`Statement.sql_erase`), and its parameters are the values
at places that are found without looking at any value (`StoreCall.params_eq_valueAt`).  So two calls that differ in
their values only are written alike, and bind each its own values in the same places (`values_only_bound`).
-/
namespace RecordService

/-! ## Forgetting values -/

def Piece.erase : Piece → Piece
  | .words text => .words text
  | .name identifier => .name identifier
  | .hole cast _ => .hole cast .null

namespace Fragment

def erase (f : Fragment) : Fragment := f.map Piece.erase

theorem write_erase (n : Nat) (f : Fragment) : write n f.erase = write n f := by
  induction f generalizing n with
  | nil => rfl
  | cons piece f ih =>
    cases piece with
    | words text => exact congrArg (text.toList ++ ·) (ih n)
    | name identifier => exact congrArg (quoteName identifier ++ ·) (ih n)
    | hole cast value => exact congrArg ('$' :: (toString (n + 1)).toList ++ castText cast ++ ·) (ih (n + 1))

theorem erase_append (f g : Fragment) : erase (f ++ g) = f.erase ++ g.erase := List.map_append

theorem erase_joined (separator : String) : ∀ fs : List Fragment,
    erase (joined separator fs) = joined separator (fs.map erase)
  | [] => rfl
  | [_] => rfl
  | f :: g :: rest => by
    rw [joined, erase_append, erase_append, erase_joined separator (g :: rest)]
    rfl

theorem erase_parenthesized (f : Fragment) : erase f.parenthesized = f.erase.parenthesized := by
  rw [parenthesized, erase_append, erase_append]
  rfl

/-- Without holes there is nothing to forget. -/
theorem erase_of_params_nil {f : Fragment} (h : f.params = []) : f.erase = f := by
  induction f with
  | nil => rfl
  | cons piece f ih =>
    cases piece with
    | words text => exact congrArg (Piece.words text :: ·) (ih h)
    | name identifier => exact congrArg (Piece.name identifier :: ·) (ih h)
    | hole cast value => cases h

end Fragment

namespace Predicate

mutual
/-- The fields, the operators, the structure and the lengths of the lists. -/
def erase : Predicate → Predicate
  | .compare field op _ => .compare field op .null
  | .oneOf field values negated => .oneOf field (values.map fun _ => .null) negated
  | .isNull field negated => .isNull field negated
  | .and group => .and (eraseAll group)
  | .or group => .or (eraseAll group)
termination_by structural p => p

def eraseAll : List Predicate → List Predicate
  | [] => []
  | p :: rest => erase p :: eraseAll rest
termination_by structural ps => ps
end

mutual
/-- From left to right. -/
def values : Predicate → List Json
  | .compare _ _ value => [value]
  | .oneOf _ values _ => values
  | .isNull _ _ => []
  | .and group => valuesOfAll group
  | .or group => valuesOfAll group
termination_by structural p => p

def valuesOfAll : List Predicate → List Json
  | [] => []
  | p :: rest => values p ++ valuesOfAll rest
termination_by structural ps => ps
end

mutual
theorem values_eq_bindings : ∀ p : Predicate, p.values = p.bindings.map Binding.value
  | .compare _ _ _ => rfl
  | .oneOf _ values _ => by
    rw [bindings, List.map_map]
    exact (List.map_id values).symm
  | .isNull _ _ => rfl
  | .and group => valuesOfAll_eq_bindings group
  | .or group => valuesOfAll_eq_bindings group

theorem valuesOfAll_eq_bindings : ∀ group : List Predicate, valuesOfAll group = (bindingsOfAll group).map Binding.value
  | [] => rfl
  | p :: rest => by
    rw [valuesOfAll, bindingsOfAll, List.map_append, values_eq_bindings p, valuesOfAll_eq_bindings rest]
end

mutual
theorem length_values_erase : ∀ p : Predicate, p.erase.values.length = p.values.length
  | .compare _ _ _ => rfl
  | .oneOf _ _ _ => List.length_map _
  | .isNull _ _ => rfl
  | .and group => length_valuesOfAll_eraseAll group
  | .or group => length_valuesOfAll_eraseAll group

theorem length_valuesOfAll_eraseAll : ∀ group : List Predicate,
    (valuesOfAll (eraseAll group)).length = (valuesOfAll group).length
  | [] => rfl
  | p :: rest => by
    rw [eraseAll, valuesOfAll, valuesOfAll, List.length_append, List.length_append, length_values_erase p,
      length_valuesOfAll_eraseAll rest]
end

end Predicate

/-! ## Conditions -/

namespace Sql

open Fragment

theorem erase_comparison (e : Entity) (field : String) (op : Comparison) (value : Json) :
    (comparison e field op value).erase = comparison e field op .null := by
  unfold comparison
  split <;> rfl

theorem erase_membership (e : Entity) (field : String) (values : List Json) (negated : Bool) :
    (membership e field values negated).erase = membership e field (values.map fun _ => .null) negated := by
  have hholes : (values.map (hole e field)).map erase = (values.map fun _ => .null).map (hole e field) := by
    rw [List.map_map, List.map_map]; rfl
  unfold membership
  rw [List.isEmpty_map]
  split
  · rfl
  · rw [erase_append, erase_parenthesized, commas, erase_joined, hholes]
    rfl

theorem erase_grouped (separator empty : String) (fs : List Fragment) :
    (grouped separator empty fs).erase = grouped separator empty (fs.map erase) := by
  match fs with
  | [] => rfl
  | [_] => rfl
  | f :: g :: rest => exact (erase_parenthesized _).trans (congrArg parenthesized (erase_joined separator (f :: g :: rest)))

mutual
theorem erase_condition (e : Entity) : ∀ p : Predicate, (condition e p).erase = condition e p.erase
  | .compare field op value => erase_comparison e field op value
  | .oneOf field values negated => erase_membership e field values negated
  | .isNull _ _ => rfl
  | .and group => (erase_grouped _ _ _).trans (congrArg _ (erase_conditions e group))
  | .or group => (erase_grouped _ _ _).trans (congrArg _ (erase_conditions e group))

theorem erase_conditions (e : Entity) : ∀ group : List Predicate,
    (conditions e group).map erase = conditions e (Predicate.eraseAll group)
  | [] => rfl
  | p :: rest => congrArg₂ List.cons (erase_condition e p) (erase_conditions e rest)
end

theorem erase_whereClause (e : Entity) (filter : List Predicate) :
    (whereClause e filter).erase = whereClause e (Predicate.eraseAll filter) := by
  cases filter with
  | nil => rfl
  | cons p rest => exact congrArg (_ :: ·) ((erase_joined _ _).trans (congrArg _ (erase_conditions e (p :: rest))))

end Sql

/-! ## Statements -/

def Entry.erase : Entry → Entry
  | .value _ => .value .null
  | .default => .default
  | .null => .null

namespace Statement

open Fragment Predicate

/-- A statement without its values. -/
def erase : Statement → Statement
  | .select s => .select { s with filter := eraseAll s.filter }
  | .count filter => .count (eraseAll filter)
  | .insert columns tuples => .insert columns (tuples.map (List.map Entry.erase))
  | .update changes filter => .update (changes.map fun c => (c.1, .null)) (eraseAll filter)
  | .delete filter => .delete (eraseAll filter)

/-! ### The text -/

theorem erase_tuple (e : Entity) (columns : List String) (entries : List Entry) :
    (tuple e columns entries).erase = tuple e columns (entries.map Entry.erase) := by
  have hentries : (List.zipWith (entryFragment e) columns entries).map Fragment.erase =
      List.zipWith (entryFragment e) columns (entries.map Entry.erase) := by
    rw [List.map_zipWith, List.zipWith_map_right]
    congr
    funext column entry
    cases entry <;> rfl
  rw [tuple, erase_parenthesized, commas, erase_joined, hentries]
  rfl

theorem fragment_erase (e : Entity) (s : Statement) : (s.fragment e).erase = s.erase.fragment e := by
  have hlist := erase_of_params_nil (params_columnList e)
  have hreturning := erase_of_params_nil (params_returning e)
  cases s with
  | select s =>
    have horder := erase_of_params_nil (params_orderClause e s.orderBy)
    have hlimit := erase_of_params_nil (params_windowClause " LIMIT " s.limit)
    have hoffset := erase_of_params_nil (params_windowClause " OFFSET " s.offset)
    simp only [fragment, erase_append, hlist, horder, hlimit, hoffset, Sql.erase_whereClause]
    rfl
  | count filter =>
    simp only [fragment, erase_append, Sql.erase_whereClause]
    rfl
  | insert columns tuples =>
    have hcolumns : (commas (columns.map fun c => [.name c])).erase = commas (columns.map fun c => [.name c]) :=
      erase_of_params_nil (params_commas_nil (fun _ => rfl) columns)
    have htuples : (tuples.map (tuple e columns)).map Fragment.erase =
        (tuples.map (List.map Entry.erase)).map (tuple e columns) := by
      rw [List.map_map, List.map_map]
      exact List.map_congr_left fun entries _ => erase_tuple e columns entries
    simp only [fragment, erase_append, hcolumns, hreturning]
    rw [commas, commas, erase_joined, htuples]
    rfl
  | update changes filter =>
    have hchanges : (changes.map (assignment e)).map Fragment.erase =
        (changes.map fun c => (c.1, Json.null)).map (assignment e) := by
      rw [List.map_map, List.map_map]
      rfl
    simp only [fragment, erase_append, hreturning, Sql.erase_whereClause]
    rw [commas, erase_joined, hchanges]
    rfl
  | delete filter =>
    simp only [fragment, erase_append, hreturning, Sql.erase_whereClause]
    rfl

/-- **The text of a statement does not depend on its values.** -/
theorem sql_erase (s : Statement) : s.erase.sql e = s.sql e := by
  rw [sql, sql, Fragment.sql, Fragment.sql, ← fragment_erase, write_erase]

end Statement

/-! ## Calls -/

/-- Where a call has a value. -/
inductive Place where
  /-- Among the values of the filter, from left to right. -/
  | operand (n : Nat)
  | change (n : Nat)
  | cell (row : Nat) (column : String)

/-- Whether a change to the column can be made. -/
def Statement.assignable (e : Entity) (column : String) : Bool := column ≠ e.idField && e.hasColumn column

/-- Gives a note another title, and tries to give it another identifier. -/
def Notes.retitle (title tenant : Json) : StoreCall :=
  .rows (.update [("id", .str "2"), ("title", title)] [.eq "tenant" tenant])

namespace StoreCall

open Predicate Statement

def valueAt : StoreCall → Place → Option Json
  | .rows (.select s), .operand n => (valuesOfAll s.filter)[n]?
  | .rows (.insert inputs), .cell n column => inputs[n]?.bind (Row.get? · column)
  | .rows (.update changes _), .change n => changes[n]?.map Prod.snd
  | .rows (.update _ filter), .operand n => (valuesOfAll filter)[n]?
  | .rows (.delete filter), .operand n => (valuesOfAll filter)[n]?
  | .count filter, .operand n => (valuesOfAll filter)[n]?
  | _, _ => none

/-- **The calls differ in their values only**: in the operands of their filters, in the cells of the rows, which have
the same columns row by row, and in what they change columns to. -/
inductive Alike : StoreCall → StoreCall → Prop where
  | select {filter filter' : List Predicate} (orderBy : List OrderBy) (limit offset : Option Nat) :
      eraseAll filter = eraseAll filter' →
        Alike (.rows (.select ⟨filter, orderBy, limit, offset⟩)) (.rows (.select ⟨filter', orderBy, limit, offset⟩))
  | insert {inputs inputs' : List Row} : inputs.map Row.has = inputs'.map Row.has →
      Alike (.rows (.insert inputs)) (.rows (.insert inputs'))
  | update {changes changes' : Row} {filter filter' : List Predicate} : changes.keys = changes'.keys →
      eraseAll filter = eraseAll filter' → Alike (.rows (.update changes filter)) (.rows (.update changes' filter'))
  | delete {filter filter' : List Predicate} : eraseAll filter = eraseAll filter' →
      Alike (.rows (.delete filter)) (.rows (.delete filter'))
  | count {filter filter' : List Predicate} : eraseAll filter = eraseAll filter' →
      Alike (.count filter) (.count filter')

/-! ### The text -/

theorem insertColumns_congr (e : Entity) {rows rows' : List Row} (h : rows.map Row.has = rows'.map Row.has) :
    insertColumns e rows = insertColumns e rows' := by
  have hprovided : ∀ name, provided rows name = provided rows' name := by
    intro name
    have hany : ∀ l : List Row, provided l name = (l.map Row.has).any (· name) := fun l => by
      rw [List.any_map]; rfl
    rw [hany, hany, h]
  simp only [insertColumns, hprovided]

theorem erase_entry (e : Entity) (row : Row) (column : String) : (entry e row column).erase =
    if row.has column then .value .null else if hasDefault e column then .default else .null := by
  unfold entry Row.has
  cases row.get? column with
  | some v => rfl
  | none =>
    show Entry.erase (if hasDefault e column then .default else .null) = _
    cases hasDefault e column <;> rfl

theorem erase_ofInsert (e : Entity) (inputs : List Row) : (ofInsert e inputs).erase =
    .insert (insertColumns e inputs) ((inputs.map Row.has).map fun has => (insertColumns e inputs).map fun column =>
      if has column then .value .null else if hasDefault e column then .default else .null) := by
  have htuple : ∀ row, ((insertColumns e inputs).map (entry e row)).map Entry.erase =
      (insertColumns e inputs).map fun column =>
        if row.has column then .value .null else if hasDefault e column then .default else .null := by
    intro row
    rw [List.map_map]
    exact List.map_congr_left fun column _ => erase_entry e row column
  refine congrArg (Statement.insert (insertColumns e inputs)) ?_
  rw [List.map_map, List.map_map]
  exact List.map_congr_left fun row _ => htuple row

theorem settable_keys (e : Entity) (changes : Row) :
    (settable e changes).map (fun c => (c.1, Json.null)) = (changes.keys.filter (assignable e)).map (·, Json.null) := by
  rw [Row.keys, List.filter_map, List.map_map]
  rfl

theorem erase_ofUpdate (e : Entity) (changes : Row) (filter : List Predicate) : (ofUpdate e changes filter).erase =
    if (changes.keys.filter (assignable e)).isEmpty then .select (.allOf (eraseAll filter))
    else .update ((changes.keys.filter (assignable e)).map (·, .null)) (eraseAll filter) := by
  have hempty : (settable e changes).isEmpty = (changes.keys.filter (assignable e)).isEmpty := by
    have hkeys := congrArg List.isEmpty (settable_keys e changes)
    rwa [List.isEmpty_map, List.isEmpty_map] at hkeys
  rw [ofUpdate, hempty, ← settable_keys]
  split <;> rfl

theorem erase_statement (e : Entity) {c d : StoreCall} (h : Alike c d) :
    (c.statement e).erase = (d.statement e).erase := by
  cases h with
  | select orderBy limit offset h => exact congrArg (fun f => Statement.select ⟨f, orderBy, limit, offset⟩) h
  | @insert inputs inputs' h =>
    show (ofInsert e inputs).erase = (ofInsert e inputs').erase
    rw [erase_ofInsert, erase_ofInsert, insertColumns_congr e h, h]
  | @update changes changes' filter filter' hkeys h =>
    show (ofUpdate e changes filter).erase = (ofUpdate e changes' filter').erase
    rw [erase_ofUpdate, erase_ofUpdate, hkeys, h]
  | delete h => exact congrArg Statement.delete h
  | count h => exact congrArg Statement.count h

/-! ### The parameters -/

def operands (filter : List Predicate) : List Place := (List.range (valuesOfAll filter).length).map .operand

/-- The places of the values that are bound. -/
def places (e : Entity) : StoreCall → List Place
  | .rows (.select s) => operands s.filter
  | .rows (.insert inputs) =>
    (inputs.map Row.has).zipIdx.flatMap fun (has, n) => ((insertColumns e inputs).filter has).map (.cell n)
  | .rows (.update changes filter) =>
    (changes.keys.zipIdx.filter fun (key, _) => assignable e key).map (.change ·.2) ++ operands filter
  | .rows (.delete filter) => operands filter
  | .count filter => operands filter

theorem operands_congr {filter filter' : List Predicate} (h : eraseAll filter = eraseAll filter') :
    operands filter = operands filter' := by
  unfold operands
  rw [← length_valuesOfAll_eraseAll filter, h, length_valuesOfAll_eraseAll]

theorem places_congr (e : Entity) {c d : StoreCall} (h : Alike c d) : c.places e = d.places e := by
  cases h with
  | select orderBy limit offset h => exact operands_congr h
  | insert h => rw [places, places, insertColumns_congr e h, h]
  | update hkeys h => rw [places, places, hkeys, operands_congr h]
  | delete h => exact operands_congr h
  | count h => exact operands_congr h

theorem map_operands (filter : List Predicate) {find : Place → Option Json}
    (hfind : ∀ n, find (.operand n) = (valuesOfAll filter)[n]?) : (operands filter).map find = (valuesOfAll filter).map some := by
  unfold operands
  rw [List.map_map]
  refine List.ext_getElem (by simp) fun n hn hn' => ?_
  have hlt : n < (valuesOfAll filter).length := by simpa using hn'
  simp [hfind, List.getElem?_eq_getElem hlt]

/-- The cells of a row under the columns that it has. -/
theorem map_get?_filter_has (row : Row) (columns : List String) :
    (columns.filter row.has).map row.get? = (columns.filterMap row.get?).map some := by
  induction columns with
  | nil => rfl
  | cons column rest ih =>
    cases hcell : row.get? column with
    | none =>
      have hhas : ¬ row.has column = true := by simp [Row.has, hcell]
      rw [List.filter_cons_of_neg hhas, List.filterMap_cons_none hcell, ih]
    | some v =>
      have hhas : row.has column = true := by simp [Row.has, hcell]
      rw [List.filter_cons_of_pos hhas, List.filterMap_cons_some hcell, List.map_cons, List.map_cons, ih, hcell]

/-- The values that a call binds: the values that are set before the operands of the filter, the operands from left to
right, and the cells row by row, in the order of the columns that are written. -/
def bound (e : Entity) : StoreCall → List Json
  | .rows (.select s) => valuesOfAll s.filter
  | .rows (.insert inputs) => inputs.flatMap fun row => (insertColumns e inputs).filterMap row.get?
  | .rows (.update changes filter) => (settable e changes).map Prod.snd ++ valuesOfAll filter
  | .rows (.delete filter) => valuesOfAll filter
  | .count filter => valuesOfAll filter

theorem params_eq_bound (e : Entity) (c : StoreCall) : (c.statement e).params e = c.bound e := by
  rw [params_eq_bindings]
  match c with
  | .rows (.select s) => exact (valuesOfAll_eq_bindings s.filter).symm
  | .rows (.insert inputs) =>
    rw [bindings, bound, List.map_flatMap]
    refine List.flatMap_congr fun row _ => ?_
    rw [List.map_filterMap]
    congr
    funext column
    cases row.get? column <;> rfl
  | .rows (.update changes filter) =>
    rw [bindings, bound, List.map_append, List.map_map, valuesOfAll_eq_bindings]
    rfl
  | .rows (.delete filter) => exact (valuesOfAll_eq_bindings filter).symm
  | .count filter => exact (valuesOfAll_eq_bindings filter).symm

theorem map_cells (e : Entity) (inputs : List Row) :
    (places e (.rows (.insert inputs))).map (valueAt (.rows (.insert inputs))) =
      (inputs.flatMap fun row => (insertColumns e inputs).filterMap row.get?).map some := by
  have hrow : ∀ x ∈ inputs.zipIdx,
      (((insertColumns e inputs).filter x.1.has).map (Place.cell x.2)).map (valueAt (.rows (.insert inputs))) =
        ((insertColumns e inputs).filterMap x.1.get?).map some := by
    intro x hx
    have hcell : ∀ column, valueAt (.rows (.insert inputs)) (.cell x.2 column) = x.1.get? column := by
      intro column
      show inputs[x.2]?.bind (Row.get? · column) = _
      rw [List.mem_zipIdx_iff_getElem?.1 hx]
      rfl
    rw [List.map_map, ← map_get?_filter_has]
    exact List.map_congr_left fun column _ => hcell column
  have hfst := List.flatMap_map Prod.fst (fun row : Row => ((insertColumns e inputs).filterMap row.get?).map some)
    inputs.zipIdx
  rw [List.zipIdx_map_fst] at hfst
  rw [places, List.map_flatMap, List.map_flatMap, List.zipIdx_map, List.flatMap_map, hfst]
  exact List.flatMap_congr hrow

theorem map_changes (e : Entity) (changes : Row) (filter : List Predicate) :
    ((changes.keys.zipIdx.filter fun (key, _) => assignable e key).map (Place.change ·.2)).map
      (valueAt (.rows (.update changes filter))) = ((settable e changes).map Prod.snd).map some := by
  have hchange : ∀ x ∈ changes.zipIdx.filter fun x => assignable e x.1.1,
      valueAt (.rows (.update changes filter)) (.change x.2) = some x.1.2 := by
    intro x hx
    show changes[x.2]?.map Prod.snd = _
    rw [List.mem_zipIdx_iff_getElem?.1 (List.mem_filter.1 hx).1]
    rfl
  have hfst : (changes.zipIdx.filter fun x => assignable e x.1.1).map Prod.fst = settable e changes := by
    have hfilter := List.filter_map (f := Prod.fst) (p := fun c : String × Json => assignable e c.1) (l := changes.zipIdx)
    rw [List.zipIdx_map_fst] at hfilter
    exact hfilter.symm
  rw [Row.keys, List.zipIdx_map, List.filter_map, List.map_map, List.map_map, ← hfst, List.map_map, List.map_map]
  exact List.map_congr_left hchange

/-- **The parameters are the values at the places**, each of them found. -/
theorem params_eq_valueAt (e : Entity) (c : StoreCall) :
    ((c.statement e).params e).map some = (c.places e).map c.valueAt := by
  rw [params_eq_bound]
  match c with
  | .rows (.select s) => exact (map_operands s.filter fun _ => rfl).symm
  | .rows (.insert inputs) => exact (map_cells e inputs).symm
  | .rows (.update changes filter) =>
    have hfilter : (operands filter).map (valueAt (.rows (.update changes filter))) = (valuesOfAll filter).map some :=
      map_operands filter fun _ => rfl
    rw [bound, places, List.map_append, List.map_append, map_changes, hfilter]
  | .rows (.delete filter) => exact (map_operands filter fun _ => rfl).symm
  | .count filter => exact (map_operands filter fun _ => rfl).symm

/-- **Values are bound and never written**: two calls that differ in their values only have one text, and their
parameters are as many, each the value of its own call at the same place. -/
theorem values_only_bound (e : Entity) {c d : StoreCall} (h : Alike c d) :
    (c.statement e).sql e = (d.statement e).sql e ∧
      ((c.statement e).params e).length = ((d.statement e).params e).length ∧
      ((c.statement e).params e).map some = (c.places e).map c.valueAt ∧
      ((d.statement e).params e).map some = (c.places e).map d.valueAt := by
  have hc := params_eq_valueAt e c
  have hd := params_eq_valueAt e d
  rw [← places_congr e h] at hd
  have hlength : ((c.statement e).params e).length = ((d.statement e).params e).length := by
    have hcl := congrArg List.length hc
    have hdl := congrArg List.length hd
    simp only [List.length_map] at hcl hdl
    exact hcl.trans hdl.symm
  refine ⟨?_, hlength, hc, hd⟩
  rw [← sql_erase, erase_statement e h, sql_erase]

/-- A quoted command and null are bound like any other value, and the identifier is not set. -/
theorem values_only_bound_notes :
    Alike (Notes.retitle (.str "final") (.str "a")) (Notes.retitle (.str "'; DROP TABLE notes; --") .null) ∧
      ((Notes.retitle (.str "final") (.str "a")).statement (Notes.entity [])).sql (Notes.entity []) =
        ((Notes.retitle (.str "'; DROP TABLE notes; --") .null).statement (Notes.entity [])).sql (Notes.entity []) ∧
      (((Notes.retitle (.str "'; DROP TABLE notes; --") .null).statement (Notes.entity [])).params
        (Notes.entity [])).map some = [.change 1, .operand 0].map
          (Notes.retitle (.str "'; DROP TABLE notes; --") .null).valueAt := by
  have halike : Alike (Notes.retitle (.str "final") (.str "a")) (Notes.retitle (.str "'; DROP TABLE notes; --") .null) :=
    .update rfl rfl
  have h := values_only_bound (Notes.entity []) halike
  exact ⟨halike, h.1, h.2.2.2⟩

end StoreCall

end RecordService
