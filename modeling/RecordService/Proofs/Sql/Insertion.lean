import RecordService.Proofs.Record.Obedience
import RecordService.Proofs.Sql.Reading
import RecordService.Proofs.Sql.Values
/-!
# Insertions — what a batch gives each of its rows

The rows of a batch share one list of columns, and what one row has decides whether another row has to give a default
of its own.  All the same every row gives every column what it would give it alone: its value, or else the default of
the database, or null where there is none (`batch_inserts_row_by_row`).

The text is described as it stands, without reading it back (`InsertText`): each entry is a placeholder for a parameter,
or a word.  So nothing is asked of the names and the types.
-/
namespace RecordService

/-! ## Lists in a text -/

namespace Sql

open Fragment

variable {α : Type} {ps : List Json} {Says : List Char → α → Prop}

/-- The text is a list with commas, and says of each thing what is to be said of it. -/
def Listed (Says : List Char → α → Prop) (text : List Char) (as : List α) : Prop :=
  ∃ texts, text = List.intercalate ", ".toList texts ∧ List.Forall₂ Says texts as

/-- The fragment is written so as to say something, wherever its values stand among the parameters. -/
def WrittenAs (ps : List Json) (Says : List Char → α → Prop) (f : Fragment) (a : α) : Prop :=
  ∀ n, Placed ps n f → Says (write n f) a

theorem writtenAs_commas {fs : List Fragment} {as : List α} (h : List.Forall₂ (WrittenAs ps Says) fs as) :
    WrittenAs ps (Listed Says) (commas fs) as := by
  induction h with
  | nil => exact fun n _ => ⟨[], rfl, .nil⟩
  | @cons f a fs as hf hrest ih =>
    intro n hplaced
    cases hrest with
    | nil => exact ⟨[write n f], (List.append_nil _).symm, .cons (hf n hplaced) .nil⟩
    | @cons g b gs bs hg hgs =>
      rw [commas, joined, List.append_assoc] at hplaced ⊢
      obtain ⟨texts, htexts, hall⟩ := ih _ hplaced.right.right
      refine ⟨write n f :: texts, ?_, .cons (hf n hplaced.left) hall⟩
      rw [write_append, write_append, ← commas, htexts]
      cases hall with
      | cons _ _ => simp [List.intercalate, write]

end Sql

namespace Statement

open Fragment Sql

/-! ## The text of an insertion -/

/-- What the text of an entry gives the column: a parameter by its number, the default, or null. -/
inductive EntryText (e : Entity) (ps : List Json) : List Char → String × Entry → Prop where
  | value (column : String) {n : Nat} {v : Json} : ps[n]? = some v →
      EntryText e ps ('$' :: (toString (n + 1)).toList ++ castText (Sql.cast e column)) (column, .value v)
  | default (column : String) : EntryText e ps "DEFAULT".toList (column, .default)
  | null (column : String) : EntryText e ps "NULL".toList (column, .null)

/-- An entry for each column, in parentheses. -/
def TupleText (e : Entity) (ps : List Json) (columns : List String) (text : List Char) (entries : List Entry) : Prop :=
  entries.length = columns.length ∧
    ∃ inner, text = '(' :: inner ++ [')'] ∧ Listed (EntryText e ps) inner (columns.zip entries)

/-- **The text of an insertion**: the table, the columns, and a tuple for each row. -/
def InsertText (e : Entity) (ps : List Json) (text : List Char) (columns : List String) (tuples : List (List Entry)) :
    Prop :=
  ∃ names values,
    text = "INSERT INTO ".toList ++ quoteName e.schema ++ '.' :: quoteName e.table ++ " (".toList ++ names ++
      ") VALUES ".toList ++ values ++ write 0 (returning e) ∧
    Listed (fun text column => text = quoteName column) names columns ∧
    Listed (TupleText e ps columns) values tuples

theorem writtenAs_entry (e : Entity) (ps : List Json) (column : String) (entry : Entry) :
    WrittenAs ps (EntryText e ps) (entryFragment e column entry) (column, entry) := by
  intro n hplaced
  cases entry with
  | value v =>
    obtain ⟨rest, hrest⟩ := hplaced
    have hvalue : ps[n]? = some v := by
      have hhead : (ps.drop n)[0]? = some v := by rw [← hrest]; rfl
      rwa [List.getElem?_drop] at hhead
    have hwrite : write n (entryFragment e column (.value v)) =
        '$' :: (toString (n + 1)).toList ++ castText (Sql.cast e column) := List.append_nil _
    rw [hwrite]
    exact .value column hvalue
  | default => exact .default column
  | null => exact .null column

theorem writtenAs_tuple (e : Entity) (ps : List Json) {columns : List String} {entries : List Entry}
    (hlength : entries.length = columns.length) :
    WrittenAs ps (TupleText e ps columns) (tuple e columns entries) entries := by
  intro n hplaced
  have hentries : List.Forall₂ (WrittenAs ps (EntryText e ps)) (List.zipWith (entryFragment e) columns entries)
      (columns.zip entries) := by
    rw [← List.map_uncurry_zip_eq_zipWith]
    exact List.forall₂_map_left_iff.2 (List.forall₂_same.2 fun x _ => writtenAs_entry e ps x.1 x.2)
  refine ⟨hlength, _, ?_, writtenAs_commas hentries n hplaced.parenthesized⟩
  rw [tuple, Fragment.parenthesized, write_append, write_append]
  rfl

theorem writtenAs_insert (e : Entity) {columns : List String} {tuples : List (List Entry)}
    (hlength : ∀ entries ∈ tuples, entries.length = columns.length) :
    InsertText e ((Statement.insert columns tuples).params e) ((Statement.insert columns tuples).sql e).toList columns
      tuples := by
  let names : Fragment := commas (columns.map fun column => [.name column])
  let start : Fragment := [.words "INSERT INTO "] ++ table e ++ [.words " ("] ++ names ++ [.words ") VALUES "]
  let values : Fragment := commas (tuples.map (tuple e columns))
  let ps := (Statement.insert columns tuples).params e
  have hnone : names.params = [] := params_commas_nil (fun _ => rfl) columns
  have hstart : start.params = [] := by
    show (_ ++ _ ++ _ ++ _ ++ _ : Fragment).params = []
    rw [params_append, params_append, params_append, params_append, hnone]
    rfl
  have hplaced : Placed ps 0 (start ++ values ++ returning e) := List.prefix_rfl
  have hvalues : Placed ps 0 values := by
    have hright := hplaced.left.right
    rwa [hstart] at hright
  have hnamed : List.Forall₂ (WrittenAs ps fun text column => text = quoteName column)
      (columns.map fun column => [.name column]) columns :=
    List.forall₂_map_left_iff.2 (List.forall₂_same.2 fun column _ n _ => List.append_nil _)
  have hnames : Listed (fun text column => text = quoteName column) (write 0 names) columns := by
    refine writtenAs_commas hnamed 0 ?_
    show names.params <+: _
    exact hnone ▸ List.nil_prefix
  have htuples : List.Forall₂ (WrittenAs ps (TupleText e ps columns)) (tuples.map (tuple e columns)) tuples :=
    List.forall₂_map_left_iff.2 (List.forall₂_same.2 fun entries hentries => writtenAs_tuple e ps (hlength _ hentries))
  refine ⟨_, _, ?_, hnames, writtenAs_commas htuples 0 hvalues⟩
  have hnumber := write_of_params_nil hnone
  have hreturning := write_of_params_nil (params_returning e)
  show (String.ofList (write 0 (start ++ values ++ returning e))).toList = _
  rw [String.toList_ofList, write_append, write_append, hreturning, hstart]
  simp only [start, write_append, hnumber]
  simp [table, write, values]

/-! ## What a row is given -/

/-- What a tuple gives a column: its entry, and the default to a column that is not listed. -/
def given (columns : List String) (entries : List Entry) (column : String) : Entry :=
  ((columns.zip entries).lookup column).getD .default

/-- What a row has for a column: its own value, or else the default, or null without one. -/
def supplied (row : Row) (c : Column) : Entry :=
  match row.get? c.name with
  | some v => .value v
  | none => if c.hasDefault then .default else .null

theorem lookup_zip_map (f : String → Entry) (column : String) : ∀ columns : List String,
    (columns.zip (columns.map f)).lookup column = if column ∈ columns then some (f column) else none
  | [] => rfl
  | other :: rest => by
    rw [List.map_cons, List.zip_cons_cons, List.lookup_cons, lookup_zip_map f column rest]
    by_cases h : column = other
    · subst h
      simp
    · simp [h, beq_eq_false_iff_ne.2 h]

variable {e : Entity} {c : Column} {row : Row} {rows : List Row}

theorem insertColumns_sublist (hid : e.hasColumn e.idField = true) (rows : List Row) :
    (insertColumns e rows).Sublist e.columnNames := by
  simp only [insertColumns]
  split
  · exact List.singleton_sublist.2 ((Entity.hasColumn_iff e e.idField).1 hid)
  · exact List.filter_sublist.map _

theorem insertColumns_ne_nil (e : Entity) (rows : List Row) : insertColumns e rows ≠ [] := by
  simp only [insertColumns]
  split
  · exact List.cons_ne_nil _ _
  · rename_i hnames
    exact fun hnil => hnames (List.isEmpty_iff.2 hnil)

/-- A column that is not listed has a default, and no row gives it. -/
theorem of_not_mem_insertColumns (hc : c ∈ e.columns) (h : c.name ∉ insertColumns e rows) :
    (∀ row ∈ rows, row.get? c.name = none) ∧ c.hasDefault = true := by
  have hnot : ¬(provided rows c.name || !c.hasDefault) = true := by
    intro htakes
    refine h ?_
    have hmem := List.mem_map_of_mem (f := Column.name)
      (List.mem_filter (p := fun c : Column => provided rows c.name || !c.hasDefault).2 ⟨hc, htakes⟩)
    simp only [insertColumns]
    split
    · rename_i hnames
      rw [List.isEmpty_iff.1 hnames] at hmem
      cases hmem
    · exact hmem
  obtain ⟨hprovided, hdefault⟩ := not_or.1 (mt Bool.or_eq_true_iff.2 hnot)
  refine ⟨fun row hrow => ?_, by simpa using hdefault⟩
  have hhas : ¬row.has c.name = true := fun hhas => hprovided (List.any_eq_true.2 ⟨row, hrow, hhas⟩)
  exact Option.not_isSome_iff_eq_none.1 hhas

theorem entry_eq_supplied (hcolumns : e.columnNames.Nodup) (hc : c ∈ e.columns) (row : Row) :
    entry e row c.name = supplied row c := by
  have hdefault : hasDefault e c.name = c.hasDefault := by
    rw [hasDefault, Entity.column?, Entity.findColumn_of_mem hcolumns hc]
    rfl
  unfold entry supplied
  cases row.get? c.name with
  | some v => rfl
  | none => exact if_congr (by rw [hdefault]) rfl rfl

/-- **A tuple gives every column what its row has for it**, whatever the other rows have. -/
theorem given_entries (hcolumns : e.columnNames.Nodup) (hrow : row ∈ rows) (hc : c ∈ e.columns) :
    given (insertColumns e rows) ((insertColumns e rows).map (entry e row)) c.name = supplied row c := by
  rw [given, lookup_zip_map]
  by_cases hlisted : c.name ∈ insertColumns e rows
  · rw [if_pos hlisted]
    exact entry_eq_supplied hcolumns hc row
  · obtain ⟨hnone, hdefault⟩ := of_not_mem_insertColumns hc hlisted
    rw [if_neg hlisted, supplied, hnone row hrow, hdefault]
    rfl

/-! ## Members that are no columns -/

/-- The cells that a row has for columns. -/
def cellsOf (e : Entity) (row : Row) : Row := row.filter fun m => e.hasColumn m.1

theorem get?_cellsOf {name : String} (hname : e.hasColumn name = true) : ∀ row : Row,
    (cellsOf e row).get? name = row.get? name
  | [] => rfl
  | (key, v) :: rest => by
    have ih := get?_cellsOf hname rest
    rw [cellsOf, List.filter_cons, ← cellsOf, Row.get?]
    by_cases hkey : key = name
    · subst hkey
      rw [if_pos hname, if_pos rfl, Row.get?, if_pos rfl]
    · rw [if_neg hkey]
      split
      · rw [Row.get?, if_neg hkey, ih]
      · exact ih

/-- An insertion does not see what is no column. -/
theorem ofInsert_cellsOf (hid : e.hasColumn e.idField = true) (rows : List Row) :
    ofInsert e (rows.map (cellsOf e)) = ofInsert e rows := by
  have hhas : ∀ name ∈ e.columnNames, ∀ row : Row, (cellsOf e row).has name = row.has name := fun name hname row => by
    rw [Row.has, get?_cellsOf ((Entity.hasColumn_iff e name).2 hname), Row.has]
  have hprovided : ∀ c ∈ e.columns, provided (rows.map (cellsOf e)) c.name = provided rows c.name := by
    intro c hc
    rw [provided, List.any_map, provided]
    exact congrArg rows.any (funext fun row => hhas c.name (List.mem_map_of_mem hc) row)
  have hcolumns : insertColumns e (rows.map (cellsOf e)) = insertColumns e rows := by
    have hfilter : (e.columns.filter fun c => provided (rows.map (cellsOf e)) c.name || !c.hasDefault) =
        e.columns.filter fun c => provided rows c.name || !c.hasDefault :=
      List.filter_congr fun c hc => by rw [hprovided c hc]
    rw [insertColumns, hfilter, insertColumns]
  have hentry : ∀ column ∈ insertColumns e rows, ∀ row, entry e (cellsOf e row) column = entry e row column := by
    intro column hcolumn row
    have hname := (insertColumns_sublist hid rows).subset hcolumn
    rw [entry, get?_cellsOf ((Entity.hasColumn_iff e column).2 hname), entry]
  simp only [ofInsert, hcolumns, List.map_map]
  refine congrArg _ (List.map_congr_left fun row _ => List.map_congr_left fun column hcolumn => ?_)
  exact hentry column hcolumn row

/-! ## Batches -/

theorem insertText_ofInsert (e : Entity) (rows : List Row) :
    InsertText e ((ofInsert e rows).params e) ((ofInsert e rows).sql e).toList (insertColumns e rows)
      (rows.map fun row => (insertColumns e rows).map (entry e row)) := by
  refine writtenAs_insert e fun entries hentries => ?_
  obtain ⟨row, -, rfl⟩ := List.mem_map.1 hentries
  exact List.length_map _

/-- **A batch is inserted row by row**: the text lists columns of the entity in their order, and gives each row a tuple
that gives every column what the row has for it, which is what the row is given when it is inserted alone.  What is no
column is not seen. -/
theorem batch_inserts_row_by_row (hid : e.hasColumn e.idField = true) (hcolumns : e.columnNames.Nodup)
    (rows : List Row) :
    ∃ columns tuples, InsertText e ((ofInsert e rows).params e) ((ofInsert e rows).sql e).toList columns tuples ∧
      columns ≠ [] ∧ columns.Nodup ∧ columns.Sublist e.columnNames ∧
      List.Forall₂ (fun row entries =>
        (∀ c ∈ e.columns, given columns entries c.name = supplied row c) ∧
        ∃ alone tuple,
          InsertText e ((ofInsert e [row]).params e) ((ofInsert e [row]).sql e).toList alone [tuple] ∧
          ∀ c ∈ e.columns, given alone tuple c.name = given columns entries c.name) rows tuples ∧
      (ofInsert e rows).params e = rows.flatMap (fun row => columns.filterMap row.get?) ∧
      ofInsert e (rows.map (cellsOf e)) = ofInsert e rows := by
  have hsublist := insertColumns_sublist hid rows
  refine ⟨_, _, insertText_ofInsert e rows, insertColumns_ne_nil e rows, hcolumns.sublist hsublist, hsublist, ?_,
    StoreCall.params_eq_bound e (.rows (.insert rows)), ofInsert_cellsOf hid rows⟩
  refine List.forall₂_map_right_iff.2 (List.forall₂_same.2 fun row hrow => ⟨fun c hc => ?_, ?_⟩)
  · exact given_entries hcolumns hrow hc
  · refine ⟨_, _, insertText_ofInsert e [row], fun c hc => ?_⟩
    rw [given_entries hcolumns List.mem_cons_self hc, given_entries hcolumns hrow hc]

end Statement

namespace Notes

/-- The identifier and the tenant have defaults, the title has none. -/
def defaulted : Entity :=
  { entity [] with
    columns := [("id", true), ("title", false), ("tenant", true)].map fun (name, hasDefault) =>
      ⟨name, true, hasDefault, none, some "text"⟩ }

/-- Each of the two leaves out what the other has. -/
def unlikeRows : List Row := [[("colour", .str "red"), ("title", .str "draft")], [("tenant", .str "b")]]

end Notes

/-- The first row is given the default for the tenant because of the second, and would be given it alone. -/
theorem Statement.batch_inserts_row_by_row_notes :
    Notes.defaulted.hasColumn Notes.defaulted.idField = true ∧ Notes.defaulted.columnNames.Nodup ∧
      (Statement.ofInsert Notes.defaulted Notes.unlikeRows).sql Notes.defaulted =
        "INSERT INTO \"public\".\"notes\" (\"title\", \"tenant\") VALUES ($1::text, DEFAULT), (NULL, $2::text)" ++
          " RETURNING \"id\", \"title\", \"tenant\"" ∧
      ∃ columns : List String, columns.Sublist ["id", "title", "tenant"] ∧
        (Statement.ofInsert Notes.defaulted Notes.unlikeRows).params Notes.defaulted =
          Notes.unlikeRows.flatMap fun row => columns.filterMap row.get? := by
  have hid : Notes.defaulted.hasColumn Notes.defaulted.idField = true := rfl
  have hcolumns : Notes.defaulted.columnNames.Nodup := by decide
  obtain ⟨columns, _, -, -, -, hsublist, -, hparams, -⟩ :=
    Statement.batch_inserts_row_by_row hid hcolumns Notes.unlikeRows
  exact ⟨hid, hcolumns, by decide +kernel, columns, hsublist, hparams⟩

end RecordService
