import RecordService.Proofs.Json.Same
import RecordService.Proofs.Sql.Values
import RecordService.Proofs.Store.Affected
/-!
# Assignments — an update in SQL and in memory

An update is carried out in two forms: as a statement with a list of assignments, and as a loop over the rows in memory.
Both assign the same members of the changes (`updates_assign_alike`).  The condition of the statement is that of a
selection, with its placeholders numbered on behind the assignments; to say so, a text is taken apart at its placeholders
(`Segment`).  When nothing can be assigned, the statement is the selection, and the loop leaves the store as it is.
-/
namespace RecordService

/-! ## Texts with numbers left open -/

/-- A piece of a text: characters, or a placeholder by its number. -/
inductive Segment where
  | text (chars : List Char)
  | number (n : Nat)

namespace Segment

def number? : Segment → Option Nat
  | text _ => none
  | number n => some n

/-- The characters of a segment when as many placeholders stand before the text. -/
def spell (before : Nat) : Segment → List Char
  | text chars => chars
  | number n => '$' :: (toString (before + n)).toList

end Segment

namespace Fragment

/-- The fragment taken apart after `n` holes. -/
def segments : Nat → Fragment → List Segment
  | _, [] => []
  | n, .words text :: rest => .text text.toList :: segments n rest
  | n, .name identifier :: rest => .text (quoteName identifier) :: segments n rest
  | n, .hole cast _ :: rest => .number (n + 1) :: .text (castText cast) :: segments (n + 1) rest

theorem numbers_segments (n : Nat) (f : Fragment) :
    (segments n f).filterMap Segment.number? = List.range' (n + 1) f.params.length := by
  induction f generalizing n with
  | nil => rfl
  | cons piece f ih =>
    cases piece with
    | words text => exact ih n
    | name identifier => exact ih n
    | hole cast value => exact congrArg (List.cons (n + 1)) (ih (n + 1))

/-- **Where a fragment begins moves its numbers only.** -/
theorem write_add (before n : Nat) (f : Fragment) :
    write (before + n) f = (segments n f).flatMap (Segment.spell before) := by
  induction f generalizing n with
  | nil => rfl
  | cons piece f ih =>
    cases piece with
    | words text => rw [write, segments, List.flatMap_cons, ih, Segment.spell]
    | name identifier => rw [write, segments, List.flatMap_cons, ih, Segment.spell]
    | hole cast value =>
      rw [write, segments, List.flatMap_cons, List.flatMap_cons, Nat.add_assoc, ih, Segment.spell, Segment.spell,
        List.append_assoc]

end Fragment

namespace Statement

open Fragment

/-! ## The texts -/

/-- The text of a selection of every row that satisfies a condition. -/
def SelectText (e : Entity) (clause : List Segment) (text : List Char) : Prop :=
  text = "SELECT ".toList ++ write 0 (columnList e) ++ " FROM ".toList ++ quoteName e.schema ++ '.' :: quoteName e.table ++
    clause.flatMap (Segment.spell 0)

/-- The text of an assignment, with the number of the placeholder before it. -/
def assignmentText (e : Entity) : (String × Json) × Nat → List Char
  | ((name, _), n) =>
    quoteName name ++ " = ".toList ++ '$' :: (toString (n + 1)).toList ++ castText (Sql.cast e name)

/-- The text of an update: each member is assigned the parameter of its place, and the condition is numbered on. -/
def UpdateText (e : Entity) (members : Row) (clause : List Segment) (text : List Char) : Prop :=
  text = "UPDATE ".toList ++ quoteName e.schema ++ '.' :: quoteName e.table ++ " SET ".toList ++
    List.intercalate ", ".toList (members.zipIdx.map (assignmentText e)) ++
    clause.flatMap (Segment.spell members.length) ++ write 0 (returning e)

theorem write_assignment (e : Entity) (n : Nat) (m : String × Json) :
    write n (assignment e m) = assignmentText e (m, n) := by
  simp [assignment, assignmentText, Sql.hole, write]

theorem params_assignments (e : Entity) (members : Row) :
    (commas (members.map (assignment e))).params = members.map Prod.snd := by
  rw [commas, params_joined, List.flatMap_map, List.map_eq_flatMap]
  rfl

theorem write_assignments (e : Entity) : ∀ (n : Nat) (members : Row),
    write n (commas (members.map (assignment e))) =
      List.intercalate ", ".toList ((members.zipIdx n).map (assignmentText e))
  | _, [] => rfl
  | n, [m] => by
    show write n (assignment e m) = assignmentText e (m, n) ++ []
    rw [write_assignment, List.append_nil]
  | n, m :: next :: rest => by
    have ih := write_assignments e (n + 1) (next :: rest)
    have hone : n + (assignment e m ++ [.words ", "] : Fragment).params.length = n + 1 := rfl
    show write n (assignment e m ++ [.words ", "] ++ commas ((next :: rest).map (assignment e))) = _
    rw [write_append, hone, ih, write_append, write_assignment]
    simp [List.intercalate, write]

theorem selectText_allOf (e : Entity) (filter : List Predicate) :
    SelectText e (segments 0 (Sql.whereClause e filter)) ((Statement.select (.allOf filter)).sql e).toList := by
  let start : Fragment := [.words "SELECT "] ++ columnList e ++ [.words " FROM "] ++ table e
  have hstart : start.params = [] := by
    show (_ ++ _ ++ _ ++ _ : Fragment).params = []
    rw [params_append, params_append, params_append, params_columnList]
    rfl
  have hfragment : (Statement.select (.allOf filter)).fragment e = start ++ Sql.whereClause e filter := by
    show start ++ Sql.whereClause e filter ++ [] ++ [] ++ [] = _
    rw [List.append_nil, List.append_nil, List.append_nil]
  unfold SelectText
  rw [sql, hfragment, Fragment.sql, String.toList_ofList, write_append, hstart, ← write_add]
  simp [start, table, write, write_append]

theorem updateText_update (e : Entity) (members : Row) (filter : List Predicate) :
    UpdateText e members (segments 0 (Sql.whereClause e filter)) ((Statement.update members filter).sql e).toList := by
  let sets : Fragment := commas (members.map (assignment e))
  let start : Fragment := [.words "UPDATE "] ++ table e ++ [.words " SET "]
  have hstart : start.params.length = 0 := rfl
  have hsets : (start ++ sets).params.length = members.length := by
    rw [params_append, params_assignments, List.length_append, List.length_map]
    exact Nat.zero_add _
  have hreturning := write_of_params_nil (params_returning e)
  show (String.ofList (write 0 (start ++ sets ++ Sql.whereClause e filter ++ returning e))).toList = _
  rw [String.toList_ofList, write_append, write_append, write_append, hreturning, hstart, hsets, ← write_add,
    write_assignments]
  simp [start, table, write]

end Statement

/-! ## Both updates -/

/-- The members are written into the row: each has its value, and everything else is kept. -/
structure Row.WrittenInto (members before after : Row) : Prop where
  written : ∀ m ∈ members, after.get? m.1 = some m.2
  kept : ∀ name, name ∉ members.keys → after.get? name = before.get? name

theorem Row.writtenInto_setAll {members : Row} (h : members.keys.Nodup) (row : Row) :
    members.WrittenInto row (Row.setAll members row) := by
  constructor
  case written =>
    intro m hm
    obtain ⟨v, hv, hget⟩ := Row.get?_setAll_of_mem row (List.mem_map_of_mem hm)
    have hsame := (Row.get?_of_mem h hv).symm.trans (Row.get?_of_mem h hm)
    rw [hget, hsame]
  case kept => exact fun name hname => Row.get?_setAll row hname

variable {e : Entity} {changes : Row}

theorem Statement.settable_eq_changesOf (e : Entity) (changes : Row) : settable e changes = e.changesOf changes :=
  List.filter_congr fun m _ => by by_cases h : m.1 = e.idField <;> simp [h]

theorem MemoryStore.update_writes (hchanges : changes.keys.Nodup) (filter : List Predicate) (s : MemoryStore) :
    List.Forall₂ (fun before after =>
      if before.satisfies filter then (Statement.settable e changes).WrittenInto before after else after = before)
      (s.rowsOf e) ((s.update e changes filter).2.rowsOf e) := by
  rw [rowsOf_update]
  have hmembers : (Statement.settable e changes).keys.Nodup := hchanges.sublist (List.filter_sublist.map Prod.fst)
  refine List.forall₂_map_right_iff.2 (List.forall₂_same.2 fun row _ => ?_)
  by_cases hrow : row.satisfies filter = true
  · rw [if_pos hrow, if_pos hrow, Table.assign_eq_setAll, ← Statement.settable_eq_changesOf]
    exact Row.writtenInto_setAll hmembers row
  · rw [if_neg hrow, if_neg hrow]

/-- Without anything to assign, the loop writes every row back as it was. -/
theorem MemoryStore.update_of_settable_nil (h : Statement.settable e changes = []) (filter : List Predicate)
    (s : MemoryStore) :
    s.select e (.allOf filter) = .ok (s.update e changes filter).1 ∧ (s.update e changes filter).2.Same s := by
  have hassign : ∀ row, Table.assign e changes row = row := fun row => by
    rw [Table.assign_eq_setAll, ← Statement.settable_eq_changesOf, h]
    rfl
  constructor
  · show _ = Except.ok (((s.rowsOf e).filter (Row.satisfies filter)).map (Table.assign e changes))
    rw [List.map_congr_left fun row _ => hassign row, List.map_id']
    rfl
  · refine Same.setTable_self ?_
    have hrows : Table.updateRows e changes filter (s.table e).rows = (s.table e).rows := by
      unfold Table.updateRows
      refine (List.map_congr_left fun row _ => ?_).trans (List.map_id' _)
      rw [hassign, ite_self]
    rw [hrows]

/-- **The statement and the loop assign the same members of the changes**: those of columns but the identifier, in their
order, each by the parameter that has its value.  The condition of the statement and what it binds are those of the
selection by the filter, numbered on behind the assignments.  Without anything to assign, the statement is that
selection, and the loop answers as it does and changes nothing. -/
theorem updates_assign_alike (e : Entity) (hchanges : changes.keys.Nodup) (filter : List Predicate) (s : MemoryStore) :
    ∃ (members : Row) (clause : List Segment),
      (members.Sublist changes ∧ ∀ name, name ∈ members.keys ↔ e.Writes changes name) ∧
      -- the loop
      List.Forall₂ (fun before after =>
        if before.satisfies filter then members.WrittenInto before after else after = before)
        (s.rowsOf e) ((s.update e changes filter).2.rowsOf e) ∧
      -- the selection by the filter
      (Statement.SelectText e clause ((Statement.select (.allOf filter)).sql e).toList ∧
        clause.filterMap Segment.number? = List.range' 1 ((Statement.select (.allOf filter)).params e).length) ∧
      -- the statement
      (members ≠ [] →
        Statement.UpdateText e members clause ((Statement.ofUpdate e changes filter).sql e).toList ∧
        (Statement.ofUpdate e changes filter).params e =
          members.map Prod.snd ++ (Statement.select (.allOf filter)).params e) ∧
      (members = [] →
        (Statement.ofUpdate e changes filter).sql e = (Statement.select (.allOf filter)).sql e ∧
        (Statement.ofUpdate e changes filter).params e = (Statement.select (.allOf filter)).params e ∧
        s.select e (.allOf filter) = .ok (s.update e changes filter).1 ∧ (s.update e changes filter).2.Same s) := by
  refine ⟨Statement.settable e changes, Fragment.segments 0 (Sql.whereClause e filter),
    ⟨List.filter_sublist, fun name => ?_⟩, MemoryStore.update_writes hchanges filter s,
    ⟨Statement.selectText_allOf e filter, ?_⟩, fun hsome => ⟨?_, ?_⟩, fun hnone => ?_⟩
  · rw [Statement.settable_eq_changesOf]
    exact Entity.mem_keys_changesOf_iff
  · rw [Fragment.numbers_segments, Statement.params, Fragment.params_eq_holes, Fragment.params_eq_holes,
      Statement.holes_select, Sql.holes_whereClause]
    rfl
  · have hupdate : Statement.ofUpdate e changes filter = .update (Statement.settable e changes) filter :=
      if_neg fun hempty => hsome (List.isEmpty_iff.1 hempty)
    rw [hupdate]
    exact Statement.updateText_update e _ filter
  · have hselect := StoreCall.params_eq_bound e (.rows (.select (.allOf filter)))
    exact (StoreCall.params_eq_bound e (.rows (.update changes filter))).trans (congrArg (_ ++ ·) hselect.symm)
  · have hselect : Statement.ofUpdate e changes filter = .select (.allOf filter) := if_pos (by rw [hnone]; rfl)
    rw [hselect]
    exact ⟨rfl, rfl, MemoryStore.update_of_settable_nil hnone filter s⟩

/-- Gives a note another title and no team, and tries to give it another identifier and a member that is no column. -/
def Notes.titleAndTeam : Row :=
  [("id", .str "2"), ("title", .str "final"), ("colour", .str "red"), ("team", .null)]

/-- Two members are assigned by the first two parameters, and the condition is about the third. -/
theorem updates_assign_alike_notes :
    Notes.titleAndTeam.keys.Nodup ∧
      (Statement.ofUpdate (Notes.entity []) Notes.titleAndTeam [.eq "tenant" (.str "a")]).sql (Notes.entity []) =
        "UPDATE \"public\".\"notes\" SET \"title\" = $1::text, \"team\" = $2::text WHERE \"tenant\" = $3::text" ++
          " RETURNING \"id\", \"title\", \"tenant\", \"team\", \"deleted_at\"" ∧
      ∃ members : Row, members.Sublist Notes.titleAndTeam ∧
        List.Forall₂ (fun before after => if before.satisfies [.eq "tenant" (.str "a")] then
          members.WrittenInto before after else after = before)
          [Notes.row "1" (.str "a") .null, Notes.row "3" (.str "b") .null]
          (((Notes.store [Notes.row "1" (.str "a") .null, Notes.row "3" (.str "b") .null]).update (Notes.entity [])
            Notes.titleAndTeam [.eq "tenant" (.str "a")]).2.rowsOf (Notes.entity [])) := by
  have hchanges : Notes.titleAndTeam.keys.Nodup := by decide
  obtain ⟨members, _, ⟨hsublist, -⟩, hrows, -⟩ := updates_assign_alike (Notes.entity []) hchanges
    [.eq "tenant" (.str "a")] (Notes.store [Notes.row "1" (.str "a") .null, Notes.row "3" (.str "b") .null])
  exact ⟨hchanges, by decide +kernel, members, hsublist, hrows⟩

end RecordService
