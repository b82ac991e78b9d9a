import RecordService.Proofs.Number.Integer
import RecordService.Proofs.Sql.Reading
import RecordService.Proofs.Sql.Values
/-!
# Placeholders — the numbers in a text and the parameters beside it

A text is scanned for dollar signs outside of double quotes, and for the digits behind each (`numbersIn`).  Only holes
bring dollar signs into a fragment, as long as its words and its types have none (`Fragment.Neutral`), and the holes are
numbered in the order they are written (`behindDollars_write`).  So the placeholders of a statement are numbered from one
on, one for each parameter, and the parameters are the values of the call in their order (`placeholders_in_order`).
-/
namespace RecordService

/-! ## Scanning for dollar signs -/

namespace Fragment

/-- The digits behind every dollar sign outside of double quotes.  A doubled quote leaves the quotes and enters them
again. -/
def behindDollars : Bool → List Char → List String
  | _, [] => []
  | quoted, c :: text =>
    if c = '"' then behindDollars (!quoted) text
    else if !quoted && c = '$' then String.ofList (text.takeWhile Char.isDigit) :: behindDollars quoted text
    else behindDollars quoted text

def numbersIn (sql : String) : List String := behindDollars false sql.toList

/-- The scan goes on over the character, whatever it has read. -/
def inert (c : Char) : Bool := c != '$' && c != '"'

theorem behindDollars_inert : ∀ (text rest : List Char), text.all inert = true →
    behindDollars false (text ++ rest) = behindDollars false rest
  | [], _, _ => rfl
  | c :: text, rest, h => by
    rw [List.all_cons, Bool.and_eq_true] at h
    obtain ⟨hc, htext⟩ := h
    have hne : c ≠ '$' ∧ c ≠ '"' := by simpa [inert] using hc
    rw [List.cons_append, behindDollars, if_neg hne.2, if_neg (by simp [hne.1])]
    exact behindDollars_inert text rest htext

theorem behindDollars_doubleQuotes (rest : List Char) : ∀ s : List Char,
    behindDollars true (doubleQuotes s ++ rest) = behindDollars true rest
  | [] => rfl
  | c :: s => by
    have ih := behindDollars_doubleQuotes rest s
    unfold doubleQuotes
    by_cases hc : c = '"'
    · subst hc
      simpa [behindDollars] using ih
    · rw [if_neg hc, List.cons_append, behindDollars, if_neg hc]
      simpa using ih

/-- **A quoted name is passed over**, whatever is in it. -/
theorem behindDollars_name (s : String) (rest : List Char) :
    behindDollars false (quoteName s ++ rest) = behindDollars false rest := by
  rw [quoteName, List.cons_append, List.cons_append, List.append_assoc, behindDollars, if_pos rfl, Bool.not_false,
    behindDollars_doubleQuotes]
  rfl

theorem inert_toString (n : Nat) : (toString n).toList.all inert = true := by
  rw [List.all_eq_true]
  intro c hc
  have hdigit := isDigit_of_mem_toString n c hc
  by_cases hsign : c = '$' ∨ c = '"'
  · rcases hsign with rfl | rfl
    · revert hdigit; decide
    · revert hdigit; decide
  · simpa [inert] using hsign

/-- The number of a placeholder is read to its last digit, and its cast is passed over. -/
theorem behindDollars_hole (n : Nat) {cast : Option String} (hcast : ∀ type ∈ cast, type.toList.all inert = true)
    {rest : List Char} (hrest : ∀ c ∈ rest.head?, c.isDigit = false) :
    behindDollars false ('$' :: (toString n).toList ++ castText cast ++ rest) =
      toString n :: behindDollars false rest := by
  have htype : (castText cast).all inert = true := by
    cases cast with
    | none => rfl
    | some type => simpa [castText, inert] using hcast type rfl
  have hhead : ∀ c ∈ (castText cast ++ rest).head?, c.isDigit = false := by
    intro c hc
    cases cast with
    | none => exact hrest c hc
    | some type => cases hc; rfl
  have hread : ((toString n).toList ++ (castText cast ++ rest)).takeWhile Char.isDigit = (toString n).toList := by
    rw [List.takeWhile_append_of_pos (isDigit_of_mem_toString n)]
    cases hnext : castText cast ++ rest with
    | nil => simp
    | cons c text => simp [hhead c (by rw [hnext]; rfl)]
  rw [List.cons_append, List.cons_append, List.append_assoc, behindDollars, if_neg (by decide), if_pos (by decide), hread,
    String.ofList_toList, behindDollars_inert _ _ (inert_toString n), behindDollars_inert _ _ htype]

end Fragment

/-! ## Neutral fragments -/

/-- The words have no dollar sign and no quote, and do not go on with a number before them. -/
def Piece.neutralWords (text : String) : Bool :=
  text.toList.all Fragment.inert && text.toList.head?.any fun c => !c.isDigit

/-- The piece brings no dollar sign but that of a hole. -/
def Piece.Neutral : Piece → Prop
  | .words text => neutralWords text = true
  | .name _ => True
  | .hole cast _ => ∀ type ∈ cast, type.toList.all Fragment.inert = true

namespace Fragment

def Neutral (f : Fragment) : Prop := ∀ piece ∈ f, piece.Neutral

theorem head_write {n : Nat} : ∀ {f : Fragment}, f.Neutral → ∀ c ∈ (write n f).head?, c.isDigit = false
  | [], _, c, hc => by cases hc
  | .words text :: f, h, c, hc => by
    have hwords : Piece.neutralWords text = true := h (.words text) List.mem_cons_self
    rw [Piece.neutralWords, Bool.and_eq_true, Option.any_eq_true] at hwords
    obtain ⟨-, d, hd, hdigit⟩ := hwords
    rw [write, List.head?_append, hd, Option.some_or] at hc
    cases hc
    simpa using hdigit
  | .name identifier :: f, _, c, hc => by cases hc; rfl
  | .hole cast value :: f, _, c, hc => by cases hc; rfl

/-- **The placeholders of a neutral fragment are its holes**, numbered in their order. -/
theorem behindDollars_write : ∀ {f : Fragment} (n : Nat), f.Neutral →
    behindDollars false (write n f) = (List.range' (n + 1) f.params.length).map toString
  | [], _, _ => rfl
  | .words text :: f, n, h => by
    obtain ⟨hwords, hf⟩ := List.forall_mem_cons.1 h
    have hinert : text.toList.all inert = true := ((Bool.and_eq_true _ _).mp hwords).1
    rw [write, behindDollars_inert _ _ hinert]
    exact behindDollars_write n hf
  | .name identifier :: f, n, h => by
    obtain ⟨-, hf⟩ := List.forall_mem_cons.1 h
    rw [write, behindDollars_name]
    exact behindDollars_write n hf
  | .hole cast value :: f, n, h => by
    obtain ⟨hcast, hf⟩ := List.forall_mem_cons.1 h
    rw [write, behindDollars_hole (n + 1) hcast (head_write hf), behindDollars_write (n + 1) hf, params,
      List.length_cons, List.range'_succ, List.map_cons]

/-! ### Putting fragments together -/

theorem neutral_nil : Neutral [] := fun _ h => by cases h

theorem neutral_cons {piece : Piece} {f : Fragment} (hpiece : piece.Neutral) (hf : f.Neutral) : Neutral (piece :: f) :=
  List.forall_mem_cons.2 ⟨hpiece, hf⟩

theorem neutral_append {f g : Fragment} (hf : f.Neutral) (hg : g.Neutral) : (f ++ g).Neutral :=
  List.forall_mem_append.2 ⟨hf, hg⟩

theorem neutral_words (text : String) (h : Piece.neutralWords text = true) : Neutral [.words text] :=
  neutral_cons h neutral_nil

theorem neutral_joined {separator : String} (hsep : Piece.neutralWords separator = true) : ∀ {fs : List Fragment},
    (∀ f ∈ fs, f.Neutral) → (joined separator fs).Neutral
  | [], _ => neutral_nil
  | [f], h => h f List.mem_cons_self
  | f :: g :: rest, h => by
    obtain ⟨hf, hrest⟩ := List.forall_mem_cons.1 h
    exact neutral_append (neutral_append hf (neutral_words _ hsep)) (neutral_joined hsep hrest)

theorem neutral_commas {α : Type} {write : α → Fragment} {l : List α} (h : ∀ a ∈ l, (write a).Neutral) :
    (commas (l.map write)).Neutral := by
  refine neutral_joined rfl fun f hf => ?_
  obtain ⟨a, ha, rfl⟩ := List.mem_map.1 hf
  exact h a ha

theorem neutral_parenthesized {f : Fragment} (h : f.Neutral) : f.parenthesized.Neutral :=
  neutral_append (neutral_append (neutral_words _ rfl) h) (neutral_words _ rfl)

end Fragment

/-! ## Conditions and statements -/

/-- No type that values are cast to has a dollar sign or a double quote. -/
def Entity.InertTypes (e : Entity) : Prop := ∀ c ∈ e.columns, ∀ type ∈ c.pgType, type.toList.all Fragment.inert = true

namespace Sql

open Fragment

variable {e : Entity}

theorem neutral_hole (h : e.InertTypes) (column : String) (value : Json) : (hole e column value).Neutral := by
  refine neutral_cons (fun type htype => ?_) neutral_nil
  obtain ⟨c, hc, hpg⟩ := Option.bind_eq_some_iff.1 htype
  exact h c (mem_of_findColumn hc) type hpg

theorem neutral_comparison (h : e.InertTypes) (field : String) (op : Comparison) (value : Json) :
    (comparison e field op value).Neutral := by
  unfold comparison
  cases op with
  | like => exact neutral_cons trivial (neutral_cons rfl (neutral_cons (fun _ hnone => by cases hnone) neutral_nil))
  | ilike => exact neutral_cons trivial (neutral_cons rfl (neutral_cons (fun _ hnone => by cases hnone) neutral_nil))
  | _ => exact neutral_cons trivial (neutral_cons rfl (neutral_hole h field value))

theorem neutral_membership (h : e.InertTypes) (field : String) (values : List Json) (negated : Bool) :
    (membership e field values negated).Neutral := by
  have hlist : (parenthesized (commas (values.map (hole e field)))).Neutral :=
    neutral_parenthesized (neutral_commas fun value _ => neutral_hole h field value)
  unfold membership
  by_cases hempty : values.isEmpty = true
  · rw [if_pos hempty]
    cases negated <;> exact neutral_words _ rfl
  · rw [if_neg hempty]
    cases negated <;> exact neutral_cons trivial (neutral_cons rfl hlist)

theorem neutral_nullCheck (field : String) (negated : Bool) : (nullCheck field negated).Neutral := by
  cases negated <;> exact neutral_cons trivial (neutral_words _ rfl)

theorem neutral_grouped {separator empty : String} (hsep : Piece.neutralWords separator = true)
    (hempty : Piece.neutralWords empty = true) {fs : List Fragment} (h : ∀ f ∈ fs, f.Neutral) :
    (grouped separator empty fs).Neutral := by
  match fs with
  | [] => exact neutral_words _ hempty
  | [f] => exact h f List.mem_cons_self
  | f :: g :: rest => exact neutral_parenthesized (neutral_joined hsep h)

mutual
theorem neutral_condition (h : e.InertTypes) : ∀ p : Predicate, (condition e p).Neutral
  | .compare field op value => neutral_comparison h field op value
  | .oneOf field values negated => neutral_membership h field values negated
  | .isNull field negated => neutral_nullCheck field negated
  | .and group => neutral_grouped rfl rfl (neutral_conditions h group)
  | .or group => neutral_grouped rfl rfl (neutral_conditions h group)

theorem neutral_conditions (h : e.InertTypes) : ∀ group : List Predicate, ∀ f ∈ conditions e group, f.Neutral
  | [], _, hf => by cases hf
  | p :: rest, f, hf => by
    rcases List.mem_cons.1 hf with rfl | hf
    · exact neutral_condition h p
    · exact neutral_conditions h rest f hf
end

theorem neutral_whereClause (h : e.InertTypes) (filter : List Predicate) : (whereClause e filter).Neutral := by
  unfold whereClause
  split
  · exact neutral_nil
  · exact neutral_append (neutral_words _ rfl) (neutral_joined rfl (neutral_conditions h filter))

end Sql

namespace Statement

open Fragment Predicate

variable {e : Entity}

theorem neutral_columnList (e : Entity) : (columnList e).Neutral := by
  refine neutral_commas fun c _ => ?_
  unfold readColumn
  split
  · exact neutral_cons trivial (neutral_cons rfl (neutral_cons trivial neutral_nil))
  · exact neutral_cons trivial neutral_nil

theorem neutral_orderClause (e : Entity) (orderBy : List OrderBy) : (orderClause e orderBy).Neutral := by
  simp only [orderClause]
  split
  · exact neutral_nil
  · refine neutral_append (neutral_words _ rfl) (neutral_commas fun o _ => ?_)
    unfold orderItem
    cases o.direction <;> exact neutral_cons trivial (neutral_words _ rfl)

/-- A number behind words that are neutral stays apart from the numbers before them. -/
theorem neutral_windowClause {word : String} (hword : Piece.neutralWords word = true) (n : Option Nat) :
    (windowClause word n).Neutral := by
  cases n with
  | none => exact neutral_nil
  | some n =>
    rw [Piece.neutralWords, Bool.and_eq_true, Option.any_eq_true] at hword
    obtain ⟨hinert, c, hc, hdigit⟩ := hword
    refine neutral_words _ ?_
    rw [Piece.neutralWords, String.toList_append, List.all_append, hinert, inert_toString, List.head?_append, hc]
    simpa using hdigit

theorem neutral_tuple (h : e.InertTypes) (columns : List String) (entries : List Entry) :
    (tuple e columns entries).Neutral := by
  refine neutral_parenthesized (neutral_joined rfl fun f hf => ?_)
  rw [← List.map_uncurry_zip_eq_zipWith] at hf
  obtain ⟨⟨column, entry⟩, -, rfl⟩ := List.mem_map.1 hf
  cases entry with
  | value v => exact Sql.neutral_hole h column v
  | default => exact neutral_words _ rfl
  | null => exact neutral_words _ rfl

theorem neutral_table (e : Entity) : (table e).Neutral :=
  neutral_cons trivial (neutral_cons rfl (neutral_cons trivial neutral_nil))

theorem neutral_returning (e : Entity) : (returning e).Neutral :=
  neutral_append (neutral_words _ rfl) (neutral_columnList e)

/-- **A statement brings dollar signs only with its holes.** -/
theorem neutral_fragment (h : e.InertTypes) (s : Statement) : (s.fragment e).Neutral := by
  cases s with
  | select s =>
    have hread := neutral_append (neutral_append (neutral_words "SELECT " rfl) (neutral_columnList e))
      (neutral_words " FROM " rfl)
    have hrows := neutral_append (neutral_append hread (neutral_table e)) (Sql.neutral_whereClause h s.filter)
    have hordered := neutral_append hrows (neutral_orderClause e s.orderBy)
    exact neutral_append (neutral_append hordered (neutral_windowClause rfl s.limit)) (neutral_windowClause rfl s.offset)
  | count filter =>
    exact neutral_append (neutral_append (neutral_words _ rfl) (neutral_table e)) (Sql.neutral_whereClause h filter)
  | insert columns tuples =>
    have hnames : (commas (columns.map fun c => [.name c])).Neutral :=
      neutral_commas fun _ _ => neutral_cons trivial neutral_nil
    have htuples : (commas (tuples.map (tuple e columns))).Neutral :=
      neutral_commas fun entries _ => neutral_tuple h columns entries
    have hinto := neutral_append (neutral_append (neutral_words "INSERT INTO " rfl) (neutral_table e))
      (neutral_words " (" rfl)
    have hvalues := neutral_append (neutral_append hinto hnames) (neutral_words ") VALUES " rfl)
    exact neutral_append (neutral_append hvalues htuples) (neutral_returning e)
  | update changes filter =>
    have hchanges : (commas (changes.map (assignment e))).Neutral := neutral_commas fun change _ =>
      neutral_cons trivial (neutral_cons rfl (Sql.neutral_hole h change.1 change.2))
    have hset := neutral_append (neutral_append (neutral_words "UPDATE " rfl) (neutral_table e))
      (neutral_words " SET " rfl)
    exact neutral_append (neutral_append (neutral_append hset hchanges) (Sql.neutral_whereClause h filter))
      (neutral_returning e)
  | delete filter =>
    have hfrom := neutral_append (neutral_words "DELETE FROM " rfl) (neutral_table e)
    exact neutral_append (neutral_append hfrom (Sql.neutral_whereClause h filter)) (neutral_returning e)

end Statement

/-! ## Calls -/

namespace StoreCall

open Fragment Predicate Statement

/-- **Placeholders and parameters line up**: the placeholders in the text of a call are numbered from one on, each
number once and in its order, one for each parameter, and the parameters are the values of the call in their order. -/
theorem placeholders_in_order {e : Entity} (h : e.InertTypes) (c : StoreCall) :
    numbersIn ((c.statement e).sql e) = (List.range' 1 ((c.statement e).params e).length).map toString ∧
      (c.statement e).params e = c.bound e := by
  refine ⟨?_, params_eq_bound e c⟩
  rw [numbersIn, Statement.sql, Fragment.sql, String.toList_ofList]
  exact behindDollars_write 0 (neutral_fragment h (c.statement e))

theorem inertTypes_notes : (Notes.entity []).InertTypes := by
  intro c hc type htype
  obtain ⟨name, -, rfl⟩ := List.mem_map.1 hc
  cases htype
  rfl

/-- A column that is set, a name with a dollar sign and quotes in it, and a list. -/
theorem placeholders_in_order_notes :
    (Notes.entity []).InertTypes ∧
      numbersIn ((statement (Notes.entity []) (.rows (.update [("id", .str "2"), ("title", .str "final")]
        [.oneOf "say \"$9\"" [.str "a", .null] false]))).sql (Notes.entity [])) = ["1", "2", "3"] ∧
      (statement (Notes.entity []) (.rows (.update [("id", .str "2"), ("title", .str "final")]
        [.oneOf "say \"$9\"" [.str "a", .null] false]))).params (Notes.entity []) = [.str "final", .str "a", .null] :=
  ⟨inertTypes_notes, placeholders_in_order inertTypes_notes _⟩

end StoreCall

end RecordService
