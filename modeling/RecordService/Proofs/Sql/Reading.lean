import Mathlib.Data.List.Forall2
import RecordService.Proofs.Pipeline.Memory
import RecordService.Proofs.Sql.Fragment
import RecordService.Proofs.Sql.Grammar
import RecordService.Sql.Condition
/-!
# Reading — conditions read back

The condition of a predicate reads as the predicate again (`readsAs_condition`), with groups of one unwrapped and
empty groups and lists as constants (`Predicate.collapse`), when the parameters stand where its holes are numbered.
The text of a clause scans as its tokens (`lexes_whereClause`) once the types of the columns are plain names, whatever
the fields and the values are, and the grammar is not ambiguous; so the text has one reading, the conjunction of the
filter (`whereClause_reads_iff`).
-/
namespace RecordService

namespace Predicate

mutual
/-- Groups of one are unwrapped, and empty lists are constants. -/
def collapse : Predicate → Predicate
  | .compare field op value => .compare field op value
  | .oneOf field values negated =>
    if values.isEmpty then (if negated then .and [] else .or []) else .oneOf field values negated
  | .isNull field negated => .isNull field negated
  | .and group => .all (collapseAll group)
  | .or group => .any (collapseAll group)
termination_by structural p => p

def collapseAll : List Predicate → List Predicate
  | [] => []
  | p :: rest => collapse p :: collapseAll rest
termination_by structural ps => ps
end

end Predicate

namespace Sql

open Fragment

/-! ## Where the parameters stand -/

variable {ps : List Json}

/-- The fragment's values are the parameters after the first `n`. -/
def Placed (ps : List Json) (n : Nat) (f : Fragment) : Prop := f.params <+: ps.drop n

theorem Placed.left {n : Nat} {f g : Fragment} (h : Placed ps n (f ++ g)) : Placed ps n f := by
  unfold Placed at *
  rw [params_append] at h
  exact (List.prefix_append f.params g.params).trans h

theorem Placed.right {n : Nat} {f g : Fragment} (h : Placed ps n (f ++ g)) : Placed ps (n + f.params.length) g := by
  unfold Placed at *
  rw [params_append] at h
  obtain ⟨rest, hrest⟩ := h
  refine ⟨rest, ?_⟩
  rw [← List.drop_drop, ← hrest, List.append_assoc, List.drop_left]

theorem Placed.parenthesized {n : Nat} {f : Fragment} (h : Placed ps n f.parenthesized) : Placed ps n f := by
  unfold Placed at *
  rwa [params_parenthesized] at h

/-- The tokens of the fragment read as something, wherever its values stand. -/
def ReadsAs {α : Type} (ps : List Json) (Reading : List Token → α → Prop) (f : Fragment) (a : α) : Prop :=
  ∀ n, Placed ps n f → Reading (tokens n f) a

theorem readsAs_hole (ps : List Json) (cast : Option String) (value : Json) :
    ReadsAs ps (Operand ps) [.hole cast value] value := by
  rintro n ⟨rest, hrest⟩
  have hvalue : ps[n]? = some value := by
    have hhead : (ps.drop n)[0]? = some value := by rw [← hrest]; rfl
    rwa [List.getElem?_drop] at hhead
  cases cast with
  | none => exact .bare hvalue
  | some type => exact .typed type hvalue

/-- What is joined reads as a list, when the separator is the token between the members of such lists. -/
theorem readsAs_joined {α : Type} {Member : List Token → α → Prop} {Members : List Token → List α → Prop}
    {separator : String} {mark : Token} (hmark : tokenize separator.toList = some [mark])
    (one : ∀ {ts a}, Member ts a → Members ts [a])
    (more : ∀ {ts us a as}, Member ts a → Members us as → Members (ts ++ mark :: us) (a :: as)) {fs : List Fragment}
    {as : List α} (h : List.Forall₂ (ReadsAs ps Member) fs as) (hne : fs ≠ []) :
    ReadsAs ps Members (joined separator fs) as := by
  induction h with
  | nil => exact absurd rfl hne
  | @cons f a fs as hf hrest ih =>
    intro n hplaced
    cases hrest with
    | nil => exact one (hf n hplaced)
    | @cons g b gs bs hg hgs =>
      have hseparator : ∀ m, tokens m [.words separator] = [mark] := fun m => by rw [tokens, hmark]; rfl
      rw [joined, List.append_assoc] at hplaced ⊢
      rw [tokens_append, tokens_append, hseparator]
      exact more (hf n hplaced.left) (ih (List.cons_ne_nil g gs) _ hplaced.right.right)

/-! ## Conditions -/

theorem run_symbol {op : Comparison} (h : op.takesPattern = false) :
    Scan.blank.run (" " ++ op.symbol ++ " ").toList = some ([.sign op.symbol], .blank) := by
  cases op with
  | like => cases h
  | ilike => cases h
  | _ => rfl

theorem run_pattern {op : Comparison} (h : op.takesPattern = true) :
    Scan.blank.run ("::text " ++ op.symbol ++ " ").toList = some ([.cast "text", .word op.symbol], .blank) := by
  cases op with
  | like => rfl
  | ilike => rfl
  | _ => cases h

theorem readsAs_comparison (e : Entity) (field : String) (op : Comparison) (value : Json) :
    ReadsAs ps (Primary ps) (comparison e field op value) (.compare field op value) := by
  intro n h
  unfold comparison at h ⊢
  cases hop : op.takesPattern with
  | true =>
    rw [hop, if_pos rfl] at h
    rw [if_pos rfl, tokens, tokens, tokenize_of_run (run_pattern hop) rfl]
    exact .pattern field hop (readsAs_hole ps none value _ h)
  | false =>
    rw [hop, if_neg Bool.false_ne_true] at h
    rw [if_neg Bool.false_ne_true, tokens_append, tokens, tokens, tokenize_of_run (run_symbol hop) rfl]
    exact .comparison field hop (readsAs_hole ps _ value _ h.right)

theorem readsAs_membership (e : Entity) (field : String) (values : List Json) (negated : Bool) :
    ReadsAs ps (Primary ps) (membership e field values negated)
      (Predicate.collapse (.oneOf field values negated)) := by
  intro n h
  unfold membership at h ⊢
  rw [Predicate.collapse]
  by_cases hempty : values.isEmpty = true
  · rw [if_pos hempty, if_pos hempty]
    cases negated with
    | true => exact .always
    | false => exact .never
  · rw [if_neg hempty] at h
    rw [if_neg hempty, if_neg hempty, tokens_append, tokens_parenthesized]
    have hholes : List.Forall₂ (ReadsAs ps (Operand ps)) (values.map (hole e field)) values :=
      List.forall₂_map_left_iff.2 (List.forall₂_same.2 fun value _ => readsAs_hole ps _ value)
    have hne : values.map (hole e field) ≠ [] := fun hnil => hempty (List.isEmpty_iff.2 (List.map_eq_nil_iff.1 hnil))
    have hvalues : ReadsAs ps (Operands ps) (commas (values.map (hole e field))) values :=
      readsAs_joined rfl .one .more hholes hne
    have hlist := hvalues _ h.right.parenthesized
    cases negated with
    | true => exact .notIn field hlist
    | false => exact .isIn field hlist

theorem readsAs_nullCheck (field : String) (negated : Bool) :
    ReadsAs ps (Primary ps) (nullCheck field negated) (.isNull field negated) := by
  intro n _
  cases negated with
  | true => exact .notNull field
  | false => exact .isNull field

/-- Conditions joined by `AND`. -/
theorem readsAs_members {fs : List Fragment} {qs : List Predicate}
    (h : List.Forall₂ (ReadsAs ps (Primary ps)) fs qs) (hne : fs ≠ []) :
    ReadsAs ps (Conjunction ps) (joined " AND " fs) qs :=
  readsAs_joined rfl .one .more h hne

/-- Conditions joined by `OR`, each an alternative by itself. -/
theorem readsAs_alternatives {fs : List Fragment} {qs : List Predicate}
    (h : List.Forall₂ (ReadsAs ps (Primary ps)) fs qs) (hne : fs ≠ []) :
    ReadsAs ps (Disjunction ps) (joined " OR " fs) qs :=
  readsAs_joined rfl (fun hp => .one (.one hp)) (fun hp hrest => .more (.one hp) hrest) h hne

theorem readsAs_and {fs : List Fragment} {qs : List Predicate} (h : List.Forall₂ (ReadsAs ps (Primary ps)) fs qs) :
    ReadsAs ps (Primary ps) (grouped " AND " "TRUE" fs) (.all qs) := by
  intro n hplaced
  match h with
  | .nil => exact .always
  | .cons hf .nil => exact hf n hplaced
  | .cons hf (.cons hg hrest) =>
    have hall := readsAs_members (.cons hf (.cons hg hrest)) (List.cons_ne_nil _ _) n hplaced.parenthesized
    exact tokens_parenthesized n _ ▸ .parenthesized (.one hall)

theorem readsAs_or {fs : List Fragment} {qs : List Predicate} (h : List.Forall₂ (ReadsAs ps (Primary ps)) fs qs) :
    ReadsAs ps (Primary ps) (grouped " OR " "FALSE" fs) (.any qs) := by
  intro n hplaced
  match h with
  | .nil => exact .never
  | .cons hf .nil => exact hf n hplaced
  | .cons hf (.cons hg hrest) =>
    have hall := readsAs_alternatives (.cons hf (.cons hg hrest)) (List.cons_ne_nil _ _) n hplaced.parenthesized
    exact tokens_parenthesized n _ ▸ .parenthesized hall

mutual
/-- **The condition of a predicate reads as the predicate.** -/
theorem readsAs_condition (e : Entity) (ps : List Json) : ∀ p : Predicate,
    ReadsAs ps (Primary ps) (condition e p) p.collapse
  | .compare field op value => readsAs_comparison e field op value
  | .oneOf field values negated => readsAs_membership e field values negated
  | .isNull field negated => readsAs_nullCheck field negated
  | .and group => readsAs_and (readsAs_conditions e ps group)
  | .or group => readsAs_or (readsAs_conditions e ps group)

theorem readsAs_conditions (e : Entity) (ps : List Json) : ∀ group : List Predicate,
    List.Forall₂ (ReadsAs ps (Primary ps)) (conditions e group) (Predicate.collapseAll group)
  | [] => .nil
  | p :: rest => .cons (readsAs_condition e ps p) (readsAs_conditions e ps rest)
end

/-! ## The text of a clause -/

/-- Every type that values are cast to is written in the characters of types. -/
def PlainTypes (e : Entity) : Prop := ∀ c ∈ e.columns, ∀ type ∈ c.pgType, ∀ ch ∈ type.toList, isTypeChar ch = true

theorem mem_of_findColumn {name : String} {c : Column} : ∀ {cs : List Column}, Entity.findColumn cs name = some c → c ∈ cs
  | d :: rest, h => by
    unfold Entity.findColumn at h
    split at h
    · cases h; exact List.mem_cons_self
    · exact List.mem_cons_of_mem d (mem_of_findColumn h)

theorem PlainTypes.cast {e : Entity} (h : PlainTypes e) (field : String) :
    ∀ type ∈ cast e field, ∀ ch ∈ type.toList, isTypeChar ch = true := by
  intro type htype
  obtain ⟨c, hc, hpg⟩ := Option.bind_eq_some_iff.1 htype
  exact h c (mem_of_findColumn hc) type hpg

variable {e : Entity}

theorem lexes_comparison (h : PlainTypes e) (field : String) (op : Comparison) (value : Json) :
    Lexes (comparison e field op value) := by
  unfold comparison
  cases hop : op.takesPattern with
  | true =>
    rw [if_pos rfl]
    refine lexes_compared field (.inr ?_) (run_pattern hop) (fun _ hnone => by cases hnone) value
    cases op <;> rfl
  | false =>
    rw [if_neg Bool.false_ne_true]
    refine lexes_compared field (.inl ?_) (run_symbol hop) (h.cast field) value
    cases op <;> rfl

theorem lexes_membership (h : PlainTypes e) (field : String) (values : List Json) (negated : Bool) :
    Lexes (membership e field values negated) := by
  unfold membership
  by_cases hempty : values.isEmpty = true
  · rw [if_pos hempty]
    cases negated with
    | true => exact lexes_words rfl
    | false => exact lexes_words rfl
  · have hlist : Lexes (commas (values.map (hole e field))) := by
      refine Lexes.joined separates_comma fun f hf => ?_
      obtain ⟨value, -, rfl⟩ := List.mem_map.1 hf
      exact lexes_hole (h.cast field) value
    rw [if_neg hempty]
    intro n rest _
    cases negated with
    | true =>
      have hwords : ∀ n rest, LexesBefore n [.words " NOT IN "] rest := lexesBefore_words_closed rfl rfl fun _ => rfl
      exact LexesBefore.named field (.inl rfl) (LexesBefore.append (hwords _ _) (LexesBefore.parenthesized hlist _ rest))
    | false =>
      have hwords : ∀ n rest, LexesBefore n [.words " IN "] rest := lexesBefore_words_closed rfl rfl fun _ => rfl
      exact LexesBefore.named field (.inl rfl) (LexesBefore.append (hwords _ _) (LexesBefore.parenthesized hlist _ rest))

theorem lexes_nullCheck (field : String) (negated : Bool) : Lexes (nullCheck field negated) := by
  intro n rest hrest
  cases negated with
  | true => exact LexesBefore.named field (.inl rfl) (lexes_words rfl n rest hrest)
  | false => exact LexesBefore.named field (.inl rfl) (lexes_words rfl n rest hrest)

theorem lexes_grouped {separator empty : String} (hsep : Separates separator) (hempty : Lexes [.words empty])
    {fs : List Fragment} (h : ∀ f ∈ fs, Lexes f) : Lexes (grouped separator empty fs) := by
  intro n rest hrest
  match fs with
  | [] => exact hempty n rest hrest
  | [f] => exact h f List.mem_cons_self n rest hrest
  | f :: g :: fs => exact LexesBefore.parenthesized (Lexes.joined hsep h) n rest

mutual
/-- **The text of a condition scans as its tokens**, whatever the fields and the values are. -/
theorem lexes_condition (h : PlainTypes e) : ∀ p : Predicate, Lexes (condition e p)
  | .compare field op value => lexes_comparison h field op value
  | .oneOf field values negated => lexes_membership h field values negated
  | .isNull field negated => lexes_nullCheck field negated
  | .and group => lexes_grouped separates_and (lexes_words rfl) (lexes_conditions h group)
  | .or group => lexes_grouped separates_or (lexes_words rfl) (lexes_conditions h group)

theorem lexes_conditions (h : PlainTypes e) : ∀ group : List Predicate, ∀ f ∈ conditions e group, Lexes f
  | [], _, hf => by cases hf
  | p :: rest, f, hf => by
    obtain rfl | hf := List.mem_cons.1 hf
    · exact lexes_condition h p
    · exact lexes_conditions h rest f hf
end

theorem lexes_whereClause (h : PlainTypes e) (filter : List Predicate) : Lexes (whereClause e filter) := by
  unfold whereClause
  split
  · exact lexes_nil
  · have hwords : ∀ n rest, LexesBefore n [.words " WHERE "] rest := lexesBefore_words_closed rfl rfl fun _ => rfl
    intro n rest hrest
    exact LexesBefore.append (hwords _ _) (Lexes.joined separates_and (lexes_conditions h filter) _ rest hrest)

theorem clause_of_placed {filter : List Predicate} {n : Nat} (h : Placed ps n (whereClause e filter)) :
    Clause ps (tokens n (whereClause e filter)) (Predicate.collapse (.and filter)) := by
  unfold whereClause at h ⊢
  match filter with
  | [] => exact .absent
  | p :: rest =>
    rw [List.isEmpty_cons, if_neg Bool.false_ne_true] at h
    rw [List.isEmpty_cons, if_neg Bool.false_ne_true, tokens_append]
    have hall := readsAs_members (readsAs_conditions e ps (p :: rest)) (List.cons_ne_nil _ _) _ h.right
    exact .given (.one hall)

/-- The text of a clause reads as a predicate. -/
def Reads (ps : List Json) (text : List Char) (p : Predicate) : Prop := ∃ ts, tokenize text = some ts ∧ Clause ps ts p

/-- **The clause reads as the conjunction of the filter, and as nothing else**: with the parameters that were bound
before it and its own, the text of a clause reads as a predicate exactly when that is the conjunction of the filter,
its groups of one unwrapped and its empty groups and lists as constants. -/
theorem whereClause_reads_iff (h : PlainTypes e) (filter : List Predicate) (earlier : List Json) (p : Predicate) :
    Reads (earlier ++ (whereClause e filter).params) ((whereClause e filter).write earlier.length) p ↔
      p = Predicate.collapse (.and filter) := by
  have hplaced : Placed (earlier ++ (whereClause e filter).params) earlier.length (whereClause e filter) := by
    have hdrop : (earlier ++ (whereClause e filter).params).drop earlier.length = (whereClause e filter).params :=
      List.drop_left
    exact ⟨[], (List.append_nil _).trans hdrop.symm⟩
  have hclause := clause_of_placed hplaced
  have htext := (lexes_whereClause h filter).tokenize earlier.length
  constructor
  · rintro ⟨ts, hts, hp⟩
    rw [htext] at hts
    cases hts
    exact hp.unique hclause
  · rintro rfl
    exact ⟨_, htext, hclause⟩

theorem plainTypes_notes : PlainTypes (Notes.entity []) := by
  intro c hc type htype ch hch
  obtain ⟨name, -, rfl⟩ := List.mem_map.1 hc
  cases htype
  have hall : "text".toList.all isTypeChar = true := rfl
  exact List.all_eq_true.1 hall ch hch

/-- A quote in a name, a value bound before, a group of one and an empty list. -/
theorem whereClause_reads_notes :
    PlainTypes (Notes.entity []) ∧
      Reads [.str "final", .str "a", .str "%x%"]
        " WHERE \"tenant\" = $2::text AND (\"say \"\"hi\"\"\"::text LIKE $3 OR \"team\" IS NOT NULL) AND TRUE".toList
        (.and [.eq "tenant" (.str "a"), .or [.compare "say \"hi\"" .like (.str "%x%"), .isNull "team" true], .and []]) :=
  ⟨plainTypes_notes, (whereClause_reads_iff plainTypes_notes [.eq "tenant" (.str "a"),
    .or [.compare "say \"hi\"" .like (.str "%x%"), .and [.isNull "team" true]], .oneOf "id" [] true]
    [.str "final"] _).2 rfl⟩

end Sql

end RecordService
