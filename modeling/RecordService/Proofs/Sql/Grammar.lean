import RecordService.Proofs.Sql.Token
import RecordService.Query.Predicate
/-!
# Grammar — what a condition reads as

The grammar of conditions, as relations between tokens and what they read as when every placeholder stands for the
parameter with its number.  `AND` binds tighter than `OR`: a disjunction is made of conjunctions, and a conjunction of
comparisons, lists, null checks, constants and disjunctions in parentheses.

The grammar is not ambiguous (`Clause.unique`).  A reader goes through the tokens once, with the open parentheses on a
stack (`Reader`), and follows every derivation from wherever it stands (`run_primary`, `run_conjunction`,
`run_disjunction`); so two readings of the same tokens are what the reader ends with.
-/
namespace RecordService.Sql

section
variable (ps : List Json)

/-- A placeholder, with a cast or without one. -/
inductive Operand : List Token → Json → Prop where
  | bare {n : Nat} {v : Json} : ps[n]? = some v → Operand [.hole (n + 1)] v
  | typed {n : Nat} {v : Json} (type : String) : ps[n]? = some v → Operand [.hole (n + 1), .cast type] v

inductive Operands : List Token → List Json → Prop where
  | one {ts : List Token} {v : Json} : Operand ps ts v → Operands ts [v]
  | more {ts us : List Token} {v : Json} {vs : List Json} :
      Operand ps ts v → Operands us vs → Operands (ts ++ .comma :: us) (v :: vs)

mutual
inductive Primary : List Token → Predicate → Prop where
  | comparison (field : String) {op : Comparison} {ts : List Token} {v : Json} : op.takesPattern = false →
      Operand ps ts v → Primary (.name field :: .sign op.symbol :: ts) (.compare field op v)
  | pattern (field : String) {op : Comparison} {ts : List Token} {v : Json} : op.takesPattern = true →
      Operand ps ts v → Primary (.name field :: .cast "text" :: .word op.symbol :: ts) (.compare field op v)
  | isIn (field : String) {ts : List Token} {vs : List Json} : Operands ps ts vs →
      Primary (.name field :: .word "IN" :: .opening :: (ts ++ [.closing])) (.oneOf field vs false)
  | notIn (field : String) {ts : List Token} {vs : List Json} : Operands ps ts vs →
      Primary (.name field :: .word "NOT" :: .word "IN" :: .opening :: (ts ++ [.closing])) (.oneOf field vs true)
  | isNull (field : String) : Primary [.name field, .word "IS", .word "NULL"] (.isNull field false)
  | notNull (field : String) : Primary [.name field, .word "IS", .word "NOT", .word "NULL"] (.isNull field true)
  | always : Primary [.word "TRUE"] (.and [])
  | never : Primary [.word "FALSE"] (.or [])
  | parenthesized {ts : List Token} {alternatives : List Predicate} : Disjunction ts alternatives →
      Primary (.opening :: (ts ++ [.closing])) (.any alternatives)

/-- The members, in their order. -/
inductive Conjunction : List Token → List Predicate → Prop where
  | one {ts : List Token} {p : Predicate} : Primary ts p → Conjunction ts [p]
  | more {ts us : List Token} {p : Predicate} {members : List Predicate} : Primary ts p → Conjunction us members →
      Conjunction (ts ++ .word "AND" :: us) (p :: members)

/-- The alternatives, in their order. -/
inductive Disjunction : List Token → List Predicate → Prop where
  | one {ts : List Token} {members : List Predicate} : Conjunction ts members → Disjunction ts [.all members]
  | more {ts us : List Token} {members alternatives : List Predicate} : Conjunction ts members →
      Disjunction us alternatives → Disjunction (ts ++ .word "OR" :: us) (.all members :: alternatives)
end

/-- A condition in a clause of its own.  Without a clause, every row is meant. -/
inductive Clause : List Token → Predicate → Prop where
  | absent : Clause [] (.and [])
  | given {ts : List Token} {alternatives : List Predicate} : Disjunction ps ts alternatives →
      Clause (.word "WHERE" :: ts) (.any alternatives)

end

/-! ## The reader -/

/-- What a reader is in the middle of. -/
inductive Control where
  | start
  | named (field : String)
  | asText (field : String)
  | compared (field : String) (op : Comparison)
  | negated (field : String)
  | listed (field : String) (negated : Bool)
  | item (field : String) (negated : Bool) (values : List Json)
  | itemEnd (field : String) (negated : Bool) (values : List Json)
  | is (field : String)
  | isNot (field : String)
  | done

/-- The alternatives before the one at hand, and the members of that one. -/
structure Level where
  alternatives : List Predicate
  members : List Predicate

def Level.all (l : Level) : List Predicate := l.alternatives ++ [.all l.members]

structure Reader where
  control : Control
  level : Level
  /-- The levels around the parentheses that are open, the innermost first. -/
  outer : List Level

namespace Reader

def add (p : Predicate) (r : Reader) : Reader :=
  { r with control := .done, level := ⟨r.level.alternatives, r.level.members ++ [p]⟩ }

def goTo (control : Control) (r : Reader) : Reader := { r with control }

/-- A comparison by what it is written as. -/
def comparison? (text : String) : Option Comparison :=
  [Comparison.eq, .ne, .gt, .gte, .lt, .lte, .like, .ilike].find? (·.symbol = text)

/-- The parameter that a placeholder stands for. -/
def param? (ps : List Json) : Nat → Option Json
  | 0 => none
  | n + 1 => ps[n]?

/-- One token.  A cast is skipped wherever a placeholder may have come before it. -/
def step (ps : List Json) (r : Reader) : Token → Option Reader
  | .name field => match r.control with
    | .start => some (r.goTo (.named field))
    | _ => none
  | .hole n => match r.control with
    | .compared field op => (param? ps n).map fun v => r.add (.compare field op v)
    | .item field negated values => (param? ps n).map fun v => r.goTo (.itemEnd field negated (values ++ [v]))
    | _ => none
  | .cast type => match r.control with
    | .named field => if type = "text" then some (r.goTo (.asText field)) else none
    | .itemEnd _ _ _ => some r
    | .done => some r
    | _ => none
  | .sign text => match r.control with
    | .named field => (comparison? text).map fun op => r.goTo (.compared field op)
    | _ => none
  | .comma => match r.control with
    | .itemEnd field negated values => some (r.goTo (.item field negated values))
    | _ => none
  | .opening => match r.control with
    | .start => some ⟨.start, ⟨[], []⟩, r.level :: r.outer⟩
    | .listed field negated => some (r.goTo (.item field negated []))
    | _ => none
  | .closing => match r.control, r.outer with
    | .itemEnd field negated values, _ => some (r.add (.oneOf field values negated))
    | .done, level :: outer => some (add (.any r.level.all) ⟨.done, level, outer⟩)
    | _, _ => none
  | .word text => match r.control with
    | .start =>
      if text = "TRUE" then some (r.add (.and []))
      else if text = "FALSE" then some (r.add (.or []))
      else none
    | .named field =>
      if text = "IN" then some (r.goTo (.listed field false))
      else if text = "NOT" then some (r.goTo (.negated field))
      else if text = "IS" then some (r.goTo (.is field))
      else none
    | .asText field => (comparison? text).map fun op => r.goTo (.compared field op)
    | .negated field => if text = "IN" then some (r.goTo (.listed field true)) else none
    | .is field =>
      if text = "NULL" then some (r.add (.isNull field false))
      else if text = "NOT" then some (r.goTo (.isNot field))
      else none
    | .isNot field => if text = "NULL" then some (r.add (.isNull field true)) else none
    | .done =>
      if text = "AND" then some (r.goTo .start)
      else if text = "OR" then some ⟨.start, ⟨r.level.all, []⟩, r.outer⟩
      else none
    | _ => none

def run (ps : List Json) : Reader → List Token → Option Reader
  | r, [] => some r
  | r, t :: ts => (step ps r t).bind (run ps · ts)

variable {ps : List Json}

theorem run_cons {r s : Reader} {t : Token} {ts : List Token} (h : step ps r t = some s) :
    run ps r (t :: ts) = run ps s ts := by
  rw [run, h, Option.bind_some]

theorem run_append {r s : Reader} {ts : List Token} (us : List Token) (h : run ps r ts = some s) :
    run ps r (ts ++ us) = run ps s us := by
  induction ts generalizing r with
  | nil => cases h; rfl
  | cons t ts ih =>
    obtain ⟨mid, hstep, hrun⟩ := Option.bind_eq_some_iff.1 h
    rw [List.cons_append, run_cons hstep]
    exact ih hrun

theorem comparison?_symbol (op : Comparison) : comparison? op.symbol = some op := by
  cases op <;> rfl

/-! ### Following derivations -/

theorem run_compared {ts : List Token} {v : Json} (h : Operand ps ts v) (field : String) (op : Comparison)
    (level : Level) (outer : List Level) :
    run ps ⟨.compared field op, level, outer⟩ ts = some (add (.compare field op v) ⟨.start, level, outer⟩) := by
  cases h with
  | bare hv => simp only [run, step, param?, hv]; rfl
  | typed type hv => simp only [run, step, param?, hv]; rfl

theorem run_item {ts : List Token} {v : Json} (h : Operand ps ts v) (field : String) (negated : Bool)
    (values : List Json) (level : Level) (outer : List Level) :
    run ps ⟨.item field negated values, level, outer⟩ ts =
      some ⟨.itemEnd field negated (values ++ [v]), level, outer⟩ := by
  cases h with
  | bare hv => simp only [run, step, param?, hv]; rfl
  | typed type hv => simp only [run, step, param?, hv]; rfl

theorem run_items {ts : List Token} {vs : List Json} (h : Operands ps ts vs) (field : String) (negated : Bool)
    (values : List Json) (level : Level) (outer : List Level) :
    run ps ⟨.item field negated values, level, outer⟩ ts =
      some ⟨.itemEnd field negated (values ++ vs), level, outer⟩ := by
  induction h generalizing values with
  | one hv => exact run_item hv field negated values level outer
  | @more ts us v vs hv _ ih =>
    rw [run_append _ (run_item hv field negated values level outer)]
    have hlist : values ++ v :: vs = (values ++ [v]) ++ vs := by simp
    rw [hlist]
    exact ih (values ++ [v])

theorem run_listed {ts : List Token} {vs : List Json} (h : Operands ps ts vs) (field : String) (negated : Bool)
    (level : Level) (outer : List Level) :
    run ps ⟨.listed field negated, level, outer⟩ (.opening :: (ts ++ [.closing])) =
      some (add (.oneOf field vs negated) ⟨.start, level, outer⟩) :=
  run_append [.closing] (run_items h field negated [] level outer)

mutual
/-- From wherever one may begin, a primary is read as one more member. -/
theorem run_primary {ts : List Token} {p : Predicate} (level : Level) (outer : List Level) :
    Primary ps ts p → run ps ⟨.start, level, outer⟩ ts = some (add p ⟨.start, level, outer⟩)
  | @Primary.comparison _ field op ts v _ hv => by
    have hname : step ps ⟨.start, level, outer⟩ (.name field) = some ⟨.named field, level, outer⟩ := rfl
    have hsign : step ps ⟨.named field, level, outer⟩ (.sign op.symbol) = some ⟨.compared field op, level, outer⟩ := by
      rw [step, comparison?_symbol]; rfl
    rw [run_cons hname, run_cons hsign]
    exact run_compared hv field op level outer
  | @Primary.pattern _ field op ts v _ hv => by
    have hname : step ps ⟨.start, level, outer⟩ (.name field) = some ⟨.named field, level, outer⟩ := rfl
    have hcast : step ps ⟨.named field, level, outer⟩ (.cast "text") = some ⟨.asText field, level, outer⟩ := rfl
    have hword : step ps ⟨.asText field, level, outer⟩ (.word op.symbol) = some ⟨.compared field op, level, outer⟩ := by
      rw [step, comparison?_symbol]; rfl
    rw [run_cons hname, run_cons hcast, run_cons hword]
    exact run_compared hv field op level outer
  | .isIn field hvs => run_listed hvs field false level outer
  | .notIn field hvs => run_listed hvs field true level outer
  | .isNull field => rfl
  | .notNull field => rfl
  | .always => rfl
  | .never => rfl
  | @Primary.parenthesized _ ts alternatives h => by
    obtain ⟨inner, hrun, hall⟩ := run_disjunction [] (level :: outer) h
    have hopen : run ps ⟨.start, level, outer⟩ (.opening :: (ts ++ [.closing])) =
        run ps ⟨.start, ⟨[], []⟩, level :: outer⟩ (ts ++ [.closing]) := rfl
    rw [List.nil_append] at hall
    rw [hopen, run_append _ hrun, run, step, hall]
    rfl

/-- A conjunction is read as its members. -/
theorem run_conjunction {ts : List Token} {members : List Predicate} (level : Level) (outer : List Level) :
    Conjunction ps ts members → run ps ⟨.start, level, outer⟩ ts =
      some ⟨.done, ⟨level.alternatives, level.members ++ members⟩, outer⟩
  | .one h => run_primary level outer h
  | @Conjunction.more _ ts us p members h hrest => by
    have hnext : run ps (add p ⟨.start, level, outer⟩) (.word "AND" :: us) =
        run ps ⟨.start, ⟨level.alternatives, level.members ++ [p]⟩, outer⟩ us := rfl
    rw [run_append _ (run_primary level outer h), hnext, run_conjunction _ outer hrest, List.append_assoc]
    rfl

/-- A disjunction is read as its alternatives, the last of which stays open. -/
theorem run_disjunction {ts : List Token} {alternatives : List Predicate} (before : List Predicate)
    (outer : List Level) : Disjunction ps ts alternatives →
      ∃ level : Level, run ps ⟨.start, ⟨before, []⟩, outer⟩ ts = some ⟨.done, level, outer⟩ ∧
        level.all = before ++ alternatives
  | .one h => ⟨_, run_conjunction ⟨before, []⟩ outer h, rfl⟩
  | @Disjunction.more _ ts us members alternatives h hrest => by
    obtain ⟨level, hrun, hall⟩ := run_disjunction (before ++ [.all members]) outer hrest
    refine ⟨level, ?_, by rw [hall, List.append_assoc]; rfl⟩
    rw [run_append _ (run_conjunction ⟨before, []⟩ outer h)]
    exact hrun
end

example : ((tokenize "\"a\" IS NULL OR \"b\" IS NULL AND \"c\" IS NULL".toList).bind
    (run [] ⟨.start, ⟨[], []⟩, []⟩)).map (·.level.all) =
      some [.isNull "a" false, .and [.isNull "b" false, .isNull "c" false]] := rfl

end Reader

/-! ## One reading -/

variable {ps : List Json}

theorem Disjunction.unique {ts : List Token} {a b : List Predicate} (ha : Disjunction ps ts a)
    (hb : Disjunction ps ts b) : a = b := by
  obtain ⟨x, hx, hxa⟩ := Reader.run_disjunction [] [] ha
  obtain ⟨y, hy, hyb⟩ := Reader.run_disjunction [] [] hb
  rw [hx] at hy
  cases hy
  exact hxa.symm.trans hyb

/-- **Tokens have one reading at most.** -/
theorem Clause.unique {ts : List Token} {p q : Predicate} (hp : Clause ps ts p) (hq : Clause ps ts q) : p = q := by
  cases hp with
  | absent => cases hq; rfl
  | given ha =>
    cases hq with
    | given hb => rw [ha.unique hb]

end RecordService.Sql
