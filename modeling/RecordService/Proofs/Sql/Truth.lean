import RecordService.Proofs.Sql.Reading
/-!
# Truth — the rows a condition selects

SQL conditions have three truth values: a comparison with null is unknown, and the connectives are Kleene's
(`Predicate.truth`).  A database selects a row when the condition, read back from its tokens, is true of it (`Selects`);
that is the truth of the predicate itself (`selects_iff`).

The memory store selects the same rows, except under `NOT IN`: an empty list, which is true of every row, does not hold
of a null cell, and a null member, which makes the list unknown where it is not false, is passed over
(`selects_same_iff`).
-/
namespace RecordService

inductive Truth where
  | true
  | unknown
  | false
  deriving DecidableEq

namespace Truth

def ofBool : Bool → Truth
  | .true => .true
  | .false => .false

def not : Truth → Truth
  | .true => .false
  | .unknown => .unknown
  | .false => .true

def and : Truth → Truth → Truth
  | .false, _ => .false
  | _, .false => .false
  | .true, .true => .true
  | _, _ => .unknown

def or : Truth → Truth → Truth
  | .true, _ => .true
  | _, .true => .true
  | .false, .false => .false
  | _, _ => .unknown

variable {a b : Truth}

@[simp] theorem ofBool_eq_true {test : Bool} : ofBool test = .true ↔ test = Bool.true := by cases test <;> decide

@[simp] theorem ofBool_eq_false {test : Bool} : ofBool test = .false ↔ test = Bool.false := by cases test <;> decide

@[simp] theorem not_eq_true : a.not = .true ↔ a = .false := by cases a <;> decide

@[simp] theorem and_eq_true : a.and b = .true ↔ a = .true ∧ b = .true := by cases a <;> cases b <;> decide

@[simp] theorem or_eq_true : a.or b = .true ↔ a = .true ∨ b = .true := by cases a <;> cases b <;> decide

@[simp] theorem or_eq_false : a.or b = .false ↔ a = .false ∧ b = .false := by cases a <;> cases b <;> decide

@[simp] theorem and_true (a : Truth) : a.and .true = a := by cases a <;> rfl

@[simp] theorem or_false (a : Truth) : a.or .false = a := by cases a <;> rfl

/-- The outcome of a test of two values, which says nothing about null. -/
def ofTest (cell value : Json) (test : Bool) : Truth :=
  if cell.isNull || value.isNull then .unknown else ofBool test

theorem ofTest_eq_true {cell value : Json} {test : Bool} :
    ofTest cell value test = .true ↔ cell.isNull = Bool.false ∧ value.isNull = Bool.false ∧ test = Bool.true := by
  unfold ofTest
  cases cell.isNull <;> cases value.isNull <;> simp [ofBool_eq_true]

theorem ofTest_eq_false {cell value : Json} {test : Bool} :
    ofTest cell value test = .false ↔ cell.isNull = Bool.false ∧ value.isNull = Bool.false ∧ test = Bool.false := by
  unfold ofTest
  cases cell.isNull <;> cases value.isNull <;> simp [ofBool_eq_false]

/-- Whether a cell is equal to one of the values. -/
def among (cell : Json) : List Json → Truth
  | [] => .false
  | v :: rest => (ofTest cell v (Cell.equal cell v)).or (among cell rest)

theorem among_eq_true {cell : Json} {values : List Json} : among cell values = .true ↔
    ∃ v ∈ values, cell.isNull = Bool.false ∧ v.isNull = Bool.false ∧ Cell.equal cell v = Bool.true := by
  induction values with
  | nil => simp [among]
  | cons v rest ih => simp only [among, or_eq_true, ofTest_eq_true, ih, List.mem_cons, exists_eq_or_imp]

theorem among_eq_false {cell : Json} {values : List Json} : among cell values = .false ↔
    ∀ v ∈ values, cell.isNull = Bool.false ∧ v.isNull = Bool.false ∧ Cell.equal cell v = Bool.false := by
  induction values with
  | nil => simp [among]
  | cons v rest ih => rw [among, or_eq_false, ofTest_eq_false, ih, List.forall_mem_cons]

end Truth

namespace Predicate

mutual
/-- Three-valued.  Two values that are not null are compared as the store compares them. -/
def truth (row : Row) : Predicate → Truth
  | .compare field op value => .ofTest (row.cell field) value (op.holds (row.cell field) value)
  | .oneOf field values negated =>
    if negated then (Truth.among (row.cell field) values).not else .among (row.cell field) values
  | .isNull field negated => .ofBool ((row.cell field).isNull != negated)
  | .and group => truthOfAll row group
  | .or group => truthOfSome row group
termination_by structural p => p

def truthOfAll (row : Row) : List Predicate → Truth
  | [] => .true
  | p :: rest => (truth row p).and (truthOfAll row rest)
termination_by structural ps => ps

def truthOfSome (row : Row) : List Predicate → Truth
  | [] => .false
  | p :: rest => (truth row p).or (truthOfSome row rest)
termination_by structural ps => ps
end

/-! ## Reading back keeps the truth -/

theorem truth_all (row : Row) (group : List Predicate) : (Predicate.all group).truth row = truthOfAll row group := by
  match group with
  | [] => rfl
  | [p] => exact (Truth.and_true _).symm
  | p :: q :: rest => rfl

theorem truth_any (row : Row) (group : List Predicate) : (Predicate.any group).truth row = truthOfSome row group := by
  match group with
  | [] => rfl
  | [p] => exact (Truth.or_false _).symm
  | p :: q :: rest => rfl

mutual
theorem truth_collapse (row : Row) : ∀ p : Predicate, p.collapse.truth row = p.truth row
  | .compare _ _ _ => rfl
  | .oneOf field values negated => by
    cases values with
    | nil => cases negated <;> rfl
    | cons v rest => rfl
  | .isNull _ _ => rfl
  | .and group => (truth_all row _).trans (truthOfAll_collapse row group)
  | .or group => (truth_any row _).trans (truthOfSome_collapse row group)

theorem truthOfAll_collapse (row : Row) : ∀ group : List Predicate,
    truthOfAll row (collapseAll group) = truthOfAll row group
  | [] => rfl
  | p :: rest => congrArg₂ Truth.and (truth_collapse row p) (truthOfAll_collapse row rest)

theorem truthOfSome_collapse (row : Row) : ∀ group : List Predicate,
    truthOfSome row (collapseAll group) = truthOfSome row group
  | [] => rfl
  | p :: rest => congrArg₂ Truth.or (truth_collapse row p) (truthOfSome_collapse row rest)
end

end Predicate

namespace Sql

/-- **A database selects the row**: the condition of the predicate reads as one that is true of it. -/
def Selects (e : Entity) (row : Row) (p : Predicate) : Prop :=
  ∃ alternatives, Disjunction (condition e p).params (Fragment.tokens 0 (condition e p)) alternatives ∧
    (Predicate.any alternatives).truth row = .true

theorem selects_iff (e : Entity) (row : Row) (p : Predicate) : Selects e row p ↔ p.truth row = .true := by
  have hplaced : Placed (condition e p).params 0 (condition e p) := List.prefix_rfl
  have hreads : Disjunction (condition e p).params (Fragment.tokens 0 (condition e p)) [p.collapse] :=
    .one (.one (readsAs_condition e _ p 0 hplaced))
  have htruth : (Predicate.any [p.collapse]).truth row = p.truth row := Predicate.truth_collapse row p
  constructor
  · rintro ⟨alternatives, h, htrue⟩
    rw [h.unique hreads, htruth] at htrue
    exact htrue
  · intro htrue
    exact ⟨_, hreads, htruth.trans htrue⟩

end Sql

/-! ## The memory store -/

namespace Predicate

mutual
/-- The predicate and every predicate inside it. -/
def parts : Predicate → List Predicate
  | .and group => .and group :: partsOfAll group
  | .or group => .or group :: partsOfAll group
  | p => [p]
termination_by structural p => p

def partsOfAll : List Predicate → List Predicate
  | [] => []
  | p :: rest => parts p ++ partsOfAll rest
termination_by structural ps => ps
end

theorem mem_parts_self (p : Predicate) : p ∈ p.parts := by
  cases p <;> exact List.mem_cons_self

theorem mem_partsOfAll {q p : Predicate} : ∀ {group : List Predicate}, p ∈ group → q ∈ p.parts → q ∈ partsOfAll group
  | r :: rest, hp, hq => by
    obtain rfl | hp := List.mem_cons.1 hp
    · exact List.mem_append_left _ hq
    · exact List.mem_append_right _ (mem_partsOfAll hp hq)

mutual
theorem mem_parts_trans {q r : Predicate} (hr : r ∈ q.parts) : ∀ p : Predicate, q ∈ p.parts → r ∈ p.parts
  | .compare _ _ _, hq => by cases List.mem_singleton.1 hq; exact hr
  | .oneOf _ _ _, hq => by cases List.mem_singleton.1 hq; exact hr
  | .isNull _ _, hq => by cases List.mem_singleton.1 hq; exact hr
  | .and group, hq => by
    obtain rfl | hq := List.mem_cons.1 hq
    · exact hr
    · exact List.mem_cons_of_mem _ (mem_partsOfAll_trans hr group hq)
  | .or group, hq => by
    obtain rfl | hq := List.mem_cons.1 hq
    · exact hr
    · exact List.mem_cons_of_mem _ (mem_partsOfAll_trans hr group hq)

theorem mem_partsOfAll_trans {q r : Predicate} (hr : r ∈ q.parts) : ∀ group : List Predicate, q ∈ partsOfAll group →
    r ∈ partsOfAll group
  | p :: rest, hq => by
    obtain hq | hq := List.mem_append.1 hq
    · exact List.mem_append_left _ (mem_parts_trans hr p hq)
    · exact List.mem_append_right _ (mem_partsOfAll_trans hr rest hq)
end

/-! ### Lists -/

/-- What a list under `NOT IN` is held alike for: an empty one for a cell that is not null, and one with null in it for a
cell that is null, or equal to a member. -/
structure Settled (row : Row) (field : String) (values : List Json) : Prop where
  empty : values = [] → (row.cell field).isNull = false
  null : values.any Json.isNull = true →
    (row.cell field).isNull = true ∨ values.any (Cell.equal (row.cell field)) = true

theorem holds_isIn_iff (row : Row) (field : String) (values : List Json) :
    (oneOf field values false).holds row = true ↔ (oneOf field values false).truth row = .true := by
  have hholds : (oneOf field values false).holds row = true ↔
      (row.cell field).isNull = false ∧ ∃ v ∈ values, Cell.equal (row.cell field) v = true := by
    simp [holds]
  rw [hholds, truth, if_neg Bool.false_ne_true, Truth.among_eq_true]
  constructor
  · rintro ⟨hcell, v, hv, heq⟩
    have hvalue : v.isNull = false := by
      cases hnull : v.isNull with
      | false => rfl
      | true => rw [Cell.equal_null hcell hnull] at heq; cases heq
    exact ⟨v, hv, hcell, hvalue, heq⟩
  · rintro ⟨v, hv, hcell, -, heq⟩
    exact ⟨hcell, v, hv, heq⟩

/-- **A list under `NOT IN` is held alike exactly when it is settled.** -/
theorem holds_notIn_iff (row : Row) (field : String) (values : List Json) :
    ((oneOf field values true).holds row = true ↔ (oneOf field values true).truth row = .true) ↔
      Settled row field values := by
  have hholds : (oneOf field values true).holds row = true ↔
      (row.cell field).isNull = false ∧ ∀ v ∈ values, Cell.equal (row.cell field) v = false := by
    simp [holds]
  rw [hholds, truth, if_pos rfl, Truth.not_eq_true, Truth.among_eq_false]
  constructor
  · intro h
    refine ⟨fun hnil => ?_, fun hnull => ?_⟩
    · subst hnil
      exact (h.2 fun v hv => by cases hv).1
    · obtain ⟨v, hv, hvalue⟩ := List.any_eq_true.1 hnull
      by_cases hcell : (row.cell field).isNull = true
      · exact .inl hcell
      · -- Otherwise the store would hold the list, and the database would not know.
        refine .inr (Classical.byContradiction fun hany => ?_)
        have hnone : ∀ w ∈ values, Cell.equal (row.cell field) w = false := by simpa using hany
        have htrue := (h.1 ⟨by simpa using hcell, hnone⟩ v hv).2.1
        rw [hvalue] at htrue
        cases htrue
  · rintro ⟨hempty, hnull⟩
    constructor
    · rintro ⟨hcell, hnone⟩ v hv
      refine ⟨hcell, ?_, hnone v hv⟩
      cases hvalue : v.isNull with
      | false => rfl
      | true =>
        obtain hcell' | hany := hnull (List.any_eq_true.2 ⟨v, hv, hvalue⟩)
        · rw [hcell] at hcell'; cases hcell'
        · obtain ⟨w, hw, heq⟩ := List.any_eq_true.1 hany
          rw [hnone w hw] at heq; cases heq
    · intro hall
      refine ⟨?_, fun v hv => (hall v hv).2.2⟩
      cases hvalues : values with
      | nil => exact hempty hvalues
      | cons v rest => exact (hall v (hvalues ▸ List.mem_cons_self)).1

mutual
theorem holds_iff_truth {row : Row} : ∀ p : Predicate,
    (∀ field values, .oneOf field values true ∈ p.parts → Settled row field values) →
      (p.holds row = true ↔ p.truth row = .true)
  | .compare field op value, _ => by
    rw [truth, Truth.ofTest_eq_true, holds]
    simp [and_assoc]
  | .oneOf field values true, h => (holds_notIn_iff row field values).2 (h field values (mem_parts_self _))
  | .oneOf field values false, _ => holds_isIn_iff row field values
  | .isNull field negated, _ => Truth.ofBool_eq_true.symm
  | .and group, h => allHold_iff_truth group fun field values hmem => h field values (List.mem_cons_of_mem _ hmem)
  | .or group, h => someHold_iff_truth group fun field values hmem => h field values (List.mem_cons_of_mem _ hmem)

theorem allHold_iff_truth {row : Row} : ∀ group : List Predicate,
    (∀ field values, .oneOf field values true ∈ partsOfAll group → Settled row field values) →
      (allHold row group = true ↔ truthOfAll row group = .true)
  | [], _ => ⟨fun _ => rfl, fun _ => rfl⟩
  | p :: rest, h => by
    have hp := holds_iff_truth p fun field values hmem => h field values (List.mem_append_left _ hmem)
    have hrest := allHold_iff_truth rest fun field values hmem => h field values (List.mem_append_right _ hmem)
    rw [allHold, truthOfAll, Bool.and_eq_true, Truth.and_eq_true, hp, hrest]

theorem someHold_iff_truth {row : Row} : ∀ group : List Predicate,
    (∀ field values, .oneOf field values true ∈ partsOfAll group → Settled row field values) →
      (someHold row group = true ↔ truthOfSome row group = .true)
  | [], _ => ⟨(by cases ·), (by cases ·)⟩
  | p :: rest, h => by
    have hp := holds_iff_truth p fun field values hmem => h field values (List.mem_append_left _ hmem)
    have hrest := someHold_iff_truth rest fun field values hmem => h field values (List.mem_append_right _ hmem)
    rw [someHold, truthOfSome, Bool.or_eq_true, Truth.or_eq_true, hp, hrest]
end

end Predicate

namespace Sql

/-- **Where the memory store and a database select alike**: on a predicate and all of its parts exactly when every list
under `NOT IN` is settled, whatever the entity. -/
theorem selects_same_iff (e : Entity) (row : Row) (p : Predicate) :
    (∀ q ∈ p.parts, (q.holds row = true ↔ Selects e row q)) ↔
      ∀ field values, .oneOf field values true ∈ p.parts → Predicate.Settled row field values := by
  constructor
  · intro h field values hmem
    rw [← Predicate.holds_notIn_iff, h _ hmem, selects_iff]
  · intro h q hq
    rw [selects_iff]
    exact Predicate.holds_iff_truth q fun field values hmem => h field values (Predicate.mem_parts_trans hmem p hq)

/-- An empty list against a null cell, and a list with null against another cell. -/
theorem selects_differ :
    (Predicate.holds (Notes.row "1" (.str "a") .null) (.oneOf "team" [] true) = false ∧
      Selects (Notes.entity []) (Notes.row "1" (.str "a") .null) (.oneOf "team" [] true)) ∧
    (Predicate.holds (Notes.row "1" (.str "a") .null) (.oneOf "tenant" [.str "b", .null] true) = true ∧
      ¬ Selects (Notes.entity []) (Notes.row "1" (.str "a") .null) (.oneOf "tenant" [.str "b", .null] true)) := by
  refine ⟨⟨rfl, (selects_iff _ _ _).2 rfl⟩, rfl, fun h => ?_⟩
  have htrue := (selects_iff _ _ _).1 h
  revert htrue
  decide

end Sql

end RecordService
