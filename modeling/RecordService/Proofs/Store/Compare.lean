import Mathlib.Order.Compare
import RecordService.Proofs.Basic
/-!
# Comparisons — when the operators agree with one another

Of two cells one comes before the other by their characters, as truth values, or by their numbers, where a text beside a
number is read as one (`Cell.Before`).  Equality is a function of its own.  It agrees with the order except on arrays and
objects, which may be equal and have no order at all: where such a cell equals the operand, `=` holds and `>=` and `<=` do
not, and nowhere else do the operators contradict one another (`Row.compares_coherent_iff`).
-/
namespace RecordService

/-! ## Doubles -/

namespace ExtendedDouble

theorem compare?_swap (x y : ExtendedDouble) : y.compare? x = (x.compare? y).map Ordering.swap := by
  cases x with
  | finite a =>
    cases y with
    | finite b => exact congrArg some (Std.OrientedOrd.eq_swap)
    | infinite negative => cases negative <;> rfl
    | notANumber => rfl
  | infinite negative =>
    cases y with
    | finite b => cases negative <;> rfl
    | infinite negative' => cases negative <;> cases negative' <;> rfl
    | notANumber => cases negative <;> rfl
  | notANumber => cases y <;> rfl

/-- Between the infinities the finite values come in their order. -/
inductive Before : ExtendedDouble → ExtendedDouble → Prop where
  | finite {a b : Double} : a.toInt < b.toInt → Before (.finite a) (.finite b)
  | upper (a : Double) : Before (.finite a) (.infinite false)
  | lower (b : Double) : Before (.infinite true) (.finite b)
  | infinite : Before (.infinite true) (.infinite false)

theorem compare?_eq_lt_iff {x y : ExtendedDouble} : x.compare? y = some .lt ↔ x.Before y := by
  constructor
  · intro h
    match x, y with
    | .finite a, .finite b => exact .finite (Int.compare_eq_lt.1 (Option.some.inj h))
    | .finite a, .infinite false => exact .upper a
    | .infinite true, .finite b => exact .lower b
    | .infinite true, .infinite false => exact .infinite
  · intro h
    cases h with
    | finite h => exact congrArg some (Int.compare_eq_lt.2 h)
    | _ => rfl

/-- A third number is above the smaller of two or below the greater. -/
theorem Before.or {x y z : ExtendedDouble} (h : x.Before y) (hz : z ≠ .notANumber) : x.Before z ∨ z.Before y := by
  match z with
  | .finite c =>
    cases h with
    | @finite a b hab =>
      rcases Int.lt_or_le a.toInt c.toInt with hac | hca
      · exact .inl (.finite hac)
      · exact .inr (.finite (Int.lt_of_le_of_lt hca hab))
    | upper a => exact .inr (.upper c)
    | lower b => exact .inl (.lower c)
    | infinite => exact .inl (.lower c)
  | .infinite true => exact .inr (by cases h <;> constructor)
  | .infinite false => exact .inl (by cases h <;> constructor)
  | .notANumber => exact absurd rfl hz

theorem Before.ne_notANumber {x y : ExtendedDouble} (h : x.Before y) : x ≠ .notANumber ∧ y ≠ .notANumber := by
  cases h <;> exact ⟨nofun, nofun⟩

end ExtendedDouble

/-! ## Cells -/

/-- Arrays and objects. -/
def Json.isContainer : Json → Bool
  | .arr _ => true
  | .obj _ => true
  | _ => false

namespace Cell

/-- **What comes before what**: texts by their characters, truth values, and numbers by their values, where a text next to
a number is read as one. -/
inductive Before : Json → Json → Prop where
  | truth : Before (.bool false) (.bool true)
  | text {s t : String} : s < t → Before (.str s) (.str t)
  | number {a b : Json} {x y : ExtendedDouble} : (isNumber a || isNumber b) = true → real? a = some x →
      real? b = some y → x.Before y → Before a b

theorem compare?_of_isNumber {a b : Json} (h : (isNumber a || isNumber b) = true) :
    compare? a b = (real? a).bind fun x => (real? b).bind x.compare? := by
  unfold compare?
  rw [if_pos h]
  cases real? a <;> cases real? b <;> rfl

theorem compare?_eq_lt_iff {a b : Json} : compare? a b = some .lt ↔ Before a b := by
  constructor
  · intro h
    cases hnumber : isNumber a || isNumber b with
    | true =>
      rw [compare?_of_isNumber hnumber] at h
      obtain ⟨x, hx, h⟩ := Option.bind_eq_some_iff.1 h
      obtain ⟨y, hy, h⟩ := Option.bind_eq_some_iff.1 h
      exact .number hnumber hx hy (ExtendedDouble.compare?_eq_lt_iff.1 h)
    | false =>
      unfold compare? at h
      rw [hnumber, if_neg Bool.false_ne_true] at h
      split at h
      · exact .text (compareOfLessAndEq_eq_lt.1 (Option.some.inj h))
      · rename_i p q
        cases p <;> cases q <;> cases h
        exact .truth
      · cases h
  · intro h
    cases h with
    | truth => rfl
    | text h => exact congrArg some (compareOfLessAndEq_eq_lt.2 h)
    | number hnumber hx hy h =>
      rw [compare?_of_isNumber hnumber, hx, hy]
      exact ExtendedDouble.compare?_eq_lt_iff.2 h

theorem compare?_swap (a b : Json) : compare? b a = (compare? a b).map Ordering.swap := by
  cases hnumber : isNumber a || isNumber b with
  | true =>
    rw [compare?_of_isNumber hnumber, compare?_of_isNumber (Bool.or_comm _ _ ▸ hnumber)]
    cases real? a with
    | none => cases real? b <;> rfl
    | some x =>
      cases real? b with
      | none => rfl
      | some y => exact ExtendedDouble.compare?_swap x y
  | false =>
    unfold compare?
    rw [Bool.or_comm, hnumber, if_neg Bool.false_ne_true, if_neg Bool.false_ne_true]
    cases a with
    | bool p =>
      cases b with
      | bool q => exact congrArg some Std.OrientedOrd.eq_swap
      | _ => rfl
    | str s =>
      cases b with
      | str t => exact congrArg some Std.OrientedOrd.eq_swap
      | _ => rfl
    | _ => cases b <;> rfl

/-! ### Equality and order -/

theorem real?_of_isContainer {v : Json} (h : v.isContainer = true) : real? v = none := by
  cases v with
  | arr _ => rfl
  | obj _ => rfl
  | _ => cases h

/-- Arrays and objects have no order. -/
theorem compare?_of_isContainer {a : Json} (h : a.isContainer = true) (b : Json) : compare? a b = none := by
  cases hnumber : isNumber a || isNumber b with
  | true =>
    rw [compare?_of_isNumber hnumber, real?_of_isContainer h]
    rfl
  | false =>
    unfold compare?
    rw [hnumber, if_neg Bool.false_ne_true]
    cases a with
    | arr _ => rfl
    | obj _ => rfl
    | _ => cases h

/-- **Of anything but arrays and objects, to be equal is to be neither before nor behind.** -/
theorem equal_eq_compare? {a : Json} (hnull : a.isNull = false) (h : a.isContainer = false) (b : Json) :
    equal a b = (compare? a b == some .eq) := by
  cases hnumber : isNumber a || isNumber b with
  | true =>
    unfold equal compare?
    rw [if_pos hnumber, if_pos hnumber]
    cases real? a <;> cases real? b <;> rfl
  | false =>
    unfold equal compare?
    rw [hnumber, if_neg Bool.false_ne_true, if_neg Bool.false_ne_true]
    cases a with
    | bool p =>
      cases b with
      | bool q => cases p <;> cases q <;> rfl
      | _ => rfl
    | str s =>
      cases b with
      | str t =>
        have hcompare : (compare s t == Ordering.eq) = (s == t) := by
          rw [Bool.eq_iff_iff, beq_iff_eq, beq_iff_eq, Std.compare_eq_iff_eq]
        exact hcompare.symm
      | _ => rfl
    | num _ => cases hnumber
    | null => cases hnull
    | _ => cases h

end Cell

/-! ## Operators -/

namespace Row

/-- Whether the comparison of a cell with an operand holds. -/
def compares (row : Row) (field : String) (op : Comparison) (value : Json) : Bool :=
  (Predicate.compare field op value).holds row

theorem compares_eq {row : Row} {field : String} {value : Json} (hcell : (row.cell field).isNull = false)
    (hvalue : value.isNull = false) (op : Comparison) :
    row.compares field op value = op.holds (row.cell field) value := by
  simp [compares, Predicate.holds, hcell, hvalue]

/-- **The operators agree with one another**, whatever is compared: `<>` is the opposite of `=`, and no two of `<`, `=` and
`>` hold.  That `>=` is `>` or `=`, and `<=` is `<` or `=`, holds exactly when the cell is not an array or an object that
equals the operand. -/
theorem compares_coherent_iff {row : Row} {field : String} {value : Json} (hcell : (row.cell field).isNull = false)
    (hvalue : value.isNull = false) :
    row.compares field .ne value = !row.compares field .eq value ∧
      (¬ (row.compares field .lt value = true ∧ row.compares field .eq value = true) ∧
        ¬ (row.compares field .eq value = true ∧ row.compares field .gt value = true) ∧
        ¬ (row.compares field .lt value = true ∧ row.compares field .gt value = true)) ∧
      ((row.compares field .gte value = (row.compares field .gt value || row.compares field .eq value)) ↔
        ¬ ((row.cell field).isContainer = true ∧ row.compares field .eq value = true)) ∧
      ((row.compares field .lte value = (row.compares field .lt value || row.compares field .eq value)) ↔
        ¬ ((row.cell field).isContainer = true ∧ row.compares field .eq value = true)) := by
  simp only [compares_eq hcell hvalue, Comparison.holds]
  cases hcontainer : (row.cell field).isContainer with
  | true =>
    rw [Cell.compare?_of_isContainer hcontainer]
    cases Cell.equal (row.cell field) value <;> decide
  | false =>
    rw [Cell.equal_eq_compare? hcell hcontainer]
    rcases Cell.compare? (row.cell field) value with _ | order
    · decide
    · cases order <;> decide

/-- A text and a number. -/
theorem compares_coherent_iff_title :
    (cell [("title", .str "10")] "title").isNull = false ∧ (Json.num (.int 9)).isNull = false ∧
      compares [("title", .str "10")] "title" .gte (.num (.int 9)) =
        (compares [("title", .str "10")] "title" .gt (.num (.int 9)) ||
          compares [("title", .str "10")] "title" .eq (.num (.int 9))) := by
  have hcell : (cell [("title", .str "10")] "title").isNull = false := rfl
  have hvalue : (Json.num (.int 9)).isNull = false := rfl
  refine ⟨hcell, hvalue, (compares_coherent_iff hcell hvalue).2.2.1.2 ?_⟩
  rintro ⟨hcontainer, -⟩
  cases hcontainer

/-- An array is equal to itself, and neither at least nor at most itself. -/
theorem array_not_at_least_itself :
    compares [("team", .arr [.str "a"])] "team" .eq (.arr [.str "a"]) = true ∧
      compares [("team", .arr [.str "a"])] "team" .gte (.arr [.str "a"]) = false ∧
      compares [("team", .arr [.str "a"])] "team" .lte (.arr [.str "a"]) = false := by decide

end Row

end RecordService
