import RecordService.Proofs.Config.Check
import RecordService.Proofs.Pipeline.Memory
import RecordService.Proofs.Store.Compare
import RecordService.Proofs.Store.Sort
import RecordService.Store.Memory
/-!
# Order — which columns can be sorted by

Either of two cells is told from the other in the same way from both sides (`Cell.sortOrder_swap`).  But a third one may
contradict them: `95` lies between the texts `"90"` and `"100"` as a number, and `"100"` comes before `"90"` as a text.  The
order of a column is transitive exactly when none of its cells lies apart from two that differ (`Cell.transitiveOn_iff`),
which can be seen from the kinds, the numbers and the texts in the column (`Cell.Sortable`).  A selection is answered, and
comes sorted, whatever the rows of the table, exactly when it is ordered by such columns (`Table.sorts_iff`).
-/
namespace RecordService

/-! ## Rows -/

namespace OrderBy

/-- The order by one column. -/
def compareBy (o : OrderBy) (a b : Row) : Ordering :=
  match o.direction with
  | .asc => Cell.sortOrder (a.cell o.field) (b.cell o.field)
  | .desc => (Cell.sortOrder (a.cell o.field) (b.cell o.field)).swap

theorem compareRows_cons (o : OrderBy) (rest : List OrderBy) (a b : Row) :
    compareRows (o :: rest) a b = (compareBy o a b).then (compareRows rest a b) := by
  show (if compareBy o a b = .eq then compareRows rest a b else compareBy o a b) = _
  cases compareBy o a b <;> rfl

/-- **Rows are ordered when they are by each column**: said of anything that stands for rows. -/
theorem transCmp_compareRows {α : Type} (row : α → Row) : ∀ {orderBy : List OrderBy},
    (∀ o ∈ orderBy, Std.TransCmp fun a b => Cell.sortOrder ((row a).cell o.field) ((row b).cell o.field)) →
      Std.TransCmp fun a b => compareRows orderBy (row a) (row b)
  | [], _ => { eq_swap := rfl, isLE_trans := fun _ _ => rfl }
  | o :: rest, h => by
    obtain ⟨ho, hrest⟩ := List.forall_mem_cons.1 h
    have hfirst : Std.TransCmp fun a b => compareBy o (row a) (row b) := by
      unfold compareBy
      cases o.direction with
      | asc => exact ho
      | desc =>
        have hswap : ∀ a b, Cell.sortOrder ((row b).cell o.field) ((row a).cell o.field) =
            (Cell.sortOrder ((row a).cell o.field) ((row b).cell o.field)).swap := fun _ _ => ho.eq_swap
        simp only [← hswap]
        exact Std.TransCmp.opposite
    have hothers : Std.TransCmp fun a b => compareRows rest (row a) (row b) := transCmp_compareRows row hrest
    have hlex : (fun a b => compareRows (o :: rest) (row a) (row b)) =
        compareLex (fun a b => compareBy o (row a) (row b)) fun a b => compareRows rest (row a) (row b) := by
      funext a b
      exact compareRows_cons o rest (row a) (row b)
    rw [hlex]
    infer_instance

end OrderBy

/-! ## Cells -/

namespace Cell

/-- Numbers and texts are ordered with one another, and truth values among themselves. -/
inductive Family where
  | truth
  | scalar

def family? : Json → Option Family
  | .bool _ => some .truth
  | .num _ => some .scalar
  | .str _ => some .scalar
  | _ => none

theorem family?_of_real? {a : Json} {x : ExtendedDouble} (h : real? a = some x) : family? a = some .scalar := by
  cases a with
  | num _ => rfl
  | str _ => rfl
  | _ => cases h

theorem Before.family {a b : Json} (h : Before a b) : ∃ f, family? a = some f ∧ family? b = some f := by
  cases h with
  | truth => exact ⟨.truth, rfl, rfl⟩
  | text _ => exact ⟨.scalar, rfl, rfl⟩
  | number _ ha hb _ => exact ⟨.scalar, family?_of_real? ha, family?_of_real? hb⟩

theorem Before.not_null {a b : Json} (h : Before a b) : a.isNull = false ∧ b.isNull = false := by
  obtain ⟨f, ha, hb⟩ := h.family
  constructor
  · cases a with
    | null => cases ha
    | _ => rfl
  · cases b with
    | null => cases hb
    | _ => rfl

theorem Before.asymm {a b : Json} (h : Before a b) : ¬ Before b a := by
  intro h'
  have hswap := compare?_swap a b
  rw [compare?_eq_lt_iff.2 h, compare?_eq_lt_iff.2 h'] at hswap
  cases hswap

theorem sortOrder_swap (a b : Json) : sortOrder b a = (sortOrder a b).swap := by
  unfold sortOrder
  cases a.isNull with
  | true => cases b.isNull <;> rfl
  | false =>
    cases b.isNull with
    | true => rfl
    | false =>
      rw [if_neg Bool.false_ne_true, if_neg Bool.false_ne_true, if_neg Bool.false_ne_true, if_neg Bool.false_ne_true,
        compare?_swap a b]
      cases compare? a b <;> rfl

/-- A cell comes behind another as null behind a value, or as the other comes before it. -/
theorem sortOrder_eq_gt_iff {a b : Json} : sortOrder a b = .gt ↔ a.isNull = true ∧ b.isNull = false ∨ Before b a := by
  unfold sortOrder
  cases ha : a.isNull with
  | true =>
    have hnot : ¬ Before b a := fun h => by
      rw [h.not_null.2] at ha
      cases ha
    cases b.isNull <;> simp [hnot]
  | false =>
    cases hb : b.isNull with
    | true =>
      have hnot : ¬ Before b a := fun h => by
        rw [h.not_null.1] at hb
        cases hb
      simp [hnot]
    | false =>
      rw [← compare?_eq_lt_iff, compare?_swap a b]
      rcases compare? a b with _ | order
      · simp
      · cases order <;> simp

/-- **Cells that can be sorted**: none of them lies apart from two that differ. -/
structure Sortable (cells : Json → Prop) : Prop where
  /-- Beside truth values that differ there are truth values only, and beside numbers or texts that differ numbers and
  texts only. -/
  family : ∀ a b v, cells a → cells b → cells v → Before a b → v.isNull = false → family? v = family? a
  /-- Beside numbers that differ every text reads as a number. -/
  numbers : ∀ m n u, cells (.num m) → cells (.num n) → cells (.str u) → Before (.num m) (.num n) →
    ∃ x, readDouble u = some x ∧ x ≠ .notANumber
  /-- Of two texts that differ, a number is above the one that comes first or below the other. -/
  texts : ∀ s t n, cells (.str s) → cells (.str t) → cells (.num n) → s < t →
    Before (.str s) (.num n) ∨ Before (.num n) (.str t)

/-- The order of the cells leads nowhere back. -/
def TransitiveOn (cells : Json → Prop) : Prop :=
  ∀ a b c, cells a → cells b → cells c → sortOrder a b ≠ .gt → sortOrder b c ≠ .gt → sortOrder a c ≠ .gt

/-- What is read as a number beside two numbers is above the smaller one or below the greater one. -/
theorem Before.or_of_number {a b v : Json} {x y z : ExtendedDouble} (ha : real? a = some x) (hb : real? b = some y)
    (hv : real? v = some z) (hxy : x.Before y) (hz : z ≠ .notANumber) (hav : (isNumber a || isNumber v) = true)
    (hvb : (isNumber v || isNumber b) = true) : Before a v ∨ Before v b := by
  rcases hxy.or hz with hxz | hzy
  · exact .inl (.number hav ha hv hxz)
  · exact .inr (.number hvb hv hb hzy)

variable {cells : Json → Prop}

theorem Sortable.before_or (h : Sortable cells) {a b v : Json} (ha : cells a) (hb : cells b) (hv : cells v)
    (hab : Before a b) (hnull : v.isNull = false) : Before a v ∨ Before v b := by
  have hfamily := h.family a b v ha hb hv hab hnull
  cases hab with
  | truth =>
    match v with
    | .bool true => exact .inl .truth
    | .bool false => exact .inr .truth
  | @text s t hst =>
    match v with
    | .num n => exact h.texts s t n ha hb hv hst
    | .str u =>
      rcases Std.lt_trichotomy s u with hsu | rfl | hus
      · exact .inl (.text hsu)
      · exact .inr (.text hst)
      · exact .inr (.text (String.lt_trans hus hst))
  | @number _ _ x y hnumber hx hy hxy =>
    rw [family?_of_real? hx] at hfamily
    match v with
    | .num k => exact Before.or_of_number hx hy rfl hxy nofun (Bool.or_true _) rfl
    | .str u =>
      -- Two numbers are told from a text by its number, a number and a text by the other text as well.
      cases a with
      | num m =>
        cases b with
        | num n =>
          obtain ⟨z, hz, hreads⟩ := h.numbers m n u ha hb hv (.number hnumber hx hy hxy)
          exact Before.or_of_number hx hy hz hxy hreads rfl rfl
        | str t =>
          have hmt : Before (.num m) (.str t) := .number hnumber hx hy hxy
          rcases Std.lt_trichotomy u t with hut | rfl | htu
          · exact .inr (.text hut)
          · exact .inl hmt
          · exact .inl ((h.texts t u m hb hv ha htu).resolve_left hmt.asymm)
        | _ => cases hy
      | str s =>
        cases b with
        | num n =>
          have hsn : Before (.str s) (.num n) := .number hnumber hx hy hxy
          rcases Std.lt_trichotomy u s with hus | rfl | hsu
          · exact .inr ((h.texts u s n hv ha hb hus).resolve_right hsn.asymm)
          · exact .inr hsn
          · exact .inl (.text hsu)
        | str t => cases hnumber
        | _ => cases hy
      | _ => cases hx

/-- **The order of the cells is transitive exactly when they can be sorted.** -/
theorem transitiveOn_iff : TransitiveOn cells ↔ Sortable cells := by
  constructor
  · intro h
    have hor : ∀ a b v, cells a → cells b → cells v → Before a b → v.isNull = false → Before a v ∨ Before v b := by
      intro a b v ha hb hv hab hnull
      by_contra hnot
      obtain ⟨hav, hvb⟩ := not_or.1 hnot
      refine h b v a hb hv ha ?_ ?_ (sortOrder_eq_gt_iff.2 (.inr hab))
      · rw [Ne, sortOrder_eq_gt_iff, hab.not_null.2]
        simpa using hvb
      · rw [Ne, sortOrder_eq_gt_iff, hnull]
        simpa using hav
    refine ⟨fun a b v ha hb hv hab hnull => ?_, fun m n u hm hn hu hmn => ?_, fun s t n hs ht hn hst => ?_⟩
    · obtain ⟨f, hfa, hfb⟩ := hab.family
      rcases hor a b v ha hb hv hab hnull with hav | hvb
      · obtain ⟨g, hga, hgv⟩ := hav.family
        rw [hga, hgv]
      · obtain ⟨g, hgv, hgb⟩ := hvb.family
        rw [hgv, hfa, ← hfb, hgb]
    · rcases hor _ _ _ hm hn hu hmn rfl with hmu | hun
      · cases hmu with
        | number _ _ hx hlt => exact ⟨_, hx, hlt.ne_notANumber.2⟩
      · cases hun with
        | number _ hx _ hlt => exact ⟨_, hx, hlt.ne_notANumber.1⟩
    · exact hor _ _ _ hs ht hn (.text hst) rfl
  · intro h a b c ha hb hc hab hbc hac
    rw [Ne, sortOrder_eq_gt_iff, not_or] at hab hbc
    rcases sortOrder_eq_gt_iff.1 hac with ⟨hnull, hc'⟩ | hca
    · -- Null comes last, and so does what is not before it.
      cases hb' : b.isNull with
      | true => exact hbc.1 ⟨hb', hc'⟩
      | false => exact hab.1 ⟨hnull, hb'⟩
    · cases hb' : b.isNull with
      | true => exact hbc.1 ⟨hb', hca.not_null.1⟩
      | false => exact (h.before_or hc ha hb hca hb').elim hbc.2 hab.2

theorem family?_of_kindName {a b : Json} (h : a.kindName = b.kindName) : family? a = family? b := by
  cases a <;> cases b <;> simp_all [Json.kindName, family?]

/-- **A column of one kind can be sorted**, with null in it or without. -/
theorem sortable_of_kind {kind : String} (h : ∀ v, cells v → v.isNull = true ∨ v.kindName = kind) : Sortable cells := by
  have hkind : ∀ a b, cells a → cells b → a.isNull = false → b.isNull = false → a.kindName = b.kindName := by
    intro a b ha hb hna hnb
    rw [(h a ha).resolve_left (Bool.eq_false_iff.1 hna), (h b hb).resolve_left (Bool.eq_false_iff.1 hnb)]
  refine ⟨fun a b v ha _ hv hab hnull => ?_, fun m n u hm _ hu _ => ?_, fun s t n hs _ hn _ => ?_⟩
  · exact family?_of_kindName (hkind v a hv ha hnull hab.not_null.1)
  · exact absurd (hkind _ _ hm hu rfl rfl) (by simp [Json.kindName])
  · exact absurd (hkind _ _ hs hn rfl rfl) (by simp [Json.kindName])

end Cell

/-! ## Tables -/

namespace Table

variable {e : Entity} {cells : String → Json → Prop}

/-- The rows hold such cells in the columns that they are ordered by. -/
def OrderedCells (e : Entity) (cells : String → Json → Prop) (orderBy : List OrderBy) (t : Table) : Prop :=
  ∀ row ∈ t.rows, ∀ o ∈ e.ordersBy orderBy, cells o.field (row.cell o.field)

/-- No earlier row compares greater than a later one. -/
def Sorted (orderBy : List OrderBy) (rows : List Row) : Prop :=
  rows.Pairwise fun earlier later => OrderBy.compareRows orderBy earlier later ≠ .gt

/-- A transitive order, told of the cells of a column. -/
theorem transCmp_sortOrder {α : Type} {cell : α → Json} {column : Json → Prop} (h : Cell.TransitiveOn column)
    (hcell : ∀ a, column (cell a)) : Std.TransCmp fun a b => Cell.sortOrder (cell a) (cell b) where
  eq_swap := Cell.sortOrder_swap _ _
  isLE_trans {a b c} hab hbc :=
    Ordering.isLE_iff_ne_gt.2 (h _ _ _ (hcell a) (hcell b) (hcell c) (Ordering.isLE_iff_ne_gt.1 hab)
      (Ordering.isLE_iff_ne_gt.1 hbc))

/-- **Rows come sorted when each column is ordered transitively.** -/
theorem sorted_sortRows {orderBy : List OrderBy} {rows : List Row}
    (hcells : ∀ row ∈ rows, ∀ o ∈ orderBy, cells o.field (row.cell o.field))
    (h : ∀ o ∈ orderBy, Cell.TransitiveOn (cells o.field)) :
    ∃ sorted, OrderBy.sortRows orderBy rows = some sorted ∧ Sorted orderBy sorted := by
  -- the order is one of the rows of the table only, so each is taken with the proof that it is one of them
  have hordered : Std.TransCmp fun a b : {row // row ∈ rows} => OrderBy.compareRows orderBy a.1 b.1 :=
    OrderBy.transCmp_compareRows Subtype.val fun o ho => transCmp_sortOrder (h o ho) fun a => hcells a.1 a.2 o ho
  obtain ⟨sorted, hsort, hsorted⟩ := OrderBy.sortRows_of_transCmp hordered
  exact ⟨sorted, hsort, hsorted.imp Ordering.isLE_iff_ne_gt.1⟩

/-- Columns that order rows, and hold cells that can be sorted. -/
def Sortable (orderBy : List OrderBy) (rows : List Row) : Prop :=
  ∀ o ∈ orderBy, Cell.Sortable fun v => ∃ row ∈ rows, row.cell o.field = v

/-- **A few rows are sorted somehow, and more of them if their columns can be sorted.** -/
theorem sortRows_ne_none {orderBy : List OrderBy} {rows : List Row} (h : rows.length ≤ 20 ∨ Sortable orderBy rows) :
    OrderBy.sortRows orderBy rows ≠ none := by
  rcases h with hshort | hsortable
  · obtain ⟨sorted, hsort⟩ := OrderBy.sortRows_of_length_le orderBy hshort
    exact hsort ▸ nofun
  · have hcells : ∀ row ∈ rows, ∀ o ∈ orderBy, ∃ row' ∈ rows, row'.cell o.field = row.cell o.field :=
      fun row hrow _ _ => ⟨row, hrow, rfl⟩
    obtain ⟨sorted, hsort, -⟩ := @sorted_sortRows (fun field v => ∃ row ∈ rows, row.cell field = v) orderBy rows hcells
      fun o ho => Cell.transitiveOn_iff.2 (hsortable o ho)
    exact hsort ▸ nofun

/-- A window of sorted rows is sorted. -/
theorem Sorted.window {orderBy : List OrderBy} {rows : List Row} (h : Sorted orderBy rows) (limit offset : Option Nat) :
    Sorted orderBy (Table.window limit offset rows) := by
  have hrest : Sorted orderBy (rows.drop (offset.getD 0)) := h.sublist (List.drop_sublist _ _)
  unfold Table.window
  cases limit with
  | none => exact hrest
  | some n => exact hrest.sublist (List.take_sublist _ _)

theorem sorted_select {t : Table} {s : Selection} (hcells : OrderedCells e cells s.orderBy t)
    (h : ∀ o ∈ e.ordersBy s.orderBy, Cell.TransitiveOn (cells o.field)) :
    ∃ rows, t.select e s = some rows ∧ Sorted (e.ordersBy s.orderBy) rows := by
  obtain ⟨sorted, hsort, hsorted⟩ := sorted_sortRows
    (fun row hrow => hcells row (List.mem_filter.1 hrow).1 : ∀ row ∈ t.rows.filter (Row.satisfies s.filter), _) h
  exact ⟨_, congrArg (Option.map _) hsort, hsorted.window s.limit s.offset⟩

/-- The row of an entity with one cell, and null in the other columns. -/
def rowWith (e : Entity) (column : String) (v : Json) : Row :=
  e.columns.map fun c => (c.name, if c.name = column then v else .null)

theorem cell_rowWith {column : String} (h : e.hasColumn column = true) (v : Json) : (rowWith e column v).cell column = v := by
  unfold rowWith
  have hcolumn : column ∈ e.columns.map Column.name := (e.hasColumn_iff column).1 h
  rw [Row.cell, Row.get?_map Column.name (fun name => if name = column then v else .null), if_pos hcolumn, if_pos rfl]
  rfl

theorem compareRows_rowWith {column : String} (h : e.hasColumn column = true) (a b : Json) :
    OrderBy.compareRows [⟨column, .asc⟩] (rowWith e column a) (rowWith e column b) = Cell.sortOrder a b := by
  rw [OrderBy.compareRows_cons, OrderBy.compareBy, cell_rowWith h, cell_rowWith h]
  exact Ordering.then_eq

theorem ordersBy_column {column : String} (h : e.hasColumn column = true) :
    e.ordersBy [⟨column, .asc⟩] = [⟨column, .asc⟩] := List.filter_cons_of_pos h

/-- **Rows each of which is in order with the next one stay where they are**, whatever becomes of the first and the last. -/
theorem select_three {column : String} (h : e.hasColumn column = true) {a b c : Json} (hab : Cell.sortOrder a b ≠ .gt)
    (hbc : Cell.sortOrder b c ≠ .gt) :
    select ⟨[rowWith e column a, rowWith e column b, rowWith e column c], 0⟩ e ⟨[], [⟨column, .asc⟩], none, none⟩ =
      some [rowWith e column a, rowWith e column b, rowWith e column c] := by
  have hbefore : ∀ {x y : Json}, Cell.sortOrder x y ≠ .gt →
      (OrderBy.compareRows [⟨column, .asc⟩] (rowWith e column y) (rowWith e column x) == .lt) = false := by
    intro x y hxy
    rw [compareRows_rowWith h, Cell.sortOrder_swap x y]
    cases hcmp : Cell.sortOrder x y with
    | gt => exact absurd hcmp hxy
    | _ => rfl
  have hshort : [rowWith e column a, rowWith e column b, rowWith e column c].attach.length ≤ 20 := by simp
  show (OrderBy.sortRows (e.ordersBy [⟨column, .asc⟩]) [rowWith e column a, rowWith e column b,
    rowWith e column c]).map _ = _
  rw [ordersBy_column h]
  unfold OrderBy.sortRows
  rw [if_neg (by rw [List.isEmpty_cons]; exact Bool.false_ne_true)]
  dsimp only
  rw [Sorting.sort_of_length_le _ hshort]
  simp [Sorting.insertionSort, Sorting.sortBack, Sorting.insertBack, hbefore hab, hbefore hbc, window]

/-- **The rows of a table come sorted, whatever the table, exactly when the columns that they are ordered by can be
sorted.**  From one side the order of two cells is the reverse of that from the other; it is transitive on the cells of a
column exactly when they can be sorted; and then, and only then, every selection is answered, and no earlier row of it
compares greater than a later one, for every table with such cells and every list of orderings. -/
theorem sorts_iff (e : Entity) (cells : String → Json → Prop) :
    (∀ a b, Cell.sortOrder b a = (Cell.sortOrder a b).swap) ∧
      (∀ column, Cell.TransitiveOn (cells column) ↔ Cell.Sortable (cells column)) ∧
      ((∀ (t : Table) (s : Selection), OrderedCells e cells s.orderBy t →
          ∃ rows, t.select e s = some rows ∧ Sorted (e.ordersBy s.orderBy) rows) ↔
        ∀ column, e.hasColumn column = true → Cell.Sortable (cells column)) := by
  refine ⟨Cell.sortOrder_swap, fun column => Cell.transitiveOn_iff, fun h column hcolumn => ?_, fun h t s hcells => ?_⟩
  · refine Cell.transitiveOn_iff.1 fun a b c ha hb hc hab hbc => ?_
    have hcells : OrderedCells e cells [⟨column, .asc⟩]
        ⟨[rowWith e column a, rowWith e column b, rowWith e column c], 0⟩ := by
      intro row hrow o ho
      rw [ordersBy_column hcolumn] at ho
      rw [List.mem_singleton.1 ho]
      simp only [List.mem_cons, List.not_mem_nil, or_false] at hrow
      rcases hrow with rfl | rfl | rfl <;> rwa [cell_rowWith hcolumn]
    obtain ⟨rows, hselect, hrows⟩ := h _ ⟨[], [⟨column, .asc⟩], none, none⟩ hcells
    rw [select_three hcolumn hab hbc] at hselect
    obtain rfl := Option.some.inj hselect
    rw [ordersBy_column hcolumn] at hrows
    have hac := List.rel_of_pairwise_cons hrows (by simp : rowWith e column c ∈ [rowWith e column b, rowWith e column c])
    rwa [compareRows_rowWith hcolumn] at hac
  · refine sorted_select hcells fun o ho => Cell.transitiveOn_iff.2 (h o.field ?_)
    exact (List.mem_filter.1 ho).2

/-- A text between two numbers that are out of order keeps them so.  And some cells have no order at all: `"90"` comes before
`95`, `95` before `"100"`, and `"100"` before `"90"`. -/
theorem unsorted_notes :
    ((⟨[rowWith (Notes.entity []) "title" (.num (.int 5)), rowWith (Notes.entity []) "title" (.str "n/a"),
          rowWith (Notes.entity []) "title" (.num (.int 3))], 0⟩ : Table).select (Notes.entity [])
        ⟨[], [⟨"title", .asc⟩], none, none⟩).map (List.map (Row.cell · "title")) =
        some [.num (.int 5), .str "n/a", .num (.int 3)] ∧
      Cell.sortOrder (.num (.int 5)) (.num (.int 3)) = .gt ∧
      Cell.sortOrder (.str "90") (.num (.int 95)) = .lt ∧
      Cell.sortOrder (.num (.int 95)) (.str "100") = .lt ∧
      Cell.sortOrder (.str "100") (.str "90") = .lt := by
  have htitle : (Notes.entity []).hasColumn "title" = true := rfl
  have hup : Cell.sortOrder (.num (.int 5)) (.str "n/a") ≠ .gt := by decide +kernel
  have hdown : Cell.sortOrder (.str "n/a") (.num (.int 3)) ≠ .gt := by decide +kernel
  refine ⟨?_, by decide +kernel, by decide +kernel, by decide +kernel, by decide +kernel⟩
  rw [select_three htitle hup hdown]
  rfl

end Table

end RecordService
