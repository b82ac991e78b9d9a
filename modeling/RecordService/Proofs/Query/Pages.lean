import RecordService.Proofs.Query.Params
import RecordService.Proofs.Store.Order
/-!
# Pages — how a listing is split up

The rows that a list is about are the same for every page (`Pipeline.listed`), and so are the sorted ones, which are
the same rows (`Pipeline.sorted`).  A page shows one window of them: windows side by side make up the front of a list
(`flatMap_windows`), and the number of pages is the least that reaches its end (`Page.lt_count_iff`).  So the pages split
the rows up (`Page.Splits.of_windows`).  Offsets stop at the largest one that a database accepts, which is behind the
last row of any table that is smaller (`Entity.boundsOf_succ`, `drop_min`).  Where the sort breaks off there is no page at
all (`Pipeline.pages_partition`).
-/
namespace RecordService

/-! ## Windows -/

/-- Windows side by side make up the front of a list. -/
theorem flatMap_windows {α : Type} (xs : List α) (size count : Nat) :
    ((List.range count).flatMap fun i => (xs.drop (i * size)).take size) = xs.take (count * size) := by
  induction count with
  | zero => simp
  | succ count ih =>
    rw [List.range_succ, List.flatMap_append, ih, Nat.succ_mul, List.take_add, List.flatMap_singleton]

theorem drop_min {α : Type} {xs : List α} {most : Nat} (h : xs.length ≤ most) (n : Nat) :
    xs.drop (min n most) = xs.drop n := by
  rcases Nat.le_total n most with hn | hn
  · rw [Nat.min_eq_left hn]
  · rw [Nat.min_eq_right hn, List.drop_eq_nil_of_le h, List.drop_eq_nil_of_le (Nat.le_trans h hn)]

namespace Page

theorem lt_count_iff {items size : Nat} (hsize : 0 < size) (n : Nat) : n < count items size ↔ n * size < items := by
  have hitems : items = items / size * size + items % size := (Nat.div_add_mod' items size).symm
  have hrest : items % size < size := Nat.mod_lt items hsize
  unfold count
  generalize items / size = full at hitems ⊢
  generalize items % size = rest at hitems hrest ⊢
  subst hitems
  split
  · rename_i hnone
    rw [hnone, Nat.add_zero, Nat.add_zero, Nat.mul_lt_mul_right hsize]
  · constructor
    · intro hn
      have hle : n * size ≤ full * size := Nat.mul_le_mul_right size (Nat.le_of_lt_succ hn)
      omega
    · intro hn
      by_contra hbehind
      have hle : (full + 1) * size ≤ n * size := Nat.mul_le_mul_right size (Nat.le_of_not_lt hbehind)
      rw [Nat.succ_mul] at hle
      omega

/-- **The pages split the rows up**: they agree on the figures, show every row once between them, and each but the last
is full. -/
structure Splits (pages : Nat → Page) (size : Nat) (rows : List Row) : Prop where
  figures : ∀ n, 1 ≤ n → (pages n).page = n ∧ (pages n).perPage = size ∧ (pages n).totalItems = rows.length ∧
    (pages n).totalPages = (pages 1).totalPages
  results : ((List.range (pages 1).totalPages).flatMap fun i => (pages (i + 1)).results).Perm rows
  full : ∀ n, 1 ≤ n → n < (pages 1).totalPages → (pages n).results.length = size
  beyond : ∀ n, (pages 1).totalPages < n → (pages n).results = []
  next : ∀ n, 1 ≤ n → ((pages n).hasNextPage = true ↔ (pages (n + 1)).results ≠ [])

theorem Splits.of_windows {pages : Nat → Page} {rows sorted : List Row} (hsorted : sorted.Perm rows) {size : Nat}
    (hsize : 0 < size) (offset : Nat → Nat)
    (hpages : ∀ i, pages (i + 1) = Page.of ((sorted.drop (i * size)).take size) ⟨i + 1, size, offset i⟩ rows.length) :
    Splits pages size rows := by
  have hlength : sorted.length = rows.length := hsorted.length_eq
  have hshown : ∀ i, (pages (i + 1)).results = (sorted.drop (i * size)).take size := fun i => by rw [hpages i]; rfl
  have htotal : ∀ i, (pages (i + 1)).totalPages = count rows.length size := fun i => by rw [hpages i]; rfl
  constructor
  case figures =>
    rintro (_ | i) hn
    · cases hn
    · rw [htotal i, htotal 0, hpages i]
      exact ⟨rfl, rfl, rfl, rfl⟩
  case results =>
    have hall : sorted.length ≤ count rows.length size * size := by
      rw [hlength, ← Nat.not_lt, ← lt_count_iff hsize]
      exact Nat.lt_irrefl _
    rw [htotal 0]
    simp only [hshown]
    rw [flatMap_windows, List.take_of_length_le hall]
    exact hsorted
  case full =>
    rintro (_ | i) hn hlast
    · cases hn
    · rw [htotal 0, lt_count_iff hsize, Nat.succ_mul] at hlast
      rw [hshown, List.length_take, List.length_drop]
      omega
  case beyond =>
    rintro (_ | i) hlast
    · cases hlast
    · have hbehind : ¬ i < count rows.length size := Nat.not_lt.2 (Nat.le_of_lt_succ (htotal 0 ▸ hlast))
      rw [lt_count_iff hsize, Nat.not_lt, ← hlength] at hbehind
      rw [hshown, List.drop_eq_nil_of_le hbehind, List.take_nil]
  case next =>
    rintro (_ | i) hn
    · cases hn
    · have hnext : (pages (i + 1)).hasNextPage = decide (i + 1 < count rows.length size) := by rw [hpages i]; rfl
      rw [hnext, decide_eq_true_iff, lt_count_iff hsize, hshown, Ne, List.take_eq_nil_iff, List.drop_eq_nil_iff]
      omega

end Page

/-! ## Bounds -/

/-- As many rows on a page as are asked for, or as is usual; but no more than the most, and at least one. -/
def Entity.pageSize (e : Entity) (perPage : Option Nat) : Nat :=
  max (min (perPage.getD e.defaultPageSize) e.maxPageSize) 1

theorem Entity.boundsOf_succ (e : Entity) (params : ListParams) (i : Nat) :
    e.boundsOf { params with page := some (i + 1) } =
      ⟨i + 1, e.pageSize params.perPage, min (i * e.pageSize params.perPage) maxOffset⟩ := by
  have hpage : max (i + 1) 1 = i + 1 := by omega
  have hoffset : ∀ n, min (min n 18446744073709551615) maxOffset = min n maxOffset := fun n => by
    unfold maxOffset
    omega
  unfold boundsOf paginate saturatingMul
  simp only [Option.getD_some, hpage, Nat.add_sub_cancel, hoffset]
  rfl

/-! ## Listings -/

theorem ListParams.issues_eq_nil_iff (p : ListParams) : p.issues = [] ↔ p.page ≠ some 0 ∧ p.perPage ≠ some 0 := by
  rw [issues, List.append_eq_nil_iff]
  constructor
  · rintro ⟨hpage, hsize⟩
    exact ⟨fun h => by simp [h] at hpage, fun h => by simp [h] at hsize⟩
  · rintro ⟨hpage, hsize⟩
    exact ⟨if_neg hpage, if_neg hsize⟩

theorem ListParams.issues_page (p : ListParams) {n : Nat} (hn : 1 ≤ n) :
    ListParams.issues { p with page := some n } =
      if p.perPage = some 0 then [⟨"perPage", "must be at least 1"⟩] else [] := by
  have hpage : some n ≠ some 0 := fun h => by cases h; cases hn
  rw [issues, if_neg hpage]
  rfl

theorem ListParams.inRange_page {p : ListParams} (hsize : ∀ m ∈ p.perPage, m ≤ 18446744073709551615) {n : Nat}
    (hn : n ≤ 18446744073709551615) : InRange { p with page := some n } :=
  ⟨fun _ hm => Option.mem_some.1 hm ▸ hn, hsize⟩

namespace Pipeline

variable {e : Entity} {scope : Scope} {params : ListParams} {s : MemoryStore}

/-- **The rows that a list is about**, whatever the page: those that satisfy the filters and the search, within the
scope of the caller, and of them those that are not hidden. -/
def listed (p : Pipeline) (ctx : Context) (params : ListParams) (s : MemoryStore) : List Row :=
  (s.rowsOf p.entity).filter fun row =>
    row.satisfies (params.filters.elim [] (Filter.compile p.entity.allowedFilters.contains)) &&
    row.satisfies (params.search.elim [] p.entity.searchFor) &&
    row.satisfies (p.scope.restrictions ctx.scope ctx.actor) &&
    row.satisfies (visibility p.entity.softDelete params.includeDeleted)

theorem visible_reach_asked (p : Pipeline) (ctx : Context) (params : ListParams) (s : MemoryStore) :
    s.visible p.entity (p.reach ctx (p.entity.asked params) params.includeDeleted) = p.listed ctx params s := by
  refine List.filter_congr fun row _ => ?_
  rw [satisfies_reach, Entity.asked, view, Row.satisfies_append, Row.satisfies_append]
  simp only [Bool.and_assoc]

/-- The rows of a list in the order asked for, unless the sort breaks off. -/
def sorted (p : Pipeline) (ctx : Context) (params : ListParams) (s : MemoryStore) : Option (List Row) :=
  OrderBy.sortRows (p.entity.ordersBy (p.entity.orderOf params)) (p.listed ctx params s)

/-- The page that parameters come to, of rows in their order. -/
def pageOf (e : Entity) (params : ListParams) (rows : List Row) : Page :=
  let bounds := e.boundsOf params
  .of (Table.window (some bounds.perPage) (some bounds.offset) rows) bounds rows.length

theorem length_sorted {p : Pipeline} {ctx : Context} {rows : List Row} (h : p.sorted ctx params s = some rows) :
    rows.length = (p.listed ctx params s).length := (OrderBy.sortRows_perm h).length_eq

theorem runOn_list {o : Occasion} (h : params.InRange)
    (hissues : o.context.skipValidation = true ∨ params.issues = []) :
    (plain e scope).runOn o (.list params) s =
      (match (plain e scope).sorted o.context params s with
        | some rows => .ok (.page (pageOf e params rows))
        | none => .error (.store .disorder), s) := by
  have hparams : (plain e scope).paramsFor .none params o.context = .ok params := by
    rw [paramsFor_plain e scope h]
    rcases hissues with hskip | hissues
    · rw [hskip, if_pos rfl]
    · rw [hissues, ServiceError.ofIssues, Except.map, ite_self]
  have hplan : (plain e scope).plan o (.list params) =
      .ok (.page ((plain e scope).reach o.context (e.asked params) params.includeDeleted) (e.orderOf params)
        (e.boundsOf params)) := by
    show Intended.list (plain e scope) .none o.context params = _
    rw [Intended.list, hparams]
    rfl
  have hlisted : s.visible e ((plain e scope).reach o.context (e.asked params) params.includeDeleted) =
      (plain e scope).listed o.context params s := visible_reach_asked _ _ _ _
  have hcount : s.count e ((plain e scope).reach o.context (e.asked params) params.includeDeleted) =
      ((plain e scope).listed o.context params s).length := congrArg List.length hlisted
  rw [runOn_of_plan hplan, Intent.runOn_page, MemoryStore.select_eq, show (plain e scope).entity = e from rfl, hcount]
  dsimp only
  rw [hlisted, show OrderBy.sortRows (e.ordersBy (e.orderOf params)) ((plain e scope).listed o.context params s) =
    (plain e scope).sorted o.context params s from rfl]
  cases hsorted : (plain e scope).sorted o.context params s with
  | none => rfl
  | some rows =>
    rw [← length_sorted hsorted]
    rfl

theorem runOn_list_of_issues {o : Occasion} (h : params.InRange) (hskip : o.context.skipValidation = false)
    (hissues : params.issues ≠ []) :
    (plain e scope).runOn o (.list params) s = (.error (.validation params.issues), s) := by
  have hparams : (plain e scope).paramsFor .none params o.context = .error (.validation params.issues) := by
    rw [paramsFor_plain e scope h, hskip, if_neg Bool.false_ne_true]
    cases hlist : params.issues with
    | nil => exact absurd hlist hissues
    | cons issue rest => rfl
  have hplan : (plain e scope).plan o (.list params) = .error (.validation params.issues) := by
    show Intended.list (plain e scope) .none o.context params = _
    rw [Intended.list, hparams]
    rfl
  exact runOn_of_refusal hplan

/-- The rows in their order do not depend on the page that shows them. -/
theorem runOn_list_page {o : Occasion} (hsize : ∀ m ∈ params.perPage, m ≤ 18446744073709551615)
    (hvalid : ¬ (o.context.skipValidation = false ∧ params.perPage = some 0)) {n : Nat} (hone : 1 ≤ n)
    (hn : n ≤ 18446744073709551615) :
    (plain e scope).runOn o (.list { params with page := some n }) s =
      (match (plain e scope).sorted o.context params s with
        | some rows => .ok (.page (pageOf e { params with page := some n } rows))
        | none => .error (.store .disorder), s) := by
  refine runOn_list (params.inRange_page hsize hn) ?_
  rw [params.issues_page hone]
  cases hskip : o.context.skipValidation with
  | true => exact .inl rfl
  | false => exact .inr (if_neg fun hzero => hvalid ⟨hskip, hzero⟩)

/-- **The pages of a listing split its rows up.** -/
theorem splits_sorted {ctx : Context} {rows : List Row} (hrows : (s.rowsOf e).length < 9223372036854775808)
    (hsorted : (plain e scope).sorted ctx params s = some rows) :
    Page.Splits (fun n => pageOf e { params with page := some n } rows) (e.pageSize params.perPage)
      ((plain e scope).listed ctx params s) := by
  have hsize : 0 < e.pageSize params.perPage := Nat.le_max_right _ 1
  have hshort : rows.length ≤ maxOffset := by
    rw [length_sorted hsorted]
    exact Nat.le_trans (List.length_filter_le _ _) (Nat.le_of_lt_succ hrows)
  refine Page.Splits.of_windows (OrderBy.sortRows_perm hsorted) hsize
    (fun i => min (i * e.pageSize params.perPage) maxOffset) fun i => ?_
  rw [← drop_min hshort, ← length_sorted hsorted]
  unfold pageOf
  rw [e.boundsOf_succ]
  rfl

/-- **Pages partition a listing, exactly when its rows can be sorted.**  A size of zero is refused for every page where
parameters are validated.  Otherwise the list answers every page number of 64 bits with a page, and the pages split the
rows up, if and only if the sort does not break off; where it does, no page is answered.  It never does for twenty rows or
fewer, nor for columns that can be sorted. -/
theorem pages_partition (e : Entity) (scope : Scope) (ctx : Context) (hrows : (s.rowsOf e).length < 9223372036854775808)
    (hsize : ∀ n ∈ params.perPage, n ≤ 18446744073709551615) :
    (ctx.skipValidation = false ∧ params.perPage = some 0 →
      ∀ o : Occasion, o.context = ctx → ∀ n, 1 ≤ n → n ≤ 18446744073709551615 →
        (plain e scope).runOn o (.list { params with page := some n }) s =
          (.error (.validation [⟨"perPage", "must be at least 1"⟩]), s)) ∧
    (¬ (ctx.skipValidation = false ∧ params.perPage = some 0) →
      ((∃ pages : Nat → Page,
          (∀ o : Occasion, o.context = ctx → ∀ n, 1 ≤ n → n ≤ 18446744073709551615 →
            (plain e scope).runOn o (.list { params with page := some n }) s = (.ok (.page (pages n)), s)) ∧
          Page.Splits pages (e.pageSize params.perPage) ((plain e scope).listed ctx params s)) ↔
        (plain e scope).sorted ctx params s ≠ none) ∧
      ((plain e scope).sorted ctx params s = none →
        ∀ o : Occasion, o.context = ctx → ∀ n, 1 ≤ n → n ≤ 18446744073709551615 →
          (plain e scope).runOn o (.list { params with page := some n }) s = (.error (.store .disorder), s)) ∧
      (((plain e scope).listed ctx params s).length ≤ 20 ∨
          Table.Sortable (e.ordersBy (e.orderOf params)) ((plain e scope).listed ctx params s) →
        (plain e scope).sorted ctx params s ≠ none)) := by
  constructor
  · rintro ⟨hskip, hzero⟩ o rfl n hone hn
    have hissues := (params.issues_page hone).trans (if_pos hzero)
    rw [runOn_list_of_issues (params.inRange_page hsize hn) hskip (hissues ▸ List.cons_ne_nil _ _), hissues]
  · intro hvalid
    have hlist : ∀ o : Occasion, o.context = ctx → ∀ n, 1 ≤ n → n ≤ 18446744073709551615 →
        (plain e scope).runOn o (.list { params with page := some n }) s =
          (match (plain e scope).sorted ctx params s with
            | some rows => .ok (.page (pageOf e { params with page := some n } rows))
            | none => .error (.store .disorder), s) := by
      rintro o rfl n hone hn
      exact runOn_list_page hsize hvalid hone hn
    cases hsorted : (plain e scope).sorted ctx params s with
    | some rows =>
      rw [hsorted] at hlist
      exact ⟨⟨fun _ => nofun, fun _ => ⟨_, hlist, splits_sorted hrows hsorted⟩⟩, nofun, fun _ => nofun⟩
    | none =>
      rw [hsorted] at hlist
      refine ⟨⟨?_, fun hsome => absurd rfl hsome⟩, fun _ => hlist,
        fun hsortable => absurd hsorted (Table.sortRows_ne_none hsortable)⟩
      rintro ⟨pages, hpages, -⟩
      have hfirst := (hpages ⟨"", [], ctx⟩ rfl 1 (by decide) (by decide)).symm.trans
        (hlist ⟨"", [], ctx⟩ rfl 1 (by decide) (by decide))
      cases congrArg Prod.fst hfirst

end Pipeline

namespace Notes

/-- Three notes, and one that is deleted. -/
def shelf : MemoryStore :=
  store [row "3" .null .null, row "1" .null .null, row "0" .null (.str "2024-05-01T10:00:00Z"), row "2" .null .null]

/-- Two notes on a page. -/
def pairs : ListParams := { ListParams.standard with perPage := some 2 }

end Notes

namespace Pipeline

/-- The pages of the notes that are not deleted. -/
theorem pages_partition_notes :
    (Notes.shelf.rowsOf (Notes.entity [])).length < 9223372036854775808 ∧
      ∃ pages : Nat → Page,
        (∀ n, 1 ≤ n → n ≤ 18446744073709551615 →
          (plain (Notes.entity []) .none).runOn (Notes.occasion "a") (.list { Notes.pairs with page := some n })
            Notes.shelf = (.ok (.page (pages n)), Notes.shelf)) ∧
        (pages 2).results = [Notes.row "3" .null .null] ∧
        Page.Splits pages 2 [Notes.row "3" .null .null, Notes.row "1" .null .null, Notes.row "2" .null .null] := by
  have hrows : (Notes.shelf.rowsOf (Notes.entity [])).length < 9223372036854775808 := by decide
  have hsize : ∀ n ∈ Notes.pairs.perPage, n ≤ 18446744073709551615 := by decide
  obtain ⟨hpages, -, hsorts⟩ :=
    (pages_partition (Notes.entity []) .none (Notes.occasion "a").context hrows hsize).2 (by decide)
  obtain ⟨pages, hpages, hsplits⟩ := hpages.2 (hsorts (.inl (by decide)))
  specialize hpages (Notes.occasion "a") rfl
  have hsecond := congrArg Prod.fst (hpages 2 (by decide) (by decide))
  refine ⟨hrows, pages, hpages, ?_, hsplits⟩
  rw [← Answer.page.inj (Except.ok.inj hsecond)]
  rfl

end Pipeline

namespace Notes

/-- Two numbers with a text between them, which compares equal to either: seven times over. -/
def muddle : MemoryStore :=
  store ((List.replicate 7 [Json.num (.int 1), .str "n/a", .num (.int 2)]).flatten.zipIdx.map fun cell =>
    [("id", .str (toString cell.2)), ("title", cell.1), ("tenant", .null), ("team", .null), ("deleted_at", .null)])

def inTitleOrder : ListParams := { ListParams.standard with orderBy := [⟨"title", .asc⟩] }

end Notes

namespace Pipeline

/-- The notes of the muddle have no pages by their titles: the sort breaks off. -/
theorem muddle_has_no_pages :
    (Notes.muddle.rowsOf (Notes.entity [])).length = 21 ∧ Notes.inTitleOrder.perPage ≠ some 0 ∧
      (∀ n, 1 ≤ n → n ≤ 18446744073709551615 →
        (plain (Notes.entity []) .none).runOn (Notes.occasion "a") (.list { Notes.inTitleOrder with page := some n })
          Notes.muddle = (.error (.store .disorder), Notes.muddle)) ∧
      ¬ ∃ pages : Nat → Page, ∀ n, 1 ≤ n → n ≤ 18446744073709551615 →
        (plain (Notes.entity []) .none).runOn (Notes.occasion "a") (.list { Notes.inTitleOrder with page := some n })
          Notes.muddle = (.ok (.page (pages n)), Notes.muddle) := by
  have hsorted : (plain (Notes.entity []) .none).sorted (Notes.occasion "a").context Notes.inTitleOrder Notes.muddle = none :=
    Option.isNone_iff_eq_none.1 (by decide +kernel)
  have hlist : ∀ n, 1 ≤ n → n ≤ 18446744073709551615 →
      (plain (Notes.entity []) .none).runOn (Notes.occasion "a") (.list { Notes.inTitleOrder with page := some n })
        Notes.muddle = (.error (.store .disorder), Notes.muddle) := by
    intro n hone hn
    rw [runOn_list_page (by decide) (by decide) hone hn, hsorted]
  refine ⟨by decide, by decide, hlist, ?_⟩
  rintro ⟨pages, hpages⟩
  have hfirst := (hpages 1 (by decide) (by decide)).symm.trans (hlist 1 (by decide) (by decide))
  cases congrArg Prod.fst hfirst

end Pipeline

end RecordService
