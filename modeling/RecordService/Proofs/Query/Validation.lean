import RecordService.Proofs.Pipeline.Discipline
import RecordService.Proofs.Query.Pages
/-!
# Validation of list parameters — what it changes

A validated list has its parameters written as a document, read by the validator, written and read once more.  They
are what they were behind all of it (`ListParams.decode_encode`), so that a validated list answers as one that is not
validated.  The one exception is a page or a size of zero: each has its issue (`ListParams.mem_issues`), and no store
is asked anything (`Pipeline.not_stored_of_issues`).
-/
namespace RecordService

namespace ListParams

/-- An issue is about a zero, which stands for the page or its size. -/
theorem mem_issues (p : ListParams) (name : String) : name ∈ p.issues.map Issue.field ↔
    name = "page" ∧ p.page = some 0 ∨ name = "perPage" ∧ p.perPage = some 0 := by
  rw [issues, List.map_append, List.mem_append]
  by_cases hpage : p.page = some 0 <;> by_cases hsize : p.perPage = some 0 <;> simp [hpage, hsize]

theorem issues_nodup (p : ListParams) : (p.issues.map Issue.field).Nodup := by
  rw [issues, List.map_append]
  by_cases hpage : p.page = some 0 <;> by_cases hsize : p.perPage = some 0 <;> simp [hpage, hsize]

end ListParams

/-- The occasion, on which validation is skipped or not. -/
def Occasion.skipping (o : Occasion) (skip : Bool) : Occasion :=
  { o with context := { o.context with skipValidation := skip } }

namespace Pipeline

variable {e : Entity} {scope : Scope} {params : ListParams} {s : MemoryStore}

/-- The standard validator refuses parameters with an issue. -/
theorem checks_of_issues (h : params.InRange) (hissues : params.issues ≠ []) :
    .error (.validation params.issues) ∈ (plain e scope).checks (.list params) := by
  have hread : ListParams.read params.encode = .ok params := ListParams.ofJson_encode h
  have hrefuses : (plain e scope).validators.list params.encode = .error (.validation params.issues) := by
    show ListParams.validator params.encode = _
    rw [ListParams.validator, hread, ok_bind]
    cases hlist : params.issues with
    | nil => exact absurd hlist hissues
    | cons issue rest => rfl
  rw [checks, hrefuses]
  exact List.mem_singleton_self _

/-- **Parameters with an issue are refused before any store is asked.** -/
theorem not_stored_of_issues {o : Occasion} (h : params.InRange) (hskip : o.context.skipValidation = false)
    (hissues : params.issues ≠ []) :
    ∀ c ∈ ((plain e scope).perform o.now o.context (.list params)).calls ((plain e scope).onMemory o.draws) s,
      c.isStoreCall = false := by
  have hanswered := Program.answered_run ((plain e scope).onMemory o.draws) ((plain e scope).list o.context params) s
  have hvalidates : validates o.context
      (((plain e scope).list o.context params).trace ((plain e scope).onMemory o.draws) s) = true := by
    rw [list, permit, hskip, if_neg Bool.false_ne_true]
    show (!o.context.skipValidation && true) = true
    rw [hskip]
    rfl
  have hrefused := list_refused hanswered hvalidates (checks_of_issues h hissues)
  intro c hc
  rw [show (plain e scope).perform o.now o.context (.list params) = (plain e scope).list o.context params from rfl,
    ← Program.trace_calls, List.mem_map] at hc
  obtain ⟨y, hy, rfl⟩ := hc
  exact hrefused.uncalled y hy

/-- **To validate the parameters of a list changes nothing**, unless the page or its size is zero.  They are read back
as they are written, and a list comes to the same with validation as without: to a page, if its rows are ordered by columns
that can be sorted.  A list that is validated with zeros in its parameters fails, with one issue for each of them and without a call to a store. -/
theorem list_validation_transparent (h : params.InRange) :
    ListParams.decode params.encode = .ok params ∧
    ∀ (e : Entity) (scope : Scope) (o : Occasion) (s : MemoryStore),
      (params.page ≠ some 0 ∧ params.perPage ≠ some 0 →
        (plain e scope).runOn (o.skipping false) (.list params) s =
            (plain e scope).runOn (o.skipping true) (.list params) s ∧
          (Table.Sortable (e.ordersBy (e.orderOf params)) ((plain e scope).listed o.context params s) →
            ∃ page, (plain e scope).runOn (o.skipping true) (.list params) s = (.ok (.page page), s))) ∧
      (params.page = some 0 ∨ params.perPage = some 0 →
        ∃ issues : List Issue,
          (plain e scope).runOn (o.skipping false) (.list params) s = (.error (.validation issues), s) ∧
          (issues.map Issue.field).Nodup ∧
          (∀ name, name ∈ issues.map Issue.field ↔
            name = "page" ∧ params.page = some 0 ∨ name = "perPage" ∧ params.perPage = some 0) ∧
          ∀ c ∈ ((plain e scope).perform o.now (o.skipping false).context (.list params)).calls
              ((plain e scope).onMemory o.draws) s, c.isStoreCall = false) := by
  refine ⟨ListParams.decode_encode h, fun e scope o s => ⟨fun hpositive => ?_, fun hzero => ?_⟩⟩
  · have hnone : params.issues = [] := params.issues_eq_nil_iff.2 hpositive
    have hsame : (plain e scope).runOn (o.skipping false) (.list params) s =
        (plain e scope).runOn (o.skipping true) (.list params) s := by
      rw [runOn_list h (.inr hnone), runOn_list h (.inr hnone)]
      rfl
    refine ⟨hsame, fun hsortable => ?_⟩
    obtain ⟨rows, hrows⟩ := Option.ne_none_iff_exists'.1 (Table.sortRows_ne_none (.inr hsortable))
    refine ⟨pageOf e params rows, ?_⟩
    rw [runOn_list h (.inr hnone), show (plain e scope).sorted (o.skipping true).context params s = some rows from hrows]
  · have hsome : params.issues ≠ [] := fun hnone => by
      obtain ⟨hpage, hsize⟩ := params.issues_eq_nil_iff.1 hnone
      exact hzero.elim hpage hsize
    exact ⟨params.issues, runOn_list_of_issues h rfl hsome, params.issues_nodup, params.mem_issues,
      not_stored_of_issues (o := o.skipping false) h rfl hsome⟩

end Pipeline

namespace Notes

/-- The zeroth page of the drafts and of what else a team has, ordered by two columns. -/
def zeroth : ListParams where
  page := some 0
  perPage := some 18446744073709551615
  search := some " a "
  filters := some [("OR", .arr [.obj [("title", .obj [("like", .str "draft%")])],
    .obj [("AND", .arr [.obj [("team", .obj [("not", .null)])], .obj [("id", .obj [("gte", Json.ofNat 2)])]])]])]
  orderBy := [⟨"title", .desc⟩, ⟨"id", .asc⟩]
  includeDeleted := true

end Notes

namespace Pipeline

/-- The zeroth page is refused when validated, and the first is the same with validation and without. -/
theorem list_validation_transparent_zeroth :
    Notes.zeroth.InRange ∧
      ListParams.decode Notes.zeroth.encode = .ok Notes.zeroth ∧
      (plain (Notes.entity []) .none).runOn ((Notes.occasion "a").skipping false)
          (.list { Notes.zeroth with page := some 1 }) Notes.shelf =
        (plain (Notes.entity []) .none).runOn ((Notes.occasion "a").skipping true)
          (.list { Notes.zeroth with page := some 1 }) Notes.shelf ∧
      ∃ issues : List Issue,
        (plain (Notes.entity []) .none).runOn ((Notes.occasion "a").skipping false) (.list Notes.zeroth) Notes.shelf =
          (.error (.validation issues), Notes.shelf) ∧
        "page" ∈ issues.map Issue.field ∧ "perPage" ∉ issues.map Issue.field := by
  have hzeroth : Notes.zeroth.InRange := ⟨by decide, by decide⟩
  have hfirst : ListParams.InRange { Notes.zeroth with page := some 1 } := ⟨by decide, by decide⟩
  obtain ⟨hread, hlists⟩ := list_validation_transparent hzeroth
  obtain ⟨issues, hrefused, -, hfields, -⟩ :=
    (hlists (Notes.entity []) .none (Notes.occasion "a") Notes.shelf).2 (.inl rfl)
  obtain ⟨hsame, -⟩ := ((list_validation_transparent hfirst).2 (Notes.entity []) .none (Notes.occasion "a")
    Notes.shelf).1 (by decide)
  refine ⟨hzeroth, hread, hsame, issues, hrefused, (hfields _).2 (.inl ⟨rfl, rfl⟩), fun hsize => ?_⟩
  rcases (hfields _).1 hsize with ⟨hname, -⟩ | ⟨-, hzero⟩
  · exact absurd hname (by decide)
  · exact absurd hzero (by decide)

end Pipeline

end RecordService
