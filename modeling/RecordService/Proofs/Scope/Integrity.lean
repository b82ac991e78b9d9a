import RecordService.Proofs.Scope.Enforcement
/-!
# Integrity — what callers of one tenant can do to the rows of another

A rule that restricts a column keeps the callers with one value from the rows with another, so these are all still
there after any operations, with their content and in their order.  It says nothing of what the callers write: an
update may put the other value into the column, and the row is then among the others.  Where no such value is written,
the rows with the other value are the same (`other_rows_kept`).
-/
namespace RecordService

/-! ## Values that are written -/

/-- The values that the changes assign to the column. -/
def Entity.writtenTo (e : Entity) (changes : Row) (column : String) : List Json :=
  ((e.changesOf changes).filter fun (k, _) => k == column).map Prod.snd

/-- A cell is what it was, or a value that was written to it. -/
theorem Table.cell_assign (e : Entity) (column : String) : ∀ changes row : Row,
    (assign e changes row).cell column = row.cell column ∨
      (assign e changes row).cell column ∈ e.writtenTo changes column
  | [], _ => .inl rfl
  | (k, v) :: changes, row => by
    have hlater : ∀ w ∈ e.writtenTo changes column, w ∈ e.writtenTo ((k, v) :: changes) column := by
      intro w hw
      obtain ⟨entry, hentry, rfl⟩ := List.mem_map.1 hw
      obtain ⟨hmem, hcolumn⟩ := List.mem_filter.1 hentry
      obtain ⟨hmem, hwritable⟩ := List.mem_filter.1 hmem
      exact List.mem_map_of_mem
        (List.mem_filter.2 ⟨List.mem_filter.2 ⟨List.mem_cons_of_mem _ hmem, hwritable⟩, hcolumn⟩)
    unfold assign
    by_cases hwritable : (k ≠ e.idField && e.hasColumn k) = true
    · rw [if_pos hwritable]
      rcases cell_assign e column changes (row.set k v) with hcell | hcell
      · rw [hcell, Row.cell_set]
        by_cases hk : column = k
        · subst hk
          refine .inr ?_
          rw [if_pos rfl]
          have hmem : (column, v) ∈ e.changesOf ((column, v) :: changes) :=
            List.mem_filter.2 ⟨List.mem_cons_self, by simpa using hwritable⟩
          exact List.mem_map_of_mem (List.mem_filter.2 ⟨hmem, beq_self_eq_true column⟩)
        · rw [if_neg hk]
          exact .inl rfl
      · exact .inr (hlater _ hcell)
    · rw [if_neg hwritable]
      exact (cell_assign e column changes row).imp_right (hlater _)

/-- The values that the intent writes to the column. -/
def Intent.writes (e : Entity) (column : String) : Intent → List Json
  | .call (.update changes _) _ => e.writtenTo changes column
  | _ => []

/-- The values that the operation writes to the column, of whatever rows. -/
def Pipeline.writes (p : Pipeline) (o : Occasion) (request : Request) (column : String) : List Json :=
  match p.plan o request with
  | .ok i => i.writes p.entity column
  | .error _ => []

/-- **An intent within a view spares the rows with a value** when none of the view has it and it is not written. -/
theorem Intent.visible_of_spared {p : Pipeline} {o : Occasion} {i : Intent} {view : List Predicate} {s : MemoryStore}
    {column : String} {value : Json} (hi : i.Within p view)
    (hspared : ∀ row ∈ s.rowsOf p.entity, row.satisfies view = true → row.satisfies [.eq column value] = false)
    (hwrites : ∀ v ∈ i.writes p.entity column, Row.satisfies [.eq column value] [(column, v)] = false) :
    (i.runOn p o s).2.visible p.entity [.eq column value] = s.visible p.entity [.eq column value] := by
  cases i with
  | answer a => rfl
  | find filter => rfl
  | page filter orderBy bounds => rw [runOn_page]
  | call c outcome =>
    rw [runOn_call]
    cases c with
    | select selection => rfl
    | insert rows => exact hi.elim
    | update changes filter =>
      refine MemoryStore.visible_update o.draws fun row hrow hf => ?_
      have hbefore := hspared row hrow (hi row hf)
      refine ⟨hbefore, ?_⟩
      rw [Row.satisfies_singleton] at hbefore ⊢
      rcases Table.cell_assign p.entity column changes row with hcell | hcell
      · rw [Predicate.holds_eq_congr value hcell, hbefore]
      · have hout := hwrites _ hcell
        rw [Row.satisfies_singleton] at hout
        rw [← hout]
        exact Predicate.holds_eq_congr value (by simp [Row.cell, Row.get?])
    | delete filter => exact MemoryStore.visible_delete o.draws fun row hrow hf => hspared row hrow (hi row hf)
  | expunge id filter =>
    rw [(runOn_expunge_eq hi.2).2.visible_eq, runOn_call]
    exact MemoryStore.visible_delete o.draws fun row hrow hf => hspared row hrow (hi.1 row hf)

/-! ## Operations of one tenant -/

/-- The cell is the text itself, and not only a value that equals it. -/
def Row.hasText (column text : String) (row : Row) : Bool :=
  match row.cell column with
  | .str t => t == text
  | _ => false

namespace Row

variable {column a b : String} {row : Row}

theorem hasText_iff : row.hasText column b = true ↔ row.cell column = .str b := by
  unfold hasText
  split
  · rename_i t h
    rw [h, beq_iff_eq, Json.str.injEq]
  · rename_i h
    exact ⟨fun hf => (Bool.false_ne_true hf).elim, fun hb => (h b hb).elim⟩

theorem satisfies_of_hasText (h : row.hasText column b = true) : row.satisfies [.eq column (.str b)] = true := by
  rw [satisfies_singleton, Predicate.holds_eq_str b (hasText_iff.1 h)]
  exact beq_self_eq_true b

/-- A text is no other text. -/
theorem not_satisfies_of_hasText (hab : a ≠ b) (h : row.hasText column b = true) :
    row.satisfies [.eq column (.str a)] = false := by
  rw [satisfies_singleton, Predicate.holds_eq_str a (hasText_iff.1 h)]
  exact beq_eq_false_iff_ne.2 hab.symm

end Row

namespace Pipeline

section
variable {e : Entity} (validators : Validators) (hooks : Hooks) {r : ScopeRule} {a b : String}

/-- **The step of one tenant**: the operation creates nothing, and the caller's value for the key is the tenant. -/
def OfTenant (r : ScopeRule) (a : String) (step : Occasion × Request) : Prop :=
  step.2.creates = false ∧ step.1.context.valueFor r.key = some (.str a)

/-- Every row of another tenant is still there after an operation. -/
theorem kept_runOn (hr : ScopeRule.lastFor r.key e.scope = some r) (hab : a ≠ b) {step : Occasion × Request}
    (hstep : OfTenant r a step) (s : MemoryStore) :
    ((s.rowsOf e).filter (Row.hasText r.column b)).Sublist
      ((((declared e validators hooks).runOn step.1 step.2 s).2.rowsOf e).filter (Row.hasText r.column b)) := by
  have hq := restriction_of_value validators hooks hr hstep.2
  have hconfined := confined_restriction hq hstep.1 s
  exact hconfined.filter_sublist fun row hrow => Row.not_satisfies_of_hasText hab hrow

theorem kept_runAll (hr : ScopeRule.lastFor r.key e.scope = some r) (hab : a ≠ b) :
    ∀ (steps : List (Occasion × Request)) (s : MemoryStore), (∀ step ∈ steps, OfTenant r a step) →
      ((s.rowsOf e).filter (Row.hasText r.column b)).Sublist
        ((((declared e validators hooks).runAll steps s).2.rowsOf e).filter (Row.hasText r.column b))
  | [], _, _ => List.Sublist.refl _
  | (o, request) :: rest, s, hsteps => by
    obtain ⟨hstep, hrest⟩ := List.forall_mem_cons.1 hsteps
    exact (kept_runOn validators hooks hr hab hstep s).trans (kept_runAll hr hab rest _ hrest)

/-- Where the other tenant's name is not written, the rows with it are the same. -/
theorem visible_runOn_of_unwritten (hr : ScopeRule.lastFor r.key e.scope = some r) (hab : a ≠ b)
    {step : Occasion × Request} (hstep : OfTenant r a step) {s : MemoryStore}
    (htext : ∀ row ∈ s.rowsOf e, row.satisfies [.eq r.column (.str b)] = true → row.hasText r.column b = true)
    (hwrites : ∀ v ∈ (declared e validators hooks).writes step.1 step.2 r.column,
      Row.satisfies [.eq r.column (.str b)] [(r.column, v)] = false) :
    ((declared e validators hooks).runOn step.1 step.2 s).2.visible e [.eq r.column (.str b)] =
      s.visible e [.eq r.column (.str b)] := by
  cases hplan : (declared e validators hooks).plan step.1 step.2 with
  | error error => rw [runOn_of_refusal hplan]
  | ok i =>
    rw [runOn_of_plan hplan]
    have hi := within_restriction (restriction_of_value validators hooks hr hstep.2) hstep.1 hplan
    refine Intent.visible_of_spared hi (fun row hrow ha => ?_) fun v hv => hwrites v ?_
    · cases hb : row.satisfies [.eq r.column (.str b)] with
      | false => rfl
      | true =>
        have hother := Row.not_satisfies_of_hasText hab (htext row hrow hb)
        rw [hother] at ha
        cases ha
    · rw [writes, hplan]
      exact hv

theorem visible_runAll_of_unwritten (hr : ScopeRule.lastFor r.key e.scope = some r) (hab : a ≠ b) :
    ∀ (steps : List (Occasion × Request)) (s : MemoryStore), (∀ step ∈ steps, OfTenant r a step) →
      (∀ row ∈ s.rowsOf e, row.satisfies [.eq r.column (.str b)] = true → row.hasText r.column b = true) →
      (∀ step ∈ steps, ∀ v ∈ (declared e validators hooks).writes step.1 step.2 r.column,
        Row.satisfies [.eq r.column (.str b)] [(r.column, v)] = false) →
      ((declared e validators hooks).runAll steps s).2.visible e [.eq r.column (.str b)] =
        s.visible e [.eq r.column (.str b)]
  | [], _, _, _, _ => rfl
  | (o, request) :: rest, s, hsteps, htext, hwrites => by
    obtain ⟨hstep, hrest⟩ := List.forall_mem_cons.1 hsteps
    obtain ⟨hwritten, hwrittenRest⟩ := List.forall_mem_cons.1 hwrites
    have hsame := visible_runOn_of_unwritten validators hooks hr hab hstep htext hwritten
    -- the rows with the other name are among those of before, so they have it as a text
    have htext' : ∀ row ∈ ((declared e validators hooks).runOn o request s).2.rowsOf e,
        row.satisfies [.eq r.column (.str b)] = true → row.hasText r.column b = true := by
      intro row hrow hb
      have hmem : row ∈ s.visible e [.eq r.column (.str b)] := hsame ▸ List.mem_filter.2 ⟨hrow, hb⟩
      obtain ⟨hrow, hb⟩ := List.mem_filter.1 hmem
      exact htext row hrow hb
    exact (visible_runAll_of_unwritten hr hab rest _ hrest htext' hwrittenRest).trans hsame

/-- **The rows of another tenant are kept**: after any operations of one tenant they are all there, with their content
and in their order, and there are no others unless one of the operations writes the other tenant's name. -/
theorem other_rows_kept (e : Entity) (validators : Validators) (hooks : Hooks) {r : ScopeRule}
    (hr : ScopeRule.lastFor r.key e.scope = some r) {a b : String} (hab : a ≠ b) (steps : List (Occasion × Request))
    (hsteps : ∀ step ∈ steps, OfTenant r a step) (s : MemoryStore)
    (hcells : ∀ row ∈ s.rowsOf e, row.cell r.column = .null ∨ ∃ text, row.cell r.column = .str text) :
    (s.visible e [.eq r.column (.str b)]).Sublist
        (((declared e validators hooks).runAll steps s).2.visible e [.eq r.column (.str b)]) ∧
      ((∀ step ∈ steps, ∀ v ∈ (declared e validators hooks).writes step.1 step.2 r.column,
          Row.satisfies [.eq r.column (.str b)] [(r.column, v)] = false) →
        ((declared e validators hooks).runAll steps s).2.visible e [.eq r.column (.str b)] =
          s.visible e [.eq r.column (.str b)]) := by
  have htext : ∀ row ∈ s.rowsOf e, row.satisfies [.eq r.column (.str b)] = true → row.hasText r.column b = true := by
    intro row hrow hb
    rw [Row.satisfies_singleton] at hb
    rcases hcells row hrow with hnull | ⟨text, hcell⟩
    · simp [Predicate.eq, Predicate.holds, hnull, Json.isNull] at hb
    · rw [Predicate.holds_eq_str b hcell, beq_iff_eq] at hb
      exact Row.hasText_iff.2 (hb ▸ hcell)
  constructor
  · have hbefore : s.visible e [.eq r.column (.str b)] = (s.rowsOf e).filter (Row.hasText r.column b) :=
      List.filter_congr fun row hrow => Bool.eq_iff_iff.2 ⟨htext row hrow, Row.satisfies_of_hasText⟩
    rw [hbefore]
    refine (kept_runAll validators hooks hr hab steps s hsteps).trans ?_
    exact List.monotone_filter_right _ fun row => Row.satisfies_of_hasText
  · intro hwrites
    exact visible_runAll_of_unwritten validators hooks hr hab steps s hsteps htext hwrites

end

/-- Tenant `a` renames its note and tries to delete that of tenant `b`. -/
theorem other_rows_kept_notes :
    (Notes.byTenant.runAll [(Notes.occasion "a", Notes.rename "1"), (Notes.occasion "a", .deleteOne (.str "2"))]
        (Notes.store [Notes.row "1" (.str "a") .null, Notes.row "2" (.str "b") .null])).2.visible Notes.byTenant.entity
        [.eq "tenant" (.str "b")] =
      (Notes.store [Notes.row "1" (.str "a") .null, Notes.row "2" (.str "b") .null]).visible Notes.byTenant.entity
        [.eq "tenant" (.str "b")] := by
  have hsteps : ∀ step ∈ [(Notes.occasion "a", Notes.rename "1"), (Notes.occasion "a", .deleteOne (.str "2"))],
      OfTenant ⟨"tenantId", "tenant", true⟩ "a" step := by
    intro step hstep
    rcases List.mem_pair.1 hstep with rfl | rfl
    · exact ⟨rfl, rfl⟩
    · exact ⟨rfl, rfl⟩
  have hcells : ∀ row ∈ (Notes.store [Notes.row "1" (.str "a") .null, Notes.row "2" (.str "b") .null]).rowsOf
      Notes.byTenant.entity, row.cell "tenant" = .null ∨ ∃ text, row.cell "tenant" = .str text := by
    intro row hrow
    rcases List.mem_pair.1 hrow with rfl | rfl
    · exact .inr ⟨"a", rfl⟩
    · exact .inr ⟨"b", rfl⟩
  refine (other_rows_kept Notes.byTenant.entity Notes.byTenant.validators .none rfl (by decide) _ hsteps _ hcells).2 ?_
  intro step hstep v hv
  rcases List.mem_pair.1 hstep with rfl | rfl
  · exact absurd hv List.not_mem_nil
  · exact absurd hv List.not_mem_nil

/-- Tenant `a` gives its note to tenant `b`, who had none. -/
theorem own_row_given_away :
    OfTenant ⟨"tenantId", "tenant", true⟩ "a" (Notes.occasion "a", .update (.str "1") (.obj [("tenant", .str "b")])) ∧
      (Notes.store [Notes.row "1" (.str "a") .null]).visible Notes.byTenant.entity [.eq "tenant" (.str "b")] = [] ∧
      (Notes.byTenant.runAll [(Notes.occasion "a", .update (.str "1") (.obj [("tenant", .str "b")]))]
          (Notes.store [Notes.row "1" (.str "a") .null])).2.visible Notes.byTenant.entity [.eq "tenant" (.str "b")] =
        [Notes.row "1" (.str "b") .null] :=
  ⟨⟨rfl, rfl⟩, rfl, rfl⟩

end Pipeline

end RecordService
