import RecordService.Proofs.Filter.Allowed
import RecordService.Proofs.Scope.View
import RecordService.Proofs.SoftDelete.Mark
import RecordService.Proofs.Store.Alteration
/-!
# Repetition — an operation that is performed twice

An operation that creates no record leaves the store, when it is performed again on the same occasion, as the first time
has left it.  Its predicates may select other rows then, since they are about rows that the first time has rewritten; but
these are rows that the first time has altered, and to alter them again changes nothing.  A deletion that marks records
comes to the same count besides, when no restriction of the scope is about what it writes (`same_when_repeated`).
-/
namespace RecordService

variable {p : Pipeline} {o : Occasion} {s : MemoryStore} {i : Intent}

/-! ## The store -/

theorem RowCall.Within.ne_insert {view : List Predicate} {call : RowCall} (h : call.Within view) (rows : List Row) :
    call ≠ .insert rows := by
  rintro rfl
  exact h

theorem Intent.Within.change {view : List Predicate} {call : RowCall} (h : i.Within p view)
    (hcall : i.change? = some call) : call.Within view := by
  cases i with
  | call c outcome => cases hcall; exact h
  | expunge id filter => cases hcall; exact h.1
  | _ => cases hcall

/-- **An intent within a view leaves the store as it is when it is carried out again.** -/
theorem Intent.runOn_runOn {view : List Predicate} (h : i.Within p view) (o : Occasion) (s : MemoryStore) :
    (i.runOn p o (i.runOn p o s).2).2 = (i.runOn p o s).2 := by
  rcases i.after_cases p o s with hsame | ⟨c, hc, hafter⟩
  · rw [hsame, hsame]
  · rcases i.after_cases p o (i.runOn p o s).2 with hagain | ⟨c', hc', hagain⟩
    · exact hagain
    · obtain rfl : c = c' := Option.some.inj (hc.symm.trans hc')
      rw [hagain, hafter, MemoryStore.answer_answer (h.change hc).ne_insert]

/-! ## The answer of a deletion -/

/-- Changes that leave every row of the filter in it answer with the same rows again. -/
theorem MemoryStore.answer_update_update {e : Entity} {changes : Row} {filter : List Predicate} (draws : List String)
    (h : ∀ row : Row, row.satisfies filter = true → (Table.assign e changes row).satisfies filter = true) :
    (answer draws e (.update changes filter) (answer draws e (.update changes filter) s).2).1 =
      (answer draws e (.update changes filter) s).1 := by
  rw [answer_update, answer_update, table_setTable]
  dsimp only
  rw [Table.filter_updateRows_self h, List.map_map]
  exact congrArg Except.ok (List.map_congr_left fun row _ => Table.assign_assign e changes row)

namespace Request

/-- The operation deletes records, or marks them as deleted. -/
def deletes : Request → Bool
  | .deleteOne _ => true
  | .bulkDelete _ => true
  | _ => false

end Request

namespace Pipeline

variable {mark : SoftDelete}

/-- No restriction of the scope names the field for the mark or the column for the time of the last change. -/
def ScopeSpares (p : Pipeline) (ctx : Context) (mark : SoftDelete) : Prop :=
  ∀ q ∈ p.scope.restrictions ctx.scope ctx.actor, ∀ field ∈ q.fields, field ≠ mark.field ∧ p.entity.updatedAt ≠ some field

/-- Marked rows are within reach as they were before. -/
theorem satisfies_reach_markRow {predicates : List Predicate} (hscope : p.ScopeSpares o.context mark)
    (hpredicates : ∀ q ∈ predicates, q.fields = [p.entity.idField]) (value : Json) (row : Row) :
    (p.markRow o.now mark value row).satisfies (p.reach o.context predicates true) =
      row.satisfies (p.reach o.context predicates true) := by
  rw [satisfies_reach, satisfies_reach, view_includeDeleted]
  congr 1
  · refine Predicate.satisfies_congr fun q hq field hfield => ?_
    rw [hpredicates q hq, List.mem_singleton] at hfield
    rw [hfield, cell_markRow_id]
  · refine Predicate.satisfies_congr fun q hq field hfield => ?_
    obtain ⟨hmark, hupdated⟩ := hscope q hq field hfield
    rw [Row.cell, Row.cell, p.sameButMarked_markRow o.now mark value row field hmark hupdated]

/-- What a deletion under a mark intends: to mark the rows with the identifiers that are within reach. -/
theorem plan_of_deletes {request : Request} (hr : request.deletes = true) (hmark : p.entity.softDelete = some mark)
    (hi : p.plan o request = .ok i) : i = .answer (.affected 0) ∨
      ∃ predicates, (∀ q ∈ predicates, q.fields = [p.entity.idField]) ∧
        i = .call (.update (p.marking o.now mark (mark.marker o.now)) (p.reach o.context predicates true)) .affected := by
  have hremoval : ∀ filter, p.removal o.now filter = .update (p.marking o.now mark (mark.marker o.now)) filter := by
    intro filter
    unfold removal
    rw [hmark]
  have hfields : ∀ q : Predicate, q.fields = [p.entity.idField] → ∀ q' ∈ [q], q'.fields = [p.entity.idField] := by
    intro q hq q' hmem
    rw [List.mem_singleton.1 hmem, hq]
  cases request with
  | deleteOne id =>
    obtain ⟨id', -, rfl⟩ := Intended.of_deleteOne hi
    exact .inr ⟨[p.entity.idEquals id'], hfields _ rfl, by rw [hremoval]⟩
  | bulkDelete ids =>
    obtain ⟨-, rfl⟩ | ⟨ids', -, rfl⟩ := Intended.of_bulkDelete hi
    · exact .inl rfl
    · exact .inr ⟨[p.entity.idAmong ids'], hfields _ rfl, by rw [hremoval]⟩
  | _ => cases hr

/-- **An operation that creates nothing leaves the store as it is when it is performed again**, whatever either time comes
to; and a deletion that marks records comes to the same again, unless a restriction of the scope is about what it
writes. -/
theorem same_when_repeated (p : Pipeline) (o : Occasion) (s : MemoryStore) :
    (∀ request : Request, request.creates = false →
      (p.runOn o request (p.runOn o request s).2).2 = (p.runOn o request s).2) ∧
    ∀ (request : Request) (mark : SoftDelete), request.deletes = true → p.entity.softDelete = some mark →
      p.ScopeSpares o.context mark → (p.runOn o request (p.runOn o request s).2).1 = (p.runOn o request s).1 := by
  refine ⟨fun request hr => ?_, fun request mark hr hmark hscope => ?_⟩
  · cases hplan : p.plan o request with
    | error error => rw [runOn_of_refusal hplan, runOn_of_refusal hplan]
    | ok i =>
      rw [runOn_of_plan hplan, runOn_of_plan hplan]
      exact Intent.runOn_runOn (plan_within hr hplan) o s
  · cases hplan : p.plan o request with
    | error error => rw [runOn_of_refusal hplan, runOn_of_refusal hplan]
    | ok i =>
      rw [runOn_of_plan hplan, runOn_of_plan hplan]
      obtain rfl | ⟨predicates, hpredicates, rfl⟩ := plan_of_deletes hr hmark hplan
      · rfl
      · rw [Intent.runOn_call, Intent.runOn_call]
        -- Neither the identifier nor what the scope looks at is written, so a marked row is still within reach.
        refine congrArg (· >>= Outcome.answer p .affected) (MemoryStore.answer_update_update o.draws fun row hrow => ?_)
        exact (satisfies_reach_markRow hscope hpredicates (mark.marker o.now) row).trans hrow

/-- Of two notes one is the caller's, which is counted both times. -/
theorem same_when_repeated_notes :
    (Notes.byTenant.runOn (Notes.occasion "a") (.bulkDelete [.str "1", .str "2"])
        (Notes.byTenant.runOn (Notes.occasion "a") (.bulkDelete [.str "1", .str "2"])
          (Notes.store [Notes.row "1" (.str "a") .null, Notes.row "2" (.str "b") .null])).2).2 =
      Notes.store [Notes.row "1" (.str "a") (.str "2024-05-01T10:00:00Z"), Notes.row "2" (.str "b") .null] ∧
    (Notes.byTenant.runOn (Notes.occasion "a") (.bulkDelete [.str "1", .str "2"])
        (Notes.byTenant.runOn (Notes.occasion "a") (.bulkDelete [.str "1", .str "2"])
          (Notes.store [Notes.row "1" (.str "a") .null, Notes.row "2" (.str "b") .null])).2).1 = .ok (.affected 1) := by
  have hscope : Notes.byTenant.ScopeSpares (Notes.occasion "a").context (.timestamp "deleted_at") := by
    intro q hq field hfield
    obtain rfl : q = .eq "tenant" (.str "a") := List.mem_singleton.1 hq
    obtain rfl : field = "tenant" := List.mem_singleton.1 hfield
    exact ⟨by decide, by simp [Notes.byTenant, Pipeline.of, Notes.entity]⟩
  obtain ⟨hstore, hanswer⟩ := same_when_repeated Notes.byTenant (Notes.occasion "a")
    (Notes.store [Notes.row "1" (.str "a") .null, Notes.row "2" (.str "b") .null])
  exact ⟨(hstore (.bulkDelete [.str "1", .str "2"]) rfl).trans (by rfl),
    (hanswer (.bulkDelete [.str "1", .str "2"]) (.timestamp "deleted_at") rfl rfl hscope).trans (by rfl)⟩

end Pipeline

end RecordService
