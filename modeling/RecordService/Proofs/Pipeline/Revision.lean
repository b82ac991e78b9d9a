import RecordService.Proofs.Record.Obedience
import RecordService.Proofs.Scope.View
import RecordService.Proofs.Store.Affected
/-!
# Updates — what they write, and where

Validation and hooks leave an update with an identifier and with members (`Pipeline.settled`).  It then writes the members
that are columns, and the time of the last change, to the rows that it addresses, and leaves everything else as it is.
With no member to write it writes no time either, but only reads (`updates_only_given`).
-/
namespace RecordService

/-! ## What is written -/

namespace Entity

variable {e : Entity} {now : String} {output before after : Row}

/-- The time of the last change is kept in the column. -/
structure TimesChanges (e : Entity) (name : String) : Prop where
  updatedAt : e.updatedAt = some name
  column : e.hasColumn name = true

/-- **The row `after` is the row `before` with the members written into it, and the time.** -/
structure Revised (e : Entity) (now : String) (output before after : Row) : Prop where
  timed : ∀ name, e.TimesChanges name → after.cell name = .str now
  written : ∀ name, e.Writes output name → ¬e.TimesChanges name → output.get? name = some (after.cell name)
  kept : ∀ name, ¬e.Writes output name → ¬e.TimesChanges name → after.get? name = before.get? name

theorem writes_stampUpdated_iff (hstamp : e.updatedAt ≠ some e.idField) {name : String} :
    e.Writes (e.stampUpdated now (e.changesOf output)) name ↔ e.TimesChanges name ∨ e.Writes output name := by
  have hkeys : name ∈ (e.stampUpdated now (e.changesOf output)).keys ↔
      e.updatedAt = some name ∨ e.Writes output name := by
    unfold stampUpdated
    cases hupdated : e.updatedAt with
    | none => simpa using mem_keys_changesOf_iff
    | some column =>
      dsimp only
      rw [Row.mem_keys_set, mem_keys_changesOf_iff, Option.some.injEq, eq_comm]
  constructor
  · rintro ⟨-, hcolumn, hgiven⟩
    exact (hkeys.1 hgiven).imp_left fun hupdated => ⟨hupdated, hcolumn⟩
  · rintro (htime | hwrites)
    · have hid : name ≠ e.idField := by
        rintro rfl
        exact hstamp htime.updatedAt
      exact ⟨hid, htime.column, hkeys.2 (.inl htime.updatedAt)⟩
    · exact ⟨hwrites.notId, hwrites.column, hkeys.2 (.inr hwrites)⟩

/-- **Changes that are written with the time leave the time behind**, whatever they have for it. -/
theorem cell_of_changed_stampUpdated {changes : Row} (hchanges : changes.keys.Nodup) {name : String}
    (htime : e.TimesChanges name) (hid : name ≠ e.idField) (h : e.Changed (e.stampUpdated now changes) before after) :
    after.cell name = .str now := by
  have hstamped : e.stampUpdated now changes = changes.set name (.str now) := by
    unfold stampUpdated
    rw [htime.updatedAt]
  have hmem := h.written name ⟨hid, htime.column, by rw [hstamped, Row.mem_keys_set]; exact .inl rfl⟩
  have hget := Row.get?_of_mem (keys_stampUpdated_nodup now hchanges) hmem
  rw [hstamped, Row.get?_set, if_pos rfl] at hget
  exact (Option.some.inj hget).symm

/-- The members that are stored, with the time among them, are written as they are given. -/
theorem revised_of_changed (hstamp : e.updatedAt ≠ some e.idField) (hkeys : output.keys.Nodup)
    (h : e.Changed (e.stampUpdated now (e.changesOf output)) before after) : e.Revised now output before after := by
  constructor
  case timed =>
    intro name htime
    have hid : name ≠ e.idField := by
      rintro rfl
      exact hstamp htime.updatedAt
    exact cell_of_changed_stampUpdated (hkeys.sublist (List.filter_sublist.map Prod.fst)) htime hid h
  case written =>
    intro name hwrites htime
    have hmem := h.written name ((writes_stampUpdated_iff hstamp).2 (.inr hwrites))
    rcases mem_of_mem_stampUpdated hmem with hgiven | hupdated
    · exact Row.get?_of_mem hkeys (List.mem_filter.1 hgiven).1
    · exact absurd ⟨hupdated, hwrites.column⟩ htime
  case kept =>
    intro name hwrites htime
    exact h.kept name fun hstamped => ((writes_stampUpdated_iff hstamp).1 hstamped).elim htime hwrites

end Entity

/-! ## Updates -/

namespace Pipeline

/-- The identifier and the members that an update is left with, when validation and hooks let it pass. -/
def settled (p : Pipeline) (o : Occasion) (id data : Json) : Except ServiceError (Json × Row) := do
  let (id, data) ← p.argumentsFor p.hooks id data o.context
  let data ← p.hooks.revise .update data
  return (id, ← recordOf data)

/-- The row has the identifier, is within the scope of the caller, and is not marked as deleted. -/
def addresses (p : Pipeline) (ctx : Context) (id : Json) (row : Row) : Bool :=
  (p.entity.idEquals id).holds row && (p.scope.restrictions ctx.scope ctx.actor).all (·.holds row) &&
    p.entity.softDelete.all fun mark => mark.visible.holds row

variable {p : Pipeline} {o : Occasion} {id data id' : Json} {output : Row}

theorem satisfies_eq_addresses (p : Pipeline) (ctx : Context) (id : Json) :
    Row.satisfies (p.reach ctx [p.entity.idEquals id] false) = p.addresses ctx id := by
  funext row
  have hall : ∀ ps : List Predicate, row.satisfies ps = ps.all (·.holds row) := fun ps =>
    Bool.eq_iff_iff.2 ((row.satisfies_iff ps).trans List.all_eq_true.symm)
  have hvisible : row.satisfies (visibility p.entity.softDelete false) =
      p.entity.softDelete.all fun mark => mark.visible.holds row := by
    cases p.entity.softDelete with
    | none => rfl
    | some mark => exact row.satisfies_singleton mark.visible
  rw [satisfies_reach, view, Row.satisfies_append, Row.satisfies_singleton, hall, hvisible, addresses, Bool.and_assoc]

theorem plan_of_settled (h : p.settled o id data = .ok (id', output)) : p.plan o (.update id data) =
    .ok (.call (p.revision o.now (p.entity.changesOf output) (p.reach o.context [p.entity.idEquals id'] false))
      (.current id')) := by
  obtain ⟨⟨valid, data'⟩, harguments, h⟩ := ok_of_bind h
  obtain ⟨revised, hrevised, h⟩ := ok_of_bind h
  obtain ⟨row, hrow, h⟩ := ok_of_bind h
  cases h
  show Intended.update p p.hooks o.now o.context id data = _
  unfold Intended.update
  rw [harguments, ok_bind]
  dsimp only
  rw [hrevised, ok_bind, hrow]
  rfl

theorem isEmpty_changesOf_iff {e : Entity} : (e.changesOf output).isEmpty = true ↔ ∀ name, ¬e.Writes output name := by
  constructor
  · intro h name hwrites
    have hmem := Entity.mem_keys_changesOf_iff.2 hwrites
    rw [List.isEmpty_iff.1 h] at hmem
    cases hmem
  · intro h
    refine List.isEmpty_iff.2 (List.eq_nil_iff_forall_not_mem.2 fun change hchange => ?_)
    exact h change.1 (Entity.mem_keys_changesOf_iff.1 (List.mem_map_of_mem hchange))

/-- An update with nothing to write reads the first row it addresses. -/
theorem runOn_update_of_empty (s : MemoryStore) (hsettled : p.settled o id data = .ok (id', output))
    (hempty : (p.entity.changesOf output).isEmpty = true) : p.runOn o (.update id data) s =
      (match (s.rowsOf p.entity).find? (p.addresses o.context id') with
        | some row => .ok (.row row)
        | none => .error (p.entity.notFound id'), s) := by
  rw [runOn_of_plan (plan_of_settled hsettled), revision, if_pos hempty, Intent.runOn_call, MemoryStore.answer_select,
    ← satisfies_eq_addresses, ← List.head?_filter]
  show (p.firstOrNotFound id' ((s.visible p.entity _).take 1), s) = _
  unfold firstOrNotFound
  rw [List.head?_take, if_neg (by decide)]
  rfl

/-- An update with something to write is the change of the rows it addresses. -/
theorem runOn_update_of_changes (s : MemoryStore) (hsettled : p.settled o id data = .ok (id', output))
    (hchanges : ¬(p.entity.changesOf output).isEmpty = true) : p.runOn o (.update id data) s =
      let after := s.update p.entity (p.entity.stampUpdated o.now (p.entity.changesOf output))
        (p.reach o.context [p.entity.idEquals id'] false)
      (p.firstOrNotFound id' after.1, after.2) := by
  rw [runOn_of_plan (plan_of_settled hsettled), revision, if_neg hchanges, Intent.runOn_call]
  rfl

/-- **An update writes what it was given, and the time, to the rows it addresses, and nothing else.**  Without anything to
write it leaves the store as it is, and answers with the first row it addresses. -/
theorem updates_only_given (s : MemoryStore) (hstamp : p.entity.updatedAt ≠ some p.entity.idField)
    (hsettled : p.settled o id data = .ok (id', output)) (hkeys : output.keys.Nodup) :
    ((∃ name, p.entity.Writes output name) →
      List.Forall₂ (fun before after => if p.addresses o.context id' before then
          p.entity.Revised o.now output before after else after = before)
        (s.rowsOf p.entity) ((p.runOn o (.update id data) s).2.rowsOf p.entity) ∧
      (p.runOn o (.update id data) s).1 = p.firstOrNotFound id'
        ((((s.rowsOf p.entity).zip ((p.runOn o (.update id data) s).2.rowsOf p.entity)).filter fun pair =>
          p.addresses o.context id' pair.1).map Prod.snd)) ∧
    ((∀ name, ¬p.entity.Writes output name) → p.runOn o (.update id data) s =
      (match (s.rowsOf p.entity).find? (p.addresses o.context id') with
        | some row => .ok (.row row)
        | none => .error (p.entity.notFound id'), s)) ∧
    ((p.runOn o (.update id data) s).2.rowsOf p.entity).map (Row.cell · p.entity.idField) =
      (s.rowsOf p.entity).map (Row.cell · p.entity.idField) ∧
    ∀ e : Entity, p.entity.qualifiedName ≠ e.qualifiedName →
      (p.runOn o (.update id data) s).2.rowsOf e = s.rowsOf e := by
  have hothers : ∀ e : Entity, p.entity.qualifiedName ≠ e.qualifiedName →
      (p.runOn o (.update id data) s).2.rowsOf e = s.rowsOf e := fun e hne =>
    congrArg Table.rows (table_runOn_of_ne hne o _ s)
  by_cases hempty : (p.entity.changesOf output).isEmpty = true
  · have hrun := runOn_update_of_empty s hsettled hempty
    refine ⟨fun ⟨name, hwrites⟩ => absurd hwrites (isEmpty_changesOf_iff.1 hempty name), fun _ => hrun, ?_, hothers⟩
    rw [hrun]
  · have hrun := runOn_update_of_changes s hsettled hempty
    refine ⟨fun _ => ?_, fun hnone => absurd (isEmpty_changesOf_iff.2 hnone) hempty, ?_, hothers⟩
    · rw [hrun, ← satisfies_eq_addresses]
      dsimp only
      rw [MemoryStore.rowsOf_update, MemoryStore.behind_updateRows]
      refine ⟨(MemoryStore.forall₂_updateRows p.entity _ _ _).imp fun before after hpair => ?_, rfl⟩
      split at hpair
      · rename_i haddressed
        rw [if_pos haddressed]
        exact Entity.revised_of_changed hstamp hkeys hpair
      · rename_i hother
        rw [if_neg hother]
        exact hpair
    · rw [hrun]
      dsimp only
      rw [MemoryStore.rowsOf_update]
      exact Table.cells_updateRows_id p.entity _ _ _

end Pipeline

namespace Notes

/-- Notes of a tenant, with the time of their last change. -/
def timed : Entity :=
  { entity [⟨"tenantId", "tenant", true⟩] with
    columns := (entity []).columns ++ [⟨"updated_at", true, false, none, some "text"⟩]
    updatedAt := some "updated_at" }

def timedRow (id title : String) (tenant updatedAt : Json) : Row :=
  [("id", .str id), ("title", .str title), ("tenant", tenant), ("team", .null), ("deleted_at", .null),
    ("updated_at", updatedAt)]

def timedStore : MemoryStore :=
  store [timedRow "1" "draft" (.str "b") .null, timedRow "2" "draft" (.str "a") .null]

/-- Another identifier, a member that is no column, and a time of the caller's are given along with a title. -/
def timedData : Json :=
  .obj [("id", .str "9"), ("colour", .str "red"), ("updated_at", .str "never"), ("title", .str "final")]

def timedMembers : Row := [("updated_at", .str "never"), ("title", .str "final")]

end Notes

namespace Pipeline

theorem updates_only_given_notes :
    Notes.timed.updatedAt ≠ some Notes.timed.idField ∧
      (Pipeline.of Notes.timed).settled (Notes.occasion "a") (.str "2") Notes.timedData =
        .ok (.str "2", Notes.timedMembers) ∧
      Notes.timedMembers.keys.Nodup ∧
      ((Pipeline.of Notes.timed).runOn (Notes.occasion "a") (.update (.str "2") Notes.timedData)
          Notes.timedStore).2.rowsOf Notes.timed =
        [Notes.timedRow "1" "draft" (.str "b") .null,
          Notes.timedRow "2" "final" (.str "a") (.str "2024-05-01T10:00:00Z")] ∧
      Notes.timed.Revised "2024-05-01T10:00:00Z" Notes.timedMembers (Notes.timedRow "2" "draft" (.str "a") .null)
        (Notes.timedRow "2" "final" (.str "a") (.str "2024-05-01T10:00:00Z")) := by
  have hstamp : Notes.timed.updatedAt ≠ some Notes.timed.idField := by decide
  have hsettled : (Pipeline.of Notes.timed).settled (Notes.occasion "a") (.str "2") Notes.timedData =
      .ok (.str "2", Notes.timedMembers) := rfl
  have hkeys : Notes.timedMembers.keys.Nodup := by decide
  obtain ⟨hwritten, -, -⟩ := updates_only_given Notes.timedStore hstamp hsettled hkeys
  obtain ⟨hrows, -⟩ := hwritten ⟨"title", by decide, rfl, by decide⟩
  refine ⟨hstamp, hsettled, hkeys, rfl, ?_⟩
  cases hrows with
  | cons _ hrest =>
    cases hrest with
    | cons hsecond _ => exact hsecond

end Pipeline

end RecordService
