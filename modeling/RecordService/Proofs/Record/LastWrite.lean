import RecordService.Proofs.Pipeline.Fate
import RecordService.Proofs.Record.Rules
/-!
# Last writes — the time that every row keeps of the operation that last affected it

The time of the last change is written in four places: for a record that is stored without one, along with a mark that is
set or taken away, and along with the changes of an update.  Beside the table of a run we keep a list of times, one for
each row, which an operation sets for the rows that it affects and for no others (`RunStep.times`).  It is the list of
the times that stand in the rows, all along the run (`RunStep.times_are_last_writes`).
-/
namespace RecordService

/-! ## The time in a row -/

/-- The record has no value for the column, or null. -/
def Json.Omits (record : Json) (column : String) : Prop :=
  ∀ body, record = .obj body → (Row.get? body column).all Json.isNull = true

namespace Pipeline

variable {e : Entity} {scope : Scope} {o : Occasion} {request : Request} {column : String} {row : Row}

theorem recordOf_eq_ok {v : Json} (h : recordOf v = .ok row) : v = .null ∧ row = [] ∨ v = .obj row := by
  unfold recordOf expectObject at h
  split at h
  · exact .inl ⟨rfl, (Except.ok.inj h).symm⟩
  · split at h
    · exact .inr (congrArg Json.obj (Except.ok.inj h))
    · cases h

/-- The value of a column other than the identifier is kept as it is. -/
theorem kept?_judge_eq {payload : Payload} {v w : Json} (hid : column ≠ e.idField)
    (h : (e.judge payload column v).kept? = some w) : w = v := by
  unfold Entity.judge at h
  split at h
  · cases h
  · rw [if_neg hid] at h
    split at h <;> cases h
    rfl

/-- Validation gives no value to a column that a record omits. -/
theorem omitted_of_accepted (hid : column ≠ e.idField) {record : Json} (homits : record.Omits column)
    (h : (plain e scope).accepted o.context record = .ok row) : (row.get? column).all Json.isNull = true := by
  obtain ⟨valid, hvalid, hrow⟩ := ok_of_bind h
  cases hskip : o.context.skipValidation with
  | true =>
    rw [hskip] at hvalid
    cases hvalid
    rcases recordOf_eq_ok hrow with ⟨-, rfl⟩ | hbody
    · rfl
    · exact homits row hbody
  | false =>
    rw [hskip] at hvalid
    obtain ⟨body, hbody, hissues, rfl⟩ := Entity.of_recordValidator hvalid
    cases hrow
    have hnull := homits body hbody
    rw [Entity.get?_keptMembers column (Entity.memberIssues_of_recordIssues hissues)]
    cases hgiven : Row.get? body column with
    | none => rfl
    | some v =>
      rw [hgiven] at hnull
      cases hkept : (e.judge .record column v).kept? with
      | none => rw [Option.bind_some, hkept]; rfl
      | some w =>
        rw [Option.bind_some, hkept, kept?_judge_eq hid hkept]
        exact hnull

theorem get?_prepare_of_ne_id (hid : column ≠ e.idField) (draw : String) (input : Row) (lastId : Int) :
    (Table.prepare e draw input lastId).1.get? column =
      (e.column? column).map fun c => (input.get? column).getD (Table.defaultValue c) := by
  unfold Table.prepare
  split
  · simp only [Table.get?_complete, if_neg hid]
  · simp only [Table.get?_complete, if_neg hid]

/-- **A row that is stored without a time gets that of the operation.** -/
theorem cell_of_storedFor (htime : e.TimesChanges column) (hid : column ≠ e.idField) {record : Json}
    (homits : record.Omits column) (h : (plain e scope).StoredFor o.now o.context record row) :
    row.cell column = .str o.now := by
  obtain ⟨input, draw, lastId, hinput, rfl⟩ := h
  obtain ⟨c, hc⟩ := Option.isSome_iff_exists.1 htime.column
  have hstamps : e.stamps column = true := by simp [Entity.stamps, htime.updatedAt]
  have hstamped : (e.stampCreated o.now input).get? column = some (.str o.now) := by
    rw [Entity.get?_stampCreated, hstamps, omitted_of_accepted hid homits hinput]
    rfl
  rw [Row.cell]
  show ((Table.prepare e draw (e.stampCreated o.now input) lastId).1.get? column).getD .null = _
  rw [get?_prepare_of_ne_id hid, hc, hstamped]
  rfl

/-- The members that an update is left with have every name once, when those it is given have. -/
theorem keys_settled_nodup {id data id' : Json} {output : Row}
    (hnames : ∀ body : Row, data = .obj body → body.keys.Nodup)
    (h : (plain e scope).settled o id data = .ok (id', output)) : output.keys.Nodup := by
  obtain ⟨⟨valid, data'⟩, harguments, h⟩ := ok_of_bind h
  obtain ⟨revised, hrevised, h⟩ := ok_of_bind h
  obtain ⟨row, hrow, h⟩ := ok_of_bind h
  cases h
  cases hrevised
  obtain ⟨validate, hvalidate, harguments⟩ := ok_of_bind harguments
  cases validate with
  | false =>
    cases harguments
    rcases recordOf_eq_ok hrow with ⟨-, rfl⟩ | hbody
    · exact List.nodup_nil
    · exact hnames _ hbody
  | true =>
    obtain ⟨_, -, harguments⟩ := ok_of_bind harguments
    obtain ⟨changes, hchanges, harguments⟩ := ok_of_bind harguments
    cases harguments
    obtain ⟨body, hbody, -, rfl⟩ := Entity.of_recordValidator hchanges
    cases hrow
    exact (hnames body hbody).sublist (Entity.keys_keptMembers_sublist e .changes body)

theorem keys_members_nodup (hnames : ∀ id (body : Row), request = .update id (.obj body) → body.keys.Nodup) :
    ((plain e scope).members o request).keys.Nodup := by
  have hmark : ∀ b : Bulk, (b.members (plain e scope) o.now).keys.Nodup := fun b => by
    unfold Bulk.members
    cases (plain e scope).entity.softDelete <;> cases b <;> simp [Row.keys]
  cases request with
  | update id data =>
    cases hsettled : (plain e scope).settled o id data with
    | error error =>
      rw [members, hsettled]
      exact List.nodup_nil
    | ok settled =>
      rw [members, hsettled]
      have houtput := keys_settled_nodup (fun body hbody => hnames id body (by rw [hbody])) hsettled
      exact houtput.sublist (List.filter_sublist.map Prod.fst)
  | deleteOne id => exact hmark .deletion
  | restore id => exact hmark .restoration
  | bulkDelete ids => exact hmark .deletion
  | bulkRestore ids => exact hmark .restoration
  | _ => exact List.nodup_nil

/-- **Whatever an operation writes into a row, it writes its time along with it.** -/
theorem cell_rewrite (htime : e.TimesChanges column) (hid : column ≠ e.idField)
    (hnames : ∀ id (body : Row), request = .update id (.obj body) → body.keys.Nodup) (row : Row) :
    ((plain e scope).rewrite o request row).cell column = .str o.now :=
  Entity.cell_of_changed_stampUpdated (keys_members_nodup hnames) htime hid (Table.changed_assign e _ row)

end Pipeline

/-! ## Steps -/

namespace RunStep

variable {e : Entity} {column : String} {step : RunStep} {s : MemoryStore}

def now : RunStep → String
  | own _ o _ => o.now
  | other _ o _ => o.now

/-- What the step does to a row of the entity. -/
def fate (e : Entity) : RunStep → Row → Fate
  | own scope o request => (Pipeline.plain e scope).fate o request
  | other _ _ _ => fun _ => .kept

/-- The rows of the entity that the step answers to have stored. -/
def stored (e : Entity) : RunStep → MemoryStore → List Row
  | own scope o request, s => request.stored ((Pipeline.plain e scope).runOn o request s).1
  | other _ _ _, _ => []

/-- **The times beside the rows**, behind a step: its own time for the rows that it writes into and for those that it
stores, and the time from before for the others. -/
def times (e : Entity) (step : RunStep) (s : MemoryStore) (before : List String) : List String :=
  ((s.rowsOf e).zip before).filterMap (fun (row, time) => (step.fate e row).outcome step.now time) ++
    (step.stored e s).map fun _ => step.now

/-- The operations on the entity give no time to the records that they store, and no object of changes has a name twice.
The other pipelines are for other tables. -/
def LeavesTime (e : Entity) (column : String) : RunStep → Prop
  | own _ _ request =>
    (∀ record ∈ request.records, record.Omits column) ∧
      ∀ id (body : Row), request = .update id (.obj body) → body.keys.Nodup
  | other p _ _ => p.entity.qualifiedName ≠ e.qualifiedName

/-- The times that stand in the rows. -/
def Timed (column : String) (row : Row) (time : String) : Prop := row.cell column = .str time

/-- **What a step makes of the table**: every row has its fate, with the time of the step in those that are written into
and in those that are added. -/
structure Advances (e : Entity) (column : String) (step : RunStep) (s : MemoryStore) (write : Row → Row) : Prop where
  rows : (step.after e s).rowsOf e =
    ((s.rowsOf e).filterMap fun row => (step.fate e row).outcome (write row) row) ++ step.stored e s
  written : ∀ row, Timed column (write row) step.now
  stored : ∀ row ∈ step.stored e s, Timed column row step.now

theorem exists_advances (htime : e.TimesChanges column) (hid : column ≠ e.idField) (hstep : step.LeavesTime e column)
    (s : MemoryStore) : ∃ write, step.Advances e column s write := by
  cases step with
  | own scope o request =>
    refine ⟨(Pipeline.plain e scope).rewrite o request, ((Pipeline.plain e scope).performs rfl o s request).rows,
      Pipeline.cell_rewrite htime hid hstep.2, fun row hrow => ?_⟩
    obtain ⟨record, hrecord, hstored⟩ := Pipeline.storedFor_of_stored rfl hrow
    exact Pipeline.cell_of_storedFor htime hid (hstep.1 record hrecord) hstored
  | other p o request =>
    refine ⟨fun row => row.set column (.str o.now), ?_, fun row => ?_, fun row hrow => by cases hrow⟩
    · show ((p.runOn o request s).2.table e).rows = _
      rw [Pipeline.table_runOn_of_ne hstep]
      exact ((List.append_nil _).trans (Table.filterMap_outcome_kept (fun _ => rfl) (s.rowsOf e))).symm
    · show (row.set column (.str o.now)).cell column = _
      rw [Row.cell_set, if_pos rfl]
      rfl

theorem forall₂_outcome {fate : Row → Fate} {write : Row → Row} {now : String}
    (hwrite : ∀ row, Timed column (write row) now) {rows : List Row} {before : List String}
    (h : List.Forall₂ (Timed column) rows before) :
    List.Forall₂ (Timed column) (rows.filterMap fun row => (fate row).outcome (write row) row)
      ((rows.zip before).filterMap fun (row, time) => (fate row).outcome now time) := by
  induction h with
  | nil => exact .nil
  | @cons row time rows before hrow _ ih =>
    rw [List.zip_cons_cons, List.filterMap_cons, List.filterMap_cons]
    dsimp only
    cases fate row with
    | kept => exact .cons hrow ih
    | written => exact .cons (hwrite row) ih
    | removed => exact ih

/-- **A step keeps the times beside the rows the times in the rows.** -/
theorem timed_after (htime : e.TimesChanges column) (hid : column ≠ e.idField) (hstep : step.LeavesTime e column)
    {before : List String} (h : List.Forall₂ (Timed column) (s.rowsOf e) before) :
    List.Forall₂ (Timed column) ((step.after e s).rowsOf e) (step.times e s before) := by
  obtain ⟨write, hadvances⟩ := exists_advances htime hid hstep s
  rw [hadvances.rows, times]
  refine List.rel_append (forall₂_outcome hadvances.written h) ?_
  exact List.forall₂_map_right_iff.2 (List.forall₂_same.2 hadvances.stored)

/-! ## Runs -/

/-- The times beside the rows, behind a run that begins with a store and the times beside its rows. -/
def timesAll (e : Entity) : List RunStep → MemoryStore → List String → List String
  | [], _, before => before
  | step :: rest, s, before => timesAll e rest (step.after e s) (step.times e s before)

theorem timed_afterAll (htime : e.TimesChanges column) (hid : column ≠ e.idField) :
    ∀ {steps : List RunStep} {s : MemoryStore} {before : List String}, (∀ step ∈ steps, step.LeavesTime e column) →
      List.Forall₂ (Timed column) (s.rowsOf e) before →
        List.Forall₂ (Timed column) ((afterAll e steps s).rowsOf e) (timesAll e steps s before)
  | [], _, _, _, h => h
  | step :: rest, _, _, hsteps, h => by
    obtain ⟨hstep, hrest⟩ := List.forall_mem_cons.1 hsteps
    show List.Forall₂ _ ((afterAll e rest (step.after e _)).rowsOf e) _
    exact timed_afterAll htime hid hrest (timed_after htime hid hstep h)

/-- **All along a run, every row has the time of the last operation that affected it**: that stored it, wrote its changes
to it, or counted it when a mark of deletion was set or taken away.  An operation that counts rows counts those that it
affects, and whatever it is given, a row behind it is as it was or has the time of the operation. -/
theorem times_are_last_writes (htime : e.TimesChanges column) (hid : column ≠ e.idField) {steps : List RunStep}
    (hsteps : ∀ step ∈ steps, step.LeavesTime e column) :
    ∀ pre post, steps = pre ++ post →
      List.Forall₂ (fun row time => row.cell column = .str time) ((afterAll e pre .empty).rowsOf e)
        (timesAll e pre .empty []) ∧
      ∀ scope o request rest, post = own scope o request :: rest →
        (∀ n, ((Pipeline.plain e scope).runOn o request (afterAll e pre .empty)).1 = .ok (.affected n) →
          n = (((afterAll e pre .empty).rowsOf e).filter fun row =>
            (Pipeline.plain e scope).fate o request row ≠ .kept).length) ∧
        ∀ row ∈ ((Pipeline.plain e scope).runOn o request (afterAll e pre .empty)).2.rowsOf e,
          row ∈ (afterAll e pre .empty).rowsOf e ∨ row.cell column = .str o.now := by
  rintro pre post rfl
  refine ⟨timed_afterAll htime hid (fun step hstep => hsteps step (List.mem_append_left _ hstep)) .nil, ?_⟩
  rintro scope o request rest rfl
  refine ⟨((Pipeline.plain e scope).performs rfl o _ request).count, fun row hrow => ?_⟩
  obtain ⟨write, hadvances⟩ := exists_advances htime hid (hsteps (own scope o request) (by simp)) (afterAll e pre .empty)
  have hrows := hadvances.rows
  unfold after at hrows
  rw [hrows] at hrow
  rcases List.mem_append.1 hrow with hthere | hadded
  · obtain ⟨old, hold, hrow⟩ := List.mem_filterMap.1 hthere
    cases hfate : fate e (own scope o request) old with
    | kept =>
      rw [hfate] at hrow
      cases hrow
      exact .inl hold
    | written =>
      rw [hfate] at hrow
      cases hrow
      exact .inr (hadvances.written old)
    | removed =>
      rw [hfate] at hrow
      cases hrow
  · exact .inr (hadvances.stored row hadded)

end RunStep

namespace Notes

/-- At some hour of the day. -/
def hour (now : String) : Occasion := ⟨now, [], .standard⟩

/-- Two notes are stored, the first is given another title and a time of the caller's, the second is deleted, and the
first is to be given another identifier and nothing else. -/
def timedRun : List RunStep :=
  [.own .none (hour "10") (.bulkCreate [.obj [("id", .str "1"), ("title", .str "draft")],
      .obj [("id", .str "2"), ("updated_at", .null)]]),
    .own .none (hour "11") (.update (.str "1") (.obj [("title", .str "final"), ("updated_at", .str "never")])),
    .own .none (hour "12") (.deleteOne (.str "2")),
    .own .none (hour "13") (.update (.str "1") (.obj [("id", .str "9")]))]

theorem leavesTime_timedRun : ∀ step ∈ timedRun, step.LeavesTime timed "updated_at" := by
  have hnone : ∀ record ∈ ([] : List Json), record.Omits "updated_at" := List.forall_mem_nil _
  refine List.forall_mem_cons.2 ⟨⟨?_, fun id body h => (by cases h)⟩, ?_⟩
  · refine List.forall_mem_cons.2 ⟨?_, List.forall_mem_singleton.2 ?_⟩ <;> intro body hbody <;> cases hbody <;> rfl
  refine List.forall_mem_cons.2 ⟨⟨hnone, fun id body h => ?_⟩, ?_⟩
  · cases h
    decide
  refine List.forall_mem_cons.2 ⟨⟨hnone, fun id body h => (by cases h)⟩, ?_⟩
  refine List.forall_mem_singleton.2 ⟨hnone, fun id body h => ?_⟩
  cases h
  decide

end Notes

/-- The first note was last written at eleven, whatever time the caller gave, and the second when it was deleted. -/
theorem RunStep.times_are_last_writes_notes :
    Notes.timed.TimesChanges "updated_at" ∧ "updated_at" ≠ Notes.timed.idField ∧
      (∀ step ∈ Notes.timedRun, step.LeavesTime Notes.timed "updated_at") ∧
      List.Forall₂ (fun row time => row.cell "updated_at" = .str time)
        ((RunStep.afterAll Notes.timed Notes.timedRun .empty).rowsOf Notes.timed) ["11", "12"] := by
  have htime : Notes.timed.TimesChanges "updated_at" := ⟨rfl, rfl⟩
  have hid : "updated_at" ≠ Notes.timed.idField := by decide
  have hsteps := Notes.leavesTime_timedRun
  have htimes : RunStep.timesAll Notes.timed Notes.timedRun .empty [] = ["11", "12"] := rfl
  obtain ⟨hrows, -⟩ := RunStep.times_are_last_writes htime hid hsteps Notes.timedRun [] (List.append_nil _).symm
  rw [htimes] at hrows
  exact ⟨htime, hid, hsteps, hrows⟩

end RecordService
