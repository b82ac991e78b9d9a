import RecordService.Proofs.Pipeline.Bulk
import RecordService.Proofs.Pipeline.Discipline
import RecordService.Proofs.Pipeline.Revision
import RecordService.Proofs.Pipeline.Storing
/-!
# Fates — what one operation does to each row of a table

An operation without hooks keeps a row, writes into it, or removes it, and which of these it does can be told from the
row and the request (`Pipeline.fate`).  Behind the operation the table consists of the rows that were not removed, in
their places, and the rows that the operation answers to have stored, and the rows that it counts are those that it does
not keep (`Pipeline.performs`).
-/
namespace RecordService

/-- What an operation does to a row that is stored. -/
inductive Fate where
  | kept
  | written
  | removed
  deriving DecidableEq

namespace Fate

/-- What there is in the place of the old. -/
def outcome {α : Type} (new old : α) : Fate → Option α
  | kept => some old
  | written => some new
  | removed => none

/-- Rows are written into when there is something to write, and are removed otherwise. -/
def ofEdit : Option Row → Fate
  | some _ => written
  | none => removed

theorem ofEdit_ne_kept (edit : Option Row) : ofEdit edit ≠ kept := by cases edit <;> simp [ofEdit]

end Fate

namespace Pipeline

/-- No identifier is refused, and the row is within the scope of the caller and has one of them. -/
def selects (p : Pipeline) (o : Occasion) (ids : List Json) (row : Row) : Bool :=
  ids.all (fun id => (p.validators.idFor o.context id).isOk) && Bulk.chosen p o.context ids row

/-- **What the operation does to the row.**  An update writes into the rows that it addresses, unless it has nothing to
write; a row is deleted by a mark where there is one. -/
def fate (p : Pipeline) (o : Occasion) : Request → Row → Fate
  | .update id data, row =>
    match p.settled o id data with
    | .ok (id', output) =>
      if !(p.entity.changesOf output).isEmpty && p.addresses o.context id' row then .written else .kept
    | .error _ => .kept
  | .deleteOne id, row =>
    if p.selects o [id] row then (if p.entity.softDelete.isSome then .written else .removed) else .kept
  | .bulkDelete ids, row =>
    if p.selects o ids row then (if p.entity.softDelete.isSome then .written else .removed) else .kept
  | .restore id, row => if p.entity.softDelete.isSome && p.selects o [id] row then .written else .kept
  | .bulkRestore ids, row => if p.entity.softDelete.isSome && p.selects o ids row then .written else .kept
  | .permanentDelete id, row => if p.selects o [id] row then .removed else .kept
  | _, _ => .kept

end Pipeline

/-! ## Alterations -/

namespace MemoryStore

theorem rowsOf_alter (s : MemoryStore) (e : Entity) (edit : Option Row) (chosen : Row → Bool) :
    (s.alter e edit chosen).rowsOf e = Table.alter e edit chosen (s.rowsOf e) := by
  rw [rowsOf, alter, table_setTable]

end MemoryStore

namespace Table

variable {e : Entity} {chosen : Row → Bool} {rows : List Row}

/-- To alter rows is to give each that is chosen the fate of the edit. -/
theorem alter_eq_outcome {edit : Option Row} {write : Row → Row}
    (h : ∀ changes ∈ edit, ∀ row, assign e changes row = write row) (chosen : Row → Bool) (rows : List Row) :
    alter e edit chosen rows =
      rows.filterMap fun row => (if chosen row then Fate.ofEdit edit else .kept).outcome (write row) row := by
  unfold alter
  congr 1
  funext row
  by_cases hrow : chosen row = true
  · rw [if_pos hrow, if_pos hrow]
    cases edit with
    | none => rfl
    | some changes => exact congrArg some (h changes rfl row)
  · rw [if_neg hrow, if_neg hrow]
    rfl

theorem filterMap_outcome_kept {fate : Row → Fate} {write : Row → Row} (h : ∀ row, fate row = .kept) (rows : List Row) :
    (rows.filterMap fun row => (fate row).outcome (write row) row) = rows := by
  simp only [h, Fate.outcome, List.filterMap_some]

theorem alter_of_none {edit : Option Row} (h : ∀ row, chosen row = false) : alter e edit chosen rows = rows := by
  unfold alter
  simp only [h, Bool.false_eq_true, if_false, List.filterMap_some]

end Table

/-! ## Deleting and restoring -/

/-- What is counted are the rows of the reply. -/
theorem Outcome.eq_length_of_affected {p : Pipeline} {outcome : Outcome} {rows : List Row} {n : Nat}
    (h : outcome.answer p rows = .ok (.affected n)) : n = rows.length := by
  cases outcome with
  | affected =>
    cases h
    rfl
  | affectedSome id =>
    unfold answer Pipeline.affectedOrNotFound at h
    dsimp only at h
    split at h <;> cases h
    rfl
  | current id =>
    unfold answer Pipeline.firstOrNotFound at h
    dsimp only at h
    split at h <;> cases h
  | stored =>
    unfold answer at h
    dsimp only at h
    split at h <;> cases h
  | created => cases h

namespace Pipeline

variable {p : Pipeline} {o : Occasion} {ids : List Json} {id : Json} {error : ServiceError}

theorem selects_eq_chosen (h : ∀ id ∈ ids, ∃ valid, p.validators.idFor o.context id = .ok valid) :
    p.selects o ids = Bulk.chosen p o.context ids := by
  have hall : ids.all (fun id => (p.validators.idFor o.context id).isOk) = true := by
    rw [List.all_eq_true]
    intro id hid
    obtain ⟨valid, hvalid⟩ := h id hid
    rw [hvalid]
    rfl
  funext row
  rw [selects, hall, Bool.true_and]

theorem selects_eq_false (hid : id ∈ ids) (h : p.validators.idFor o.context id = .error error) (row : Row) :
    p.selects o ids row = false := by
  have hall : ids.all (fun id => (p.validators.idFor o.context id).isOk) = false := by
    rw [List.all_eq_false]
    exact ⟨id, hid, by rw [h]; exact Bool.false_ne_true⟩
  rw [selects, hall, Bool.false_and]

theorem selects_nil (row : Row) : p.selects o [] row = false := by simp [selects, Bulk.chosen]

/-- One value that is refused makes the whole list refused. -/
theorem idsFor_error (hid : id ∈ ids) (h : p.validators.idFor o.context id = .error error) :
    ∃ error', p.validators.idsFor o.context ids = .error error' := by
  unfold Validators.idFor at h
  unfold Validators.idsFor
  cases hskip : o.context.skipValidation with
  | true =>
    rw [hskip, if_pos rfl] at h
    cases h
  | false =>
    rw [hskip, if_neg Bool.false_ne_true] at h
    exact checkIds_error ids 0 (List.mem_map.2 ⟨id, hid, h⟩)

/-- **The operation alters the rows that are selected, and counts them.** -/
structure Alters (p : Pipeline) (o : Occasion) (edit : Option Row) (ids : List Json) (s : MemoryStore)
    (result : Except ServiceError Answer × MemoryStore) : Prop where
  rows : result.2.rowsOf p.entity = Table.alter p.entity edit (p.selects o ids) (s.rowsOf p.entity)
  count : ∀ n, result.1 = .ok (.affected n) → n = ((s.rowsOf p.entity).filter (p.selects o ids)).length

variable {s : MemoryStore} {edit : Option Row}

/-- A list that is refused, or has no element, selects nothing. -/
theorem alters_of_none (hnone : ∀ row, p.selects o ids row = false) {answer : Except ServiceError Answer}
    (hanswer : ∀ n, answer = .ok (.affected n) → n = 0) : p.Alters o edit ids s (answer, s) := by
  constructor
  case rows => exact (Table.alter_of_none hnone).symm
  case count =>
    intro n hn
    rw [hanswer n hn, List.filter_eq_nil_iff.2 fun row _ => by rw [hnone]; exact Bool.false_ne_true]
    rfl

theorem alters_of_refused (hid : id ∈ ids) (h : p.validators.idFor o.context id = .error error) {request : Request}
    {error' : ServiceError} (hplan : p.plan o request = .error error') :
    p.Alters o edit ids s (p.runOn o request s) := by
  rw [runOn_of_refusal hplan]
  exact alters_of_none (selects_eq_false hid h) fun n hn => (by cases hn)

theorem alters_of_call (hids : ∀ id ∈ ids, ∃ valid, p.validators.idFor o.context id = .ok valid)
    {predicate : Predicate} (hdenotes : ∀ row : Row, row.satisfies [predicate] = ids.any (p.denotes o.context row))
    (outcome : Outcome) :
    p.Alters o edit ids s
      ((Intent.call (.alteration edit (p.reach o.context [predicate] true)) outcome).runOn p o s) := by
  rw [Bulk.runOn_alteration hdenotes, ← selects_eq_chosen hids]
  constructor
  case rows => exact s.rowsOf_alter p.entity edit _
  case count =>
    intro n hn
    rw [Outcome.eq_length_of_affected hn, List.length_map]

end Pipeline

namespace Bulk

variable {p : Pipeline} {o : Occasion} {s : MemoryStore} {b : Bulk} {id : Json} {ids : List Json}

theorem alters_one (hp : p.hooks = .none) (hb : b.Offered p) (id : Json) (s : MemoryStore) :
    p.Alters o (b.edit p o.now) [id] s (p.runOn o (b.one id) s) := by
  have hplan := plan_one hp hb o id
  cases hid : p.validators.idFor o.context id with
  | error error =>
    rw [hid] at hplan
    exact Pipeline.alters_of_refused List.mem_cons_self hid hplan
  | ok id' =>
    rw [hid] at hplan
    rw [Pipeline.runOn_of_plan hplan]
    exact Pipeline.alters_of_call (List.forall_mem_singleton.2 ⟨id', hid⟩) (Pipeline.denotes_singleton hid) _

theorem alters_many (hp : p.hooks = .none) (hb : b.Offered p) (ids : List Json) (s : MemoryStore) :
    p.Alters o (b.edit p o.now) ids s (p.runOn o (b.many ids) s) := by
  by_cases hne : ids = []
  · subst hne
    rw [runOn_many_nil hb]
    exact Pipeline.alters_of_none Pipeline.selects_nil fun n hn => by cases hn; rfl
  have hplan := plan_many hp hb o hne
  by_cases hids : ∀ id ∈ ids, ∃ valid, p.validators.idFor o.context id = .ok valid
  · obtain ⟨valid, hvalid, hall⟩ := Pipeline.idsFor_ok hids
    rw [hvalid] at hplan
    rw [Pipeline.runOn_of_plan hplan]
    exact Pipeline.alters_of_call hids (Pipeline.any_denotes hall) _
  · push Not at hids
    obtain ⟨id, hid, hrefused⟩ := hids
    obtain ⟨error, herror⟩ : ∃ error, p.validators.idFor o.context id = .error error := by
      cases hfor : p.validators.idFor o.context id with
      | error error => exact ⟨error, rfl⟩
      | ok valid => exact absurd hfor (hrefused valid)
    obtain ⟨error', hlist⟩ := Pipeline.idsFor_error hid herror
    rw [hlist] at hplan
    exact Pipeline.alters_of_refused hid herror hplan

/-- The request asks for the operation, on one identifier or on a list of them. -/
inductive Asks (b : Bulk) : Request → List Json → Prop where
  | one (id : Json) : Asks b (b.one id) [id]
  | many (ids : List Json) : Asks b (b.many ids) ids

theorem Asks.alters {request : Request} (h : b.Asks request ids) (hp : p.hooks = .none) (hb : b.Offered p)
    (s : MemoryStore) : p.Alters o (b.edit p o.now) ids s (p.runOn o request s) := by
  cases h with
  | one id => exact alters_one hp hb id s
  | many => exact alters_many hp hb ids s

end Bulk

/-! ## Every operation -/

/-- The mark that is set, or taken away. -/
def Bulk.members (p : Pipeline) (now : String) : Bulk → Row
  | .deletion => p.entity.softDelete.toList.map fun mark => (mark.field, mark.marker now)
  | .restoration => p.entity.softDelete.toList.map fun mark => (mark.field, mark.notDeletedValue)

namespace Pipeline

/-- The members that the operation writes along with the time. -/
def members (p : Pipeline) (o : Occasion) : Request → Row
  | .update id data =>
    match p.settled o id data with
    | .ok (_, output) => p.entity.changesOf output
    | .error _ => []
  | .deleteOne _ => Bulk.deletion.members p o.now
  | .bulkDelete _ => Bulk.deletion.members p o.now
  | .restore _ => Bulk.restoration.members p o.now
  | .bulkRestore _ => Bulk.restoration.members p o.now
  | _ => []

/-- What a row is when the operation has written into it. -/
def rewrite (p : Pipeline) (o : Occasion) (request : Request) (row : Row) : Row :=
  Table.assign p.entity (p.entity.stampUpdated o.now (p.members o request)) row

/-- **The operation does to every row what its fate is**, adds what it stores, and counts the rows it does not keep. -/
structure Performs (p : Pipeline) (o : Occasion) (request : Request) (s : MemoryStore)
    (result : Except ServiceError Answer × MemoryStore) : Prop where
  rows : result.2.rowsOf p.entity = ((s.rowsOf p.entity).filterMap fun row =>
    (p.fate o request row).outcome (p.rewrite o request row) row) ++ request.stored result.1
  count : ∀ n, result.1 = .ok (.affected n) →
    n = ((s.rowsOf p.entity).filter fun row => p.fate o request row ≠ .kept).length

variable {p : Pipeline} {o : Occasion} {request : Request} {s : MemoryStore} {id : Json} {ids : List Json}

/-- An operation that stores no row, keeps every row and counts none leaves the table as it is. -/
theorem performs_of_kept {answer : Except ServiceError Answer}
    (hkept : ∀ row ∈ s.rowsOf p.entity, p.fate o request row = .kept) (hstored : request.stored answer = [])
    (hanswer : ∀ n, answer = .ok (.affected n) → n = 0) :
    p.Performs o request s (answer, s) := by
  constructor
  case rows =>
    rw [hstored, List.append_nil]
    refine (Eq.trans (List.filterMap_congr fun row hrow => ?_) List.filterMap_some).symm
    rw [hkept row hrow]
    rfl
  case count =>
    intro n hn
    rw [hanswer n hn, List.filter_eq_nil_iff.2 fun row hrow => by simp [hkept row hrow]]
    rfl

/-! ### Deleting and restoring -/

theorem rewrite_of_edit (b : Bulk) (hmembers : p.members o request = b.members p o.now) :
    ∀ changes ∈ b.edit p o.now, ∀ row, Table.assign p.entity changes row = p.rewrite o request row := by
  intro changes hchanges row
  have hstamped : changes = p.entity.stampUpdated o.now (p.members o request) := by
    rw [hmembers]
    cases b <;> obtain ⟨mark, hmark, rfl⟩ := Option.map_eq_some_iff.1 hchanges <;>
      simp [Bulk.members, hmark, marking]
  rw [rewrite, hstamped]

theorem performs_of_alters {edit : Option Row} {result : Except ServiceError Answer × MemoryStore}
    (h : p.Alters o edit ids s result)
    (hrewrite : ∀ changes ∈ edit, ∀ row, Table.assign p.entity changes row = p.rewrite o request row)
    (hfate : ∀ row, p.fate o request row = if p.selects o ids row then Fate.ofEdit edit else .kept)
    (hstored : request.stored result.1 = []) : p.Performs o request s result := by
  constructor
  case rows =>
    rw [h.rows, hstored, List.append_nil, Table.alter_eq_outcome hrewrite]
    simp only [hfate]
  case count =>
    intro n hn
    rw [h.count n hn]
    refine congrArg List.length (List.filter_congr fun row _ => ?_)
    rw [hfate]
    cases p.selects o ids row with
    | true => simp [Fate.ofEdit_ne_kept]
    | false => rfl

theorem performs_of_refusal {error : ServiceError} (hplan : p.plan o request = .error error)
    (hkept : ∀ row ∈ s.rowsOf p.entity, p.fate o request row = .kept) :
    p.Performs o request s (p.runOn o request s) := by
  rw [runOn_of_refusal hplan]
  exact performs_of_kept hkept (by cases request <;> rfl) fun n hn => (by cases hn)

theorem fate_of_restoration (h : Bulk.restoration.Asks request ids) (row : Row) : p.fate o request row =
    if p.entity.softDelete.isSome && p.selects o ids row then .written else .kept := by
  cases h <;> rfl

theorem fate_of_offered {b : Bulk} (h : b.Asks request ids) (hb : b.Offered p) (row : Row) :
    p.fate o request row = if p.selects o ids row then Fate.ofEdit (b.edit p o.now) else .kept := by
  cases b with
  | deletion =>
    have hedit : Fate.ofEdit (Bulk.deletion.edit p o.now) =
        if p.entity.softDelete.isSome then .written else .removed := by
      unfold Bulk.edit
      cases p.entity.softDelete <;> rfl
    rw [hedit]
    cases h <;> rfl
  | restoration =>
    obtain ⟨mark, hmark⟩ := Option.isSome_iff_exists.1 hb
    rw [fate_of_restoration h, Bulk.edit_of_marks _ hmark, hmark]
    rfl

/-- What is not offered is refused, and keeps every row. -/
theorem performs_of_unoffered {b : Bulk} (h : b.Asks request ids) (hb : ¬ b.Offered p) (s : MemoryStore) :
    p.Performs o request s (p.runOn o request s) := by
  cases b with
  | deletion => exact absurd trivial hb
  | restoration =>
    have hnone : p.entity.softDelete = none := by simpa [Bulk.Offered] using hb
    have hplan : p.plan o request = .error (.usage (p.entity.name ++ " has no soft delete configured")) := by
      cases h with
      | one id =>
        show Intended.restore p p.hooks o.now o.context id = _
        rw [Intended.restore, Entity.requireSoftDelete_of_none hnone]
        rfl
      | many =>
        show Intended.bulkRestore p p.hooks o.now o.context ids = _
        rw [Intended.bulkRestore, Entity.requireSoftDelete_of_none hnone]
        rfl
    refine performs_of_refusal hplan fun row _ => ?_
    rw [fate_of_restoration h, hnone]
    rfl

/-- **Deletion and restoration**, of one record or of several, do to every row what its fate is. -/
theorem performs_of_asks {b : Bulk} (hp : p.hooks = .none) (h : b.Asks request ids) (s : MemoryStore) :
    p.Performs o request s (p.runOn o request s) := by
  by_cases hb : b.Offered p
  · have hmembers : p.members o request = b.members p o.now := by cases b <;> cases h <;> rfl
    have hstored : ∀ answer, request.stored answer = [] := by cases b <;> cases h <;> exact fun _ => rfl
    exact performs_of_alters (h.alters hp hb s) (rewrite_of_edit b hmembers) (fate_of_offered h hb) (hstored _)
  · exact performs_of_unoffered h hb s

/-! ### Removing for good -/

theorem plan_permanentDelete (hp : p.hooks = .none) (id : Json) : p.plan o (.permanentDelete id) =
    (p.validators.idFor o.context id).map fun id' => .expunge id' (p.reach o.context [p.entity.idEquals id'] true) := by
  unfold plan
  rw [hp]
  show Intended.permanentDelete p .none o.context id = _
  unfold Intended.permanentDelete
  rw [Validators.validated_id]
  cases p.validators.idFor o.context id <;> rfl

/-- Whether a record is looked for first or not, the rows with the identifier that are within the scope are removed. -/
theorem alters_permanentDelete (hp : p.hooks = .none) (id : Json) (s : MemoryStore) :
    p.Alters o none [id] s (p.runOn o (.permanentDelete id) s) := by
  have hplan := plan_permanentDelete (o := o) hp id
  cases hid : p.validators.idFor o.context id with
  | error error =>
    rw [hid] at hplan
    exact alters_of_refused List.mem_cons_self hid hplan
  | ok id' =>
    rw [hid] at hplan
    have halters : p.Alters o none [id] s _ :=
      alters_of_call (List.forall_mem_singleton.2 ⟨id', hid⟩) (denotes_singleton hid) (.affectedSome id')
    obtain ⟨hanswer, hstore⟩ :=
      Intent.runOn_expunge_eq (o := o) (s := s) (p.reach_narrows o.context [p.entity.idEquals id'] true)
    rw [runOn_of_plan hplan]
    constructor
    case rows => exact (congrArg Table.rows (hstore.table_eq p.entity)).trans halters.rows
    case count => exact fun n hn => halters.count n (hanswer ▸ hn)

theorem performs_permanentDelete (hp : p.hooks = .none) (id : Json) (s : MemoryStore) :
    p.Performs o (.permanentDelete id) s (p.runOn o (.permanentDelete id) s) :=
  performs_of_alters (alters_permanentDelete hp id s) (fun _ h => by cases h) (fun _ => rfl) rfl

/-! ### Updating -/

theorem plan_of_unsettled {data : Json} {error : ServiceError} (h : p.settled o id data = .error error) :
    ∃ error', p.plan o (.update id data) = .error error' := by
  cases hplan : p.plan o (.update id data) with
  | error error' => exact ⟨error', rfl⟩
  | ok i =>
    obtain ⟨id', data', revised, row, harguments, hrevised, hrow, -⟩ := Intended.of_update hplan
    unfold settled at h
    rw [harguments, ok_bind] at h
    dsimp only at h
    rw [hrevised, ok_bind, hrow] at h
    cases h

theorem performs_update (id data : Json) (s : MemoryStore) :
    p.Performs o (.update id data) s (p.runOn o (.update id data) s) := by
  cases hsettled : p.settled o id data with
  | error error =>
    obtain ⟨error', hplan⟩ := plan_of_unsettled hsettled
    exact performs_of_refusal hplan fun row _ => by rw [fate, hsettled]
  | ok settled =>
    obtain ⟨id', output⟩ := settled
    by_cases hempty : (p.entity.changesOf output).isEmpty = true
    · rw [runOn_update_of_empty s hsettled hempty]
      refine performs_of_kept (fun row _ => ?_) rfl fun n hn => ?_
      · rw [fate, hsettled]
        dsimp only
        rw [hempty, Bool.not_true, Bool.false_and, if_neg Bool.false_ne_true]
      · split at hn <;> cases hn
    · have hfate : ∀ row, p.fate o (.update id data) row = if p.addresses o.context id' row then .written else .kept := by
        intro row
        rw [fate, hsettled]
        dsimp only
        rw [Bool.eq_false_iff.2 hempty, Bool.not_false, Bool.true_and]
      rw [runOn_update_of_changes s hsettled hempty]
      constructor
      case rows =>
        have hrewrite : ∀ changes ∈ some (p.entity.stampUpdated o.now (p.entity.changesOf output)), ∀ row,
            Table.assign p.entity changes row = p.rewrite o (.update id data) row := by
          intro changes hchanges row
          cases hchanges
          rw [rewrite, members, hsettled]
        simp only [hfate]
        rw [MemoryStore.rowsOf_update, ← Table.alter_some, Table.alter_eq_outcome hrewrite, satisfies_eq_addresses]
        exact (List.append_nil _).symm
      case count =>
        intro n hn
        unfold firstOrNotFound at hn
        dsimp only at hn
        split at hn <;> cases hn

/-! ### Storing and reading -/

theorem performs_of_stores {result : Except ServiceError Answer × MemoryStore} (h : p.Stores o request s result)
    (hkept : ∀ row, p.fate o request row = .kept) : p.Performs o request s result :=
  ⟨by rw [Table.filterMap_outcome_kept hkept, h.rows], fun n hn => absurd hn (h.answer n)⟩

theorem performs_findOne (conditions : Json) (includeDeleted : Bool) (s : MemoryStore) :
    p.Performs o (.findOne conditions includeDeleted) s (p.runOn o (.findOne conditions includeDeleted) s) := by
  cases hplan : p.plan o (.findOne conditions includeDeleted) with
  | error error => exact performs_of_refusal hplan fun row _ => rfl
  | ok i =>
    obtain ⟨_, _, -, -, rfl⟩ := Intended.of_findOne hplan
    rw [runOn_of_plan hplan, Intent.runOn_find]
    exact performs_of_kept (fun row _ => rfl) rfl fun n hn => (by cases hn)

theorem performs_list (params : ListParams) (s : MemoryStore) :
    p.Performs o (.list params) s (p.runOn o (.list params) s) := by
  cases hplan : p.plan o (.list params) with
  | error error => exact performs_of_refusal hplan fun row _ => rfl
  | ok i =>
    obtain ⟨_, -, rfl⟩ := Intended.of_list hplan
    rw [runOn_of_plan hplan, Intent.runOn_page]
    refine performs_of_kept (fun row _ => rfl) rfl fun n hn => ?_
    obtain ⟨_, -, hpage⟩ := ok_of_map hn
    cases hpage

/-! ### All of them -/

/-- **Every operation does to the rows what their fates are**, and counts those that it does not keep. -/
theorem performs (hp : p.hooks = .none) (o : Occasion) (s : MemoryStore) : ∀ request : Request,
    p.Performs o request s (p.runOn o request s)
  | .create data => performs_of_stores (stores_create hp data s) fun _ => rfl
  | .findOne conditions includeDeleted => performs_findOne conditions includeDeleted s
  | .list params => performs_list params s
  | .update id data => performs_update id data s
  | .deleteOne id => performs_of_asks hp (Bulk.Asks.one (b := .deletion) id) s
  | .restore id => performs_of_asks hp (Bulk.Asks.one (b := .restoration) id) s
  | .permanentDelete id => performs_permanentDelete hp id s
  | .bulkCreate records => performs_of_stores (stores_bulkCreate hp records s) fun _ => rfl
  | .bulkDelete ids => performs_of_asks hp (Bulk.Asks.many (b := .deletion) ids) s
  | .bulkRestore ids => performs_of_asks hp (Bulk.Asks.many (b := .restoration) ids) s

end Pipeline

end RecordService
