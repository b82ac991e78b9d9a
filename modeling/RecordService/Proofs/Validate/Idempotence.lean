import RecordService.Proofs.Query.Params
import RecordService.Proofs.Validate.Id
import RecordService.Proofs.Validate.Violation
/-!
# Idempotence — a value that was validated is valid as it is

Every validator brings what it accepts into another form: members are passed over, identifiers take the form of their
type, list parameters are read and written anew.  What comes out is accepted again and is not changed any more
(`Entity.validators_idempotent`), so that it does no harm when a value passes through a validator twice.

Members and conditions are judged one by one, and for both it is enough that a judgement keeps what it has kept
(`Verdict.Stable`).
-/
namespace RecordService

/-- What the validator accepts, it accepts again without changing it. -/
def Validator.Idempotent (validate : Validator) : Prop :=
  ∀ given valid, validate given = .ok valid → validate valid = .ok valid

/-- The five of a set. -/
def Validators.all (vs : Validators) : List Validator := [vs.record, vs.changes, vs.list, vs.id, vs.conditions]

/-! ## Judging members one by one -/

namespace Verdict

variable {judge : String → Json → Verdict} {body : Row}

/-- The value that is kept in place of another is kept itself. -/
def Stable (judge : String → Json → Verdict) : Prop :=
  ∀ name v w, judge name v = keep w → judge name w = keep w

theorem kept?_eq_some {verdict : Verdict} {w : Json} (h : verdict.kept? = some w) : verdict = keep w := by
  cases verdict with
  | keep v =>
    cases h
    rfl
  | pass => cases h
  | refuse message => cases h

theorem Stable.of_mem_kept (h : Stable judge) {m : String × Json}
    (hm : m ∈ body.filterMap fun (name, v) => (judge name v).kept?.map (name, ·)) : judge m.1 m.2 = keep m.2 := by
  obtain ⟨⟨name, v⟩, -, hv⟩ := List.mem_filterMap.1 hm
  obtain ⟨w, hw, rfl⟩ := Option.map_eq_some_iff.1 hv
  exact h name v w (kept?_eq_some hw)

theorem Stable.kept_kept (h : Stable judge) :
    (body.filterMap fun (name, v) => (judge name v).kept?.map (name, ·)).filterMap
        (fun (name, v) => (judge name v).kept?.map (name, ·)) =
      body.filterMap fun (name, v) => (judge name v).kept?.map (name, ·) := by
  refine Eq.trans (List.filterMap_congr fun m hm => ?_) List.filterMap_some
  show (judge m.1 m.2).kept?.map (m.1, ·) = some m
  rw [h.of_mem_kept hm]
  rfl

theorem Stable.refused_kept (h : Stable judge) :
    (body.filterMap fun (name, v) => (judge name v).kept?.map (name, ·)).filterMap
      (fun (name, v) => (judge name v).refusal?.map (Issue.mk name)) = [] := by
  refine List.filterMap_eq_nil_iff.2 fun m hm => ?_
  show (judge m.1 m.2).refusal?.map (Issue.mk m.1) = none
  rw [h.of_mem_kept hm]
  rfl

/-- An identifier is stable in the form of its type. -/
theorem ofExcept_parse {t : IdType} {v w : Json} (h : ofExcept (t.parse v) = keep w) :
    ofExcept (t.parse w) = keep w := by
  rw [IdType.parse_parse (kept?_ofExcept_iff.1 (congrArg kept? h))]
  rfl

end Verdict

namespace Entity

variable (e : Entity)

/-! ## Records and changes -/

theorem stable_judge (payload : Payload) : Verdict.Stable (e.judge payload) := by
  intro name v w h
  unfold judge at h ⊢
  cases hcolumn : e.column? name with
  | none =>
    rw [hcolumn] at h
    cases h
  | some c =>
    rw [hcolumn] at h
    dsimp only at h ⊢
    split at h
    · rename_i hid
      rw [if_pos hid]
      cases payload with
      | record => exact Verdict.ofExcept_parse h
      | changes => cases h
    · rename_i hid
      rw [if_neg hid]
      split at h
      · cases h
      · rename_i hallowed
        cases h
        rw [if_neg hallowed]

theorem keptMembers_keptMembers (payload : Payload) (body : Row) :
    e.keptMembers payload (e.keptMembers payload body) = e.keptMembers payload body :=
  (e.stable_judge payload).kept_kept

theorem memberIssues_keptMembers (payload : Payload) (body : Row) :
    e.memberIssues payload (e.keptMembers payload body) = [] :=
  (e.stable_judge payload).refused_kept

/-- The columns that are missing and the rules are asked of what is kept, which stays the same. -/
theorem recordIssues_keptMembers {payload : Payload} {body : Row} (h : e.recordIssues payload body = []) :
    e.recordIssues payload (e.keptMembers payload body) = [] := by
  unfold recordIssues at h ⊢
  rw [keptMembers_keptMembers, memberIssues_keptMembers]
  rw [memberIssues_of_recordIssues h] at h
  exact h

theorem recordValidator_idempotent (payload : Payload) : (e.recordValidator payload).Idempotent := by
  intro given valid h
  obtain ⟨body, -, hissues, rfl⟩ := of_recordValidator h
  show (e.checkRecord payload (e.keptMembers payload body)).map Json.obj = _
  rw [checkRecord, e.recordIssues_keptMembers hissues, keptMembers_keptMembers]
  rfl

/-! ## Identifiers and conditions -/

theorem idValidator_idempotent : e.idValidator.Idempotent := by
  intro given valid h
  unfold idValidator at h ⊢
  split at h
  · rename_i id hparse
    cases h
    rw [IdType.parse_parse hparse]
  · cases h

theorem stable_judgeCondition : Verdict.Stable e.judgeCondition := by
  intro name v w h
  unfold judgeCondition at h ⊢
  split at h
  · cases h
  · rename_i hcolumn
    rw [if_neg hcolumn]
    split at h
    · rename_i hid
      have hparse := Verdict.kept?_ofExcept_iff.1 (congrArg Verdict.kept? h)
      have hnull : w.isNull = false :=
        Bool.eq_false_iff.2 fun hnull => IdType.ne_null_of_parse hparse (Json.isNull_iff.1 hnull)
      rw [if_pos (by rw [hnull, (Bool.and_eq_true_iff.1 hid).1]; rfl)]
      exact Verdict.ofExcept_parse h
    · rename_i hid
      cases h
      rw [if_neg hid]

theorem conditionValidator_idempotent : e.conditionValidator.Idempotent := by
  intro given valid h
  obtain ⟨body, -, h⟩ := ok_of_bind h
  obtain ⟨u, -, h⟩ := ok_of_bind h
  cases h
  have hkept : e.keptConditions (e.keptConditions body) = e.keptConditions body := e.stable_judgeCondition.kept_kept
  have hissues : e.conditionIssues (e.keptConditions body) = [] := e.stable_judgeCondition.refused_kept
  show (ServiceError.ofIssues (e.conditionIssues (e.keptConditions body)) >>= fun _ =>
    .ok (Json.obj (e.keptConditions (e.keptConditions body)))) = _
  rw [hissues, hkept]
  rfl

end Entity

/-! ## List parameters -/

namespace ListParams

open Decoder

/-- Whatever the parameters are read from, their numbers have 64 bits. -/
theorem decode_yields : decode.Yields InRange := by
  refine Yields.record ⟨fun n hn => (by cases hn), fun n hn => (by cases hn)⟩ ?_
  have hnatural := (natural_yields 18446744073709551615).optional
  refine List.forall_mem_cons.2 ⟨.of hnatural fun _ _ hp hn => ⟨hn, hp.perPage⟩, ?_⟩
  refine List.forall_mem_cons.2 ⟨.of hnatural fun _ _ hp hn => ⟨hp.page, hn⟩, ?_⟩
  refine List.forall_mem_cons.2 ⟨.of_assign fun _ _ hp => ⟨hp.page, hp.perPage⟩, ?_⟩
  refine List.forall_mem_cons.2 ⟨.of_assign fun _ _ hp => ⟨hp.page, hp.perPage⟩, ?_⟩
  refine List.forall_mem_cons.2 ⟨.of_assign fun _ _ hp => ⟨hp.page, hp.perPage⟩, ?_⟩
  exact List.forall_mem_cons.2 ⟨.of_assign fun _ _ hp => ⟨hp.page, hp.perPage⟩, List.forall_mem_nil _⟩

theorem inRange_of_ofJson {v : Json} {p : ListParams} (h : ofJson v = .ok p) : p.InRange := by
  unfold ofJson at h
  split at h
  · rename_i hdecode
    cases h
    exact decode_yields v _ hdecode
  · cases h

theorem inRange_of_read {v : Json} {p : ListParams} (h : read v = .ok p) : p.InRange := by
  unfold read at h
  split at h
  · cases h
    exact ⟨fun n hn => (by cases hn), fun n hn => (by cases hn)⟩
  · exact inRange_of_ofJson h

theorem validator_idempotent : validator.Idempotent := by
  intro given valid h
  obtain ⟨p, hread, h⟩ := ok_of_bind h
  obtain ⟨u, hissues, h⟩ := ok_of_bind h
  cases h
  have hagain : read p.encode = .ok p := ofJson_encode (inRange_of_read hread)
  rw [validator, hagain, ok_bind, hissues]
  rfl

end ListParams

/-! ## All five -/

/-- **To validate what was validated changes nothing**, for each of the five validators and whatever it was given. -/
theorem Entity.validators_idempotent (e : Entity) : ∀ validate ∈ e.validators.all, validate.Idempotent := by
  unfold Validators.all
  refine List.forall_mem_cons.2 ⟨e.recordValidator_idempotent .record, ?_⟩
  refine List.forall_mem_cons.2 ⟨e.recordValidator_idempotent .changes, ?_⟩
  refine List.forall_mem_cons.2 ⟨ListParams.validator_idempotent, ?_⟩
  refine List.forall_mem_cons.2 ⟨e.idValidator_idempotent, ?_⟩
  exact List.forall_mem_cons.2 ⟨e.conditionValidator_idempotent, List.forall_mem_nil _⟩

/-- A record with a number for its identifier and a member that is no column comes out in another form, and stays so. -/
theorem Entity.validators_idempotent_notes :
    Notes.strict.validators.record ∈ Notes.strict.validators.all ∧
      Notes.strict.validators.record (.obj Notes.numberedBody) =
        .ok (.obj [("team", .str "a"), ("id", .str "7"), ("title", .str "draft")]) ∧
      Notes.strict.validators.record (.obj [("team", .str "a"), ("id", .str "7"), ("title", .str "draft")]) =
        .ok (.obj [("team", .str "a"), ("id", .str "7"), ("title", .str "draft")]) := by
  have hrecord : Notes.strict.validators.record ∈ Notes.strict.validators.all := List.mem_cons_self
  have hnumbered : Notes.strict.validators.record (.obj Notes.numberedBody) =
      .ok (.obj [("team", .str "a"), ("id", .str "7"), ("title", .str "draft")]) := rfl
  exact ⟨hrecord, hnumbered, Entity.validators_idempotent Notes.strict _ hrecord _ _ hnumbered⟩

end RecordService
