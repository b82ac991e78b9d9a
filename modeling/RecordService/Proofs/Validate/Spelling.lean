import RecordService.Proofs.Number.Numeral
import RecordService.Proofs.Pipeline.Bulk
import RecordService.Proofs.Record.Lookup
import RecordService.Proofs.Validate.Id
/-!
# Spellings — what is read as an identifier

An integer may be spelled as a number or in decimal with blanks around it (`Json.Spells`), and is an identifier in the
range of its type.  All spellings of an identifier are read as one value, which is read as itself, be it sent as it is or as
text (`IdType.parse_exact`).  Requests about one record come to the same for every spelling (`Pipeline.runOn_congr_id`),
so a piece of a path and a value in a body name the same row.
-/
namespace RecordService

/-! ## Integers -/

/-- **The value spells the integer**: as a number, or in decimal with blanks around it. -/
inductive Json.Spells : Json → Int → Prop where
  | number (i : Int) : Spells (.num (.int i)) i
  | text {s : String} {i : Int} {before numeral after : List Char} : s.toList = before ++ numeral ++ after →
      (∀ c ∈ before, Text.isBlank c = true) → (∀ c ∈ after, Text.isBlank c = true) → SignedNumeral numeral i → Spells (.str s) i

theorem Json.spells_str_iff {s : String} {i : Int} : (Json.str s).Spells i ↔
    readSigned (Text.trimChars s.toList) = some i := by
  rw [readSigned_trimChars_iff]
  constructor
  · rintro (_ | ⟨hs, hbefore, hafter, hnumeral⟩)
    exact ⟨_, _, _, hs, hbefore, hafter, hnumeral⟩
  · rintro ⟨before, numeral, after, hs, hbefore, hafter, hnumeral⟩
    exact .text hs hbefore hafter hnumeral

theorem inSigned64_iff {i : Int} : inSigned64 i = true ↔ -2 ^ 63 ≤ i ∧ i < 2 ^ 63 := by
  simp only [inSigned64, Bool.and_eq_true, decide_eq_true_eq]
  omega

theorem inSigned32_iff {i : Int} : inSigned32 i = true ↔ -2 ^ 31 ≤ i ∧ i < 2 ^ 31 := by
  simp only [inSigned32, Bool.and_eq_true, decide_eq_true_eq]
  omega

namespace IdType

/-- **An integer is read from its spellings**, as far as it has 64 bits. -/
theorem integer?_eq_some_iff {v : Json} {i : Int} : integer? v = some i ↔ v.Spells i ∧ inSigned64 i = true := by
  cases v with
  | str s =>
    rw [integer?, readSigned64, Option.filter_eq_some_iff, Text.trim, String.toList_ofList, Json.spells_str_iff]
  | num n =>
    constructor
    · intro h
      cases n with
      | int j =>
        obtain rfl := eq_of_integer?_int h
        exact ⟨.number j, inSigned64_of_integer? h⟩
      | double d => cases h
    · rintro ⟨⟨⟩, hrange⟩
      exact integer?_int hrange
  | _ =>
    constructor
    · intro h
      cases h
    · rintro ⟨⟨⟩, -⟩

theorem parseBigint_iff {v id : Json} : parseBigint v = .ok id ↔
    ∃ i, v.Spells i ∧ -2 ^ 63 ≤ i ∧ i < 2 ^ 63 ∧ id = .num (.int i) := by
  constructor
  · intro h
    unfold parseBigint at h
    split at h
    · rename_i i hi
      cases h
      obtain ⟨hspells, hrange⟩ := integer?_eq_some_iff.1 hi
      obtain ⟨hlow, hhigh⟩ := inSigned64_iff.1 hrange
      exact ⟨i, hspells, hlow, hhigh, rfl⟩
    · cases h
  · rintro ⟨i, hspells, hlow, hhigh, rfl⟩
    rw [parseBigint, integer?_eq_some_iff.2 ⟨hspells, inSigned64_iff.2 ⟨hlow, hhigh⟩⟩]

theorem parseInt_iff {v id : Json} : parseInt v = .ok id ↔
    ∃ i, v.Spells i ∧ -2 ^ 31 ≤ i ∧ i < 2 ^ 31 ∧ id = .num (.int i) := by
  constructor
  · intro h
    unfold parseInt at h
    split at h
    · rename_i i hi
      split at h
      · rename_i hrange
        cases h
        obtain ⟨hlow, hhigh⟩ := inSigned32_iff.1 hrange
        exact ⟨i, (integer?_eq_some_iff.1 hi).1, hlow, hhigh, rfl⟩
      · cases h
    · cases h
  · rintro ⟨i, hspells, hlow, hhigh, rfl⟩
    -- what has 32 bits has 64
    have hrange : inSigned64 i = true := inSigned64_iff.2 (by omega)
    rw [parseInt, integer?_eq_some_iff.2 ⟨hspells, hrange⟩]
    exact if_pos (inSigned32_iff.2 ⟨hlow, hhigh⟩)

theorem parseText_iff {v id : Json} : parseText v = .ok id ↔
    (∃ s, s ≠ "" ∧ v = .str s ∧ id = .str s) ∨ ∃ n, v = .num n ∧ id = .str n.text := by
  constructor
  · intro h
    unfold parseText at h
    split at h
    · rename_i s
      split at h
      · cases h
      · rename_i hsome
        cases h
        exact .inl ⟨s, by simpa using hsome, rfl, rfl⟩
    · rename_i n
      cases h
      exact .inr ⟨n, rfl, rfl⟩
    · cases h
  · rintro (⟨s, hsome, rfl, rfl⟩ | ⟨n, rfl, rfl⟩)
    · exact parseText_str hsome
    · rfl

end IdType

/-! ## Requests about one record -/

/-- The requests that are about the record with an identifier. -/
def Request.aboutOne (data : Json) : List (Json → Request) := [(.update · data), .deleteOne, .restore, .permanentDelete]

namespace Pipeline

variable {p : Pipeline} {o : Occasion} {v w : Json}

/-- What is intended depends on the identifier that a value stands for, and not on its spelling. -/
theorem plan_congr_id (hp : p.hooks = .none)
    (h : p.validators.idFor o.context v = p.validators.idFor o.context w) {data : Json} {ask : Json → Request}
    (hask : ask ∈ Request.aboutOne data) : p.plan o (ask v) = p.plan o (ask w) := by
  have harguments : p.argumentsFor .none v data o.context = p.argumentsFor .none w data o.context := by
    unfold argumentsFor
    unfold Validators.idFor at h
    rw [Hooks.admits_none]
    cases hskip : o.context.skipValidation with
    | true =>
      rw [hskip, if_pos rfl, if_pos rfl] at h
      cases h
      rfl
    | false =>
      rw [hskip, if_neg Bool.false_ne_true, if_neg Bool.false_ne_true] at h
      show (do return (← p.validators.id v, ← p.validators.changes data) : Except ServiceError (Json × Json)) =
        (do return (← p.validators.id w, ← p.validators.changes data) : Except ServiceError (Json × Json))
      rw [h]
  simp only [Request.aboutOne, List.mem_cons, List.not_mem_nil, or_false] at hask
  unfold plan
  rw [hp]
  rcases hask with rfl | rfl | rfl | rfl
  · show Intended.update p .none o.now o.context v data = Intended.update p .none o.now o.context w data
    rw [Intended.update, Intended.update, harguments]
  · show Intended.deleteOne p .none o.now o.context v = Intended.deleteOne p .none o.now o.context w
    rw [Intended.deleteOne, Intended.deleteOne, Validators.validated_id, Validators.validated_id, h]
  · show Intended.restore p .none o.now o.context v = Intended.restore p .none o.now o.context w
    rw [Intended.restore, Intended.restore, Validators.validated_id, Validators.validated_id, h]
  · show Intended.permanentDelete p .none o.context v = Intended.permanentDelete p .none o.context w
    rw [Intended.permanentDelete, Intended.permanentDelete, Validators.validated_id, Validators.validated_id, h]

/-- **A request about one record comes to the same for all spellings of its identifier.** -/
theorem runOn_congr_id (hp : p.hooks = .none)
    (h : p.validators.idFor o.context v = p.validators.idFor o.context w) {data : Json} {ask : Json → Request}
    (hask : ask ∈ Request.aboutOne data) (s : MemoryStore) :
    p.runOn o (ask v) s = p.runOn o (ask w) s := by
  have hplan := plan_congr_id hp h hask
  cases hw : p.plan o (ask w) with
  | ok i => rw [runOn_of_plan (hplan.trans hw), runOn_of_plan hw]
  | error error => rw [runOn_of_refusal (hplan.trans hw), runOn_of_refusal hw]

end Pipeline

/-! ## Identifiers -/

/-- **What is read as an identifier, and that it is read as one value however it is spelled.** -/
theorem IdType.parse_exact :
    -- an integer in the range of the type
    (∀ v id, IdType.bigint.parse v = .ok id ↔ ∃ i, v.Spells i ∧ -2 ^ 63 ≤ i ∧ i < 2 ^ 63 ∧ id = .num (.int i)) ∧
    (∀ v id, IdType.int.parse v = .ok id ↔ ∃ i, v.Spells i ∧ -2 ^ 31 ≤ i ∧ i < 2 ^ 31 ∧ id = .num (.int i)) ∧
    -- a text as it is, and a number as its text
    (∀ v id, IdType.text.parse v = .ok id ↔
      (∃ s, s ≠ "" ∧ v = .str s ∧ id = .str s) ∨ ∃ n, v = .num n ∧ id = .str n.text) ∧
    -- whatever the type, the identifier is read again from itself and from its text
    ∀ (t : IdType) (v id : Json), t.parse v = .ok id →
      t.parse id = .ok id ∧ t.parse (.str (Cell.patternText id)) = .ok id ∧
      -- and names the same row in each of these forms
      ∀ (e : Entity) (scope : Scope) (o : Occasion), e.idType = t → o.context.skipValidation = false →
        ∀ form ∈ [id, .str (Cell.patternText id)], ∀ data, ∀ ask ∈ Request.aboutOne data, ∀ s,
          (Pipeline.plain e scope).runOn o (ask form) s = (Pipeline.plain e scope).runOn o (ask v) s := by
  refine ⟨fun _ _ => parseBigint_iff, fun _ _ => parseInt_iff, fun _ _ => parseText_iff, fun t v id hid => ?_⟩
  have hagain := parse_parse hid
  have htext := parse_patternText hagain
  refine ⟨hagain, htext, ?_⟩
  rintro e scope o rfl hskip form hform data ask hask s
  have hread : e.idType.parse form = .ok id := by
    rcases List.mem_cons.1 hform with rfl | hform
    · exact hagain
    · rw [List.mem_singleton.1 hform]
      exact htext
  refine Pipeline.runOn_congr_id rfl ?_ hask s
  exact (Entity.idFor_of_parse hskip hread).trans (Entity.idFor_of_parse hskip hid).symm

/-- A sign, zeros at the front and blanks around it make no difference to a number. -/
theorem IdType.parse_exact_padded :
    IdType.bigint.parse (.str "\t +0042 ") = .ok (.num (.int 42)) ∧
      IdType.bigint.parse (.str "42") = .ok (.num (.int 42)) ∧
      IdType.bigint.parse (.num (.int 42)) = .ok (.num (.int 42)) := by
  have hnumeral : SignedNumeral "+0042".toList 42 := .positive ⟨[0, 0, 4, 2], by decide, by decide, rfl, rfl⟩
  have hbefore : ∀ c ∈ ['\t', ' '], Text.isBlank c = true :=
    List.forall_mem_cons.2 ⟨rfl, List.forall_mem_singleton.2 rfl⟩
  have hafter : ∀ c ∈ [' '], Text.isBlank c = true := List.forall_mem_singleton.2 rfl
  have hspells : (Json.str "\t +0042 ").Spells 42 := @Json.Spells.text _ _ ['\t', ' '] _ [' '] rfl hbefore hafter hnumeral
  have hread := (IdType.parse_exact.1 _ _).2 ⟨42, hspells, by decide, by decide, rfl⟩
  obtain ⟨hagain, htext, -⟩ := IdType.parse_exact.2.2.2 .bigint _ _ hread
  exact ⟨hread, htext, hagain⟩

end RecordService
