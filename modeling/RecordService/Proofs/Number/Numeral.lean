import Mathlib.Data.List.Basic
import Mathlib.Data.Nat.Digits.Defs
import RecordService.Proofs.Number.Integer
/-!
# Numerals — the texts that denote an integer

An integer is written with an optional sign and at least one decimal digit, zeros at the front among them (`SignedNumeral`).
These texts are read, and no others (`readSigned_eq_some_iff`).  Blanks may stand on either side, and are taken away first
(`readSigned_trimChars_iff`).
-/
namespace RecordService

/-! ## Notation -/

/-- At least one decimal digit, the most significant one first. -/
def Numeral (cs : List Char) (n : Nat) : Prop :=
  ∃ digits : List Nat, digits ≠ [] ∧ (∀ d ∈ digits, d < 10) ∧ cs = digits.map Nat.digitChar ∧
    n = Nat.ofDigits 10 digits.reverse

/-- **The characters denote the integer.** -/
inductive SignedNumeral : List Char → Int → Prop where
  | unsigned {cs : List Char} {n : Nat} : Numeral cs n → SignedNumeral cs n
  | positive {cs : List Char} {n : Nat} : Numeral cs n → SignedNumeral ('+' :: cs) n
  | negative {cs : List Char} {n : Nat} : Numeral cs n → SignedNumeral ('-' :: cs) (-n)

/-! ## Digits -/

theorem digitValue_digitChar {d : Nat} (h : d < 10) : digitValue (Nat.digitChar d) = d := by
  revert d
  decide

theorem isDigit_digitChar {d : Nat} (h : d < 10) : (Nat.digitChar d).isDigit = true := by
  revert d
  decide

theorem digitValue_lt {c : Char} (h : c.isDigit = true) : digitValue c < 10 := by
  simp only [Char.isDigit, Bool.and_eq_true, decide_eq_true_eq, UInt32.le_iff_toNat_le] at h
  have hhigh : c.toNat ≤ 57 := h.2
  unfold digitValue
  omega

theorem digitChar_digitValue {c : Char} (h : c.isDigit = true) : Nat.digitChar (digitValue c) = c := by
  have hsmall := digitValue_lt h
  simp only [Char.isDigit, Bool.and_eq_true, decide_eq_true_eq, ge_iff_le, UInt32.le_iff_toNat_le] at h
  have hlow : 48 ≤ c.toNat := h.1
  have hchars : ∀ d < 10, (Nat.digitChar d).toNat = 48 + d := by decide
  refine Char.toNat_inj.1 ?_
  rw [hchars _ hsmall, digitValue, Nat.add_sub_cancel' hlow]

/-- Reading from the front is to sum up the digits with their places. -/
theorem ofDigits_map_digitChar {digits : List Nat} (h : ∀ d ∈ digits, d < 10) :
    ofDigits (digits.map Nat.digitChar) = Nat.ofDigits 10 digits.reverse := by
  rw [ofDigits, Nat.ofDigits_eq_foldr, List.foldr_reverse, List.foldl_map]
  refine List.foldl_ext _ _ 0 fun n d hd => ?_
  rw [digitValue_digitChar (h d hd), Nat.cast_id]
  omega

theorem numeral_iff {cs : List Char} {n : Nat} : Numeral cs n ↔ isNumeral cs = true ∧ ofDigits cs = n := by
  constructor
  · rintro ⟨digits, hsome, hdigits, rfl, rfl⟩
    refine ⟨?_, ofDigits_map_digitChar hdigits⟩
    have hall : (digits.map Nat.digitChar).all Char.isDigit = true := by
      rw [List.all_map]
      exact List.all_eq_true.2 fun d hd => isDigit_digitChar (hdigits d hd)
    rw [isNumeral, hall, List.isEmpty_map, List.isEmpty_eq_false_iff.2 hsome]
    rfl
  · rintro ⟨hnumeral, rfl⟩
    simp only [isNumeral, Bool.and_eq_true, Bool.not_eq_true', List.isEmpty_eq_false_iff, List.all_eq_true] at hnumeral
    obtain ⟨hsome, hall⟩ := hnumeral
    have hdigits : ∀ d ∈ cs.map digitValue, d < 10 := fun d hd => by
      obtain ⟨c, hc, rfl⟩ := List.mem_map.1 hd
      exact digitValue_lt (hall c hc)
    have hback : cs = (cs.map digitValue).map Nat.digitChar := by
      rw [List.map_map]
      exact (List.map_id cs).symm.trans (List.map_congr_left fun c hc => (digitChar_digitValue (hall c hc)).symm)
    refine ⟨cs.map digitValue, fun hnil => hsome (List.map_eq_nil_iff.1 hnil), hdigits, hback, ?_⟩
    rw [← ofDigits_map_digitChar hdigits, ← hback]

/-! ## Reading -/

/-- **What denotes an integer is read as it**, and nothing else is read. -/
theorem readSigned_eq_some_iff {cs : List Char} {i : Int} : readSigned cs = some i ↔ SignedNumeral cs i := by
  constructor
  · intro h
    unfold readSigned at h
    split at h <;> split at h
    · rename_i hnumeral
      cases h
      exact .negative (numeral_iff.2 ⟨hnumeral, rfl⟩)
    · cases h
    · rename_i hnumeral
      cases h
      exact .positive (numeral_iff.2 ⟨hnumeral, rfl⟩)
    · cases h
    · rename_i hnumeral
      cases h
      exact .unsigned (numeral_iff.2 ⟨hnumeral, rfl⟩)
    · cases h
  · intro h
    cases h with
    | unsigned h =>
      obtain ⟨hnumeral, rfl⟩ := numeral_iff.1 h
      exact readSigned_of_isNumeral hnumeral
    | positive h =>
      obtain ⟨hnumeral, rfl⟩ := numeral_iff.1 h
      exact if_pos hnumeral
    | negative h =>
      obtain ⟨hnumeral, rfl⟩ := numeral_iff.1 h
      exact if_pos hnumeral

/-! ## Blanks -/

theorem SignedNumeral.not_isBlank {cs : List Char} {i : Int} (h : SignedNumeral cs i) : ∀ c ∈ cs, Text.isBlank c = false := by
  have hnumeral : ∀ {cs : List Char} {n : Nat}, Numeral cs n → ∀ c ∈ cs, Text.isBlank c = false := by
    rintro _ _ ⟨digits, -, hdigits, rfl, -⟩ c hc
    obtain ⟨d, hd, rfl⟩ := List.mem_map.1 hc
    exact Text.not_isBlank_of_isDigit (isDigit_digitChar (hdigits d hd))
  cases h with
  | unsigned h => exact hnumeral h
  | positive h => exact List.forall_mem_cons.2 ⟨by decide, hnumeral h⟩
  | negative h => exact List.forall_mem_cons.2 ⟨by decide, hnumeral h⟩

/-- **With blanks around it an integer is read as well.** -/
theorem readSigned_trimChars_iff {cs : List Char} {i : Int} : readSigned (Text.trimChars cs) = some i ↔
    ∃ before numeral after, cs = before ++ numeral ++ after ∧ (∀ c ∈ before, Text.isBlank c = true) ∧
      (∀ c ∈ after, Text.isBlank c = true) ∧ SignedNumeral numeral i := by
  constructor
  · intro h
    obtain ⟨before, after, hcs, hbefore, hafter⟩ := Text.padded_trimChars cs
    exact ⟨before, _, after, hcs, hbefore, hafter, readSigned_eq_some_iff.1 h⟩
  · rintro ⟨before, numeral, after, rfl, hbefore, hafter, hnumeral⟩
    rw [Text.trimChars_of_padded ⟨before, after, rfl, hbefore, hafter⟩, Text.trimChars_of_solid hnumeral.not_isBlank]
    exact readSigned_eq_some_iff.2 hnumeral

end RecordService
