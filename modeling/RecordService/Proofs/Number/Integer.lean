import RecordService.Number.Text
import RecordService.Proofs.Text.Blank
/-!
# Integers as text

An integer of 64 bits is read from its digits as what it is, also when the blanks around them are taken away first
(`readSigned64_toString`).
-/
namespace RecordService

/-! ## Digits -/

theorem toList_toString (n : Nat) : (toString n).toList = Nat.toDigits 10 n := String.toList_ofList

theorem isDigit_of_mem_toString (n : Nat) : ∀ c ∈ (toString n).toList, c.isDigit = true := by
  intro c hc
  rw [toList_toString] at hc
  exact Nat.isDigit_of_mem_toDigits (by decide) (by decide) hc

theorem isNumeral_toString (n : Nat) : isNumeral (toString n).toList = true := by
  have hsome : (toString n).toList.isEmpty = false := by
    rw [toList_toString]
    exact List.isEmpty_eq_false_iff.2 Nat.toDigits_ne_nil
  rw [isNumeral, hsome, List.all_eq_true.2 (isDigit_of_mem_toString n)]
  rfl

theorem ofDigits_toString (n : Nat) : ofDigits (toString n).toList = n := by
  have hdigits : ∀ (cs : List Char) (init : Nat),
      cs.foldl (fun n c => n * 10 + digitValue c) init = Nat.ofDigitChars 10 cs init := by
    intro cs init
    rw [Nat.ofDigitChars_eq_foldl]
    congr 1
    funext n c
    rw [Nat.mul_comm]
    rfl
  rw [ofDigits, hdigits, toList_toString, Nat.ofDigitChars_ten_toDigits]

/-! ## Integers -/

theorem toList_toString_negSucc (n : Nat) : (toString (Int.negSucc n)).toList = '-' :: (toString (n + 1)).toList := by
  rw [show toString (Int.negSucc n) = "-" ++ toString (n + 1) from rfl, String.toList_append]
  rfl

/-- Digits alone are read as what they denote: none of them is a sign. -/
theorem readSigned_of_isNumeral {cs : List Char} (h : isNumeral cs = true) : readSigned cs = some (ofDigits cs : Int) := by
  have hdigits := (Bool.and_eq_true_iff.1 h).2
  unfold readSigned
  split
  · exact absurd (List.all_eq_true.1 hdigits '-' List.mem_cons_self) (by decide)
  · exact absurd (List.all_eq_true.1 hdigits '+' List.mem_cons_self) (by decide)
  · exact if_pos h

/-- **An integer is read from its digits.** -/
theorem readSigned_toString : ∀ i : Int, readSigned (toString i).toList = some i
  | .ofNat n => by
    rw [show toString (Int.ofNat n) = toString n from rfl, readSigned_of_isNumeral (isNumeral_toString n),
      ofDigits_toString]
    rfl
  | .negSucc n => by
    rw [toList_toString_negSucc, readSigned, if_pos (isNumeral_toString (n + 1)), ofDigits_toString]
    rfl

/-! ## Blanks -/

namespace Text

theorem not_isBlank_of_isDigit {c : Char} (h : c.isDigit = true) : isBlank c = false := by
  simp only [Char.isDigit, Bool.and_eq_true, decide_eq_true_eq, ge_iff_le, UInt32.le_iff_toNat_le] at h
  have hlow : 48 ≤ c.toNat := h.1
  have hhigh : c.toNat ≤ 57 := h.2
  exact not_isBlank_of_visible (by omega) (by omega)

end Text

theorem trim_toString : ∀ i : Int, Text.trim (toString i) = toString i := by
  have hsolid : ∀ (i : Int), ∀ c ∈ (toString i).toList, Text.isBlank c = false := by
    intro i c hc
    cases i with
    | ofNat n => exact Text.not_isBlank_of_isDigit (isDigit_of_mem_toString n c hc)
    | negSucc n =>
      rw [toList_toString_negSucc] at hc
      rcases List.mem_cons.1 hc with rfl | hc
      · decide
      · exact Text.not_isBlank_of_isDigit (isDigit_of_mem_toString (n + 1) c hc)
  intro i
  rw [Text.trim, Text.trimChars_of_solid (hsolid i), String.ofList_toList]

theorem readSigned64_toString {i : Int} (h : inSigned64 i = true) : readSigned64 (Text.trim (toString i)) = some i := by
  rw [trim_toString, readSigned64, readSigned_toString, Option.filter_some, if_pos h]

end RecordService
