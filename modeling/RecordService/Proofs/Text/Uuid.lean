import Mathlib.Data.List.Basic
import RecordService.Text.Uuid
/-!
# UUIDs — the canonical text and what denotes none

A text is read as a UUID by taking its digits out of their groups.  The canonical text is grouped in one of the forms that
are read, so that it denotes the same UUID (`Uuid.parse_canonical`).
-/
namespace RecordService

namespace Uuid

theorem toNat_lt_of_isHexDigit {c : Char} (h : isHexDigit c = true) : c.toNat < 128 := by
  simp only [isHexDigit, Char.isDigit, Bool.or_eq_true, Bool.and_eq_true, decide_eq_true_eq, Char.le_def, ge_iff_le,
    UInt32.le_iff_toNat_le] at h
  have hc : c.toNat = c.val.toNat := rfl
  have h9 : '9'.val.toNat = 57 := rfl
  have hf : 'f'.val.toNat = 102 := rfl
  have hF : 'F'.val.toNat = 70 := rfl
  omega

/-- What is to be shown of the hexadecimal digits can be tried on each. -/
theorem forall_isHexDigit {q : Char → Bool} (h : ∀ n < 128, isHexDigit (Char.ofNat n) = true → q (Char.ofNat n) = true)
    {c : Char} (hc : isHexDigit c = true) : q c = true := by
  have hback : Char.ofNat c.toNat = c := Char.ofNat_toNat c
  have hq := h c.toNat (toNat_lt_of_isHexDigit hc)
  rw [hback] at hq
  exact hq hc

theorem isHexDigit_toLower {c : Char} (hc : isHexDigit c = true) : isHexDigit c.toLower = true :=
  forall_isHexDigit (q := fun c => isHexDigit c.toLower) (by decide) hc

theorem toLower_toLower {c : Char} (hc : isHexDigit c = true) : c.toLower.toLower = c.toLower :=
  beq_iff_eq.1 (forall_isHexDigit (q := fun c => c.toLower.toLower == c.toLower) (by decide) hc)

theorem ungroup_groups {a b c d e : List Char} (ha : a.length = 8) (hb : b.length = 4) (hc : c.length = 4)
    (hd : d.length = 4) (he : e.length = 12) :
    ungroup (a ++ ['-'] ++ b ++ ['-'] ++ c ++ ['-'] ++ d ++ ['-'] ++ e) = some (a ++ b ++ c ++ d ++ e) := by
  simp (disch := omega) [ungroup, ha, hb, hc, hd, he, List.getElem?_append, List.getElem?_cons_zero, List.drop_append,
    List.drop_eq_nil_of_le]

/-- The canonical text is grouped, so that its digits can be had back. -/
theorem ungroup_canonical {digits : List Char} (h : digits.length = 32) :
    ungroup (canonical digits) = some (digits.map Char.toLower) := by
  have hlower : (digits.map Char.toLower).length = 32 := by simp [h]
  have hgroups := ungroup_groups (a := (digits.map Char.toLower).take 8) (b := ((digits.map Char.toLower).drop 8).take 4)
    (c := ((digits.map Char.toLower).drop 12).take 4) (d := ((digits.map Char.toLower).drop 16).take 4)
    (e := (digits.map Char.toLower).drop 20) (by simp [h]) (by simp [h]) (by simp [h]) (by simp [h]) (by simp [h])
  refine hgroups.trans (congrArg some ?_)
  rw [← List.take_add, ← List.take_add, ← List.take_add, List.take_append_drop]

theorem canonical_map_toLower {digits : List Char} (h : digits.all isHexDigit = true) :
    canonical (digits.map Char.toLower) = canonical digits := by
  have hlower : (digits.map Char.toLower).map Char.toLower = digits.map Char.toLower := by
    rw [List.map_map]
    exact List.map_congr_left fun c hc => toLower_toLower (List.all_eq_true.1 h c hc)
  unfold canonical
  rw [hlower]

theorem length_of_ungroup {cs digits : List Char} (h : ungroup cs = some digits) : digits.length = 32 := by
  unfold ungroup at h
  dsimp only at h
  split at h
  · rename_i hform
    have hlength : cs.length = 36 := by simp at hform; exact hform.1
    cases h
    simp [hlength]
  · cases h

theorem length_of_plainDigits {cs digits : List Char} (h : plainDigits cs = some digits) : digits.length = 32 := by
  unfold plainDigits at h
  split at h
  · cases h
    assumption
  · split at h
    · exact length_of_ungroup h
    · split at h
      · split at h
        · exact length_of_ungroup h
        · cases h
      · exact length_of_ungroup h

/-- The canonical text is neither without marks nor in braces nor behind a prefix. -/
theorem plainDigits_canonical {digits : List Char} (hlength : digits.length = 32) (hhex : digits.all isHexDigit = true) :
    plainDigits (canonical digits) = some (digits.map Char.toLower) := by
  have hlong : (canonical digits).length ≠ 32 := by simp [canonical, hlength]
  have hprefix : ((canonical digits).take 9).map Char.toLower ≠ urn := by
    intro h
    have hninth : (((canonical digits).take 9).map Char.toLower)[8]? = some '-' := by
      simp [canonical, hlength]
    rw [h] at hninth
    revert hninth
    decide
  unfold plainDigits
  rw [if_neg hlong, if_neg hprefix]
  split
  · rename_i rest hbrace
    have hfirst : (digits.map Char.toLower)[0]? = some '\x7b' := by
      have hhead : (canonical digits)[0]? = (digits.map Char.toLower)[0]? := by
        simp [canonical, hlength]
      rw [← hhead, hbrace]
      rfl
    obtain ⟨c, hc, hlower⟩ := List.mem_map.1 (List.mem_of_getElem? hfirst)
    have hbad := isHexDigit_toLower (List.all_eq_true.1 hhex c hc)
    rw [hlower] at hbad
    cases hbad
  · exact ungroup_canonical hlength

/-- **The canonical text of a UUID denotes the same UUID.** -/
theorem parse_canonical {s c : String} (h : parse s = some c) : parse c = some c := by
  unfold parse at h
  cases hdigits : plainDigits s.toList with
  | none => rw [hdigits] at h; cases h
  | some digits =>
    rw [hdigits] at h
    dsimp only at h
    split at h
    · rename_i hhex
      cases h
      have hlower : (digits.map Char.toLower).all isHexDigit = true := by
        rw [List.all_map]
        exact List.all_eq_true.2 fun c hc => isHexDigit_toLower (List.all_eq_true.1 hhex c hc)
      unfold parse
      rw [String.toList_ofList, plainDigits_canonical (length_of_plainDigits hdigits) hhex]
      dsimp only
      rw [if_pos hlower, canonical_map_toLower hhex]
    · cases h

/-! What is in a text that denotes a UUID: digits, and the marks of its form. -/

theorem mem_slice {cs : List Char} {c : Char} {i a n : Nat} (h : cs[i]? = some c) (hlow : a ≤ i) (hhigh : i < a + n) :
    c ∈ (cs.drop a).take n := by
  refine List.mem_of_getElem? (i := i - a) ?_
  rw [List.getElem?_take_of_lt (by omega), List.getElem?_drop, Nat.add_sub_cancel' hlow]
  exact h

theorem mem_of_ungroup {cs digits : List Char} {c : Char} (h : ungroup cs = some digits) (hc : c ∈ cs) :
    c ∈ digits ∨ c = '-' := by
  unfold ungroup at h
  dsimp only at h
  split at h
  · rename_i hform
    simp only [List.all_cons, List.all_nil, Bool.and_true, Bool.and_eq_true, decide_eq_true_eq, beq_iff_eq] at hform
    obtain ⟨hlength, h8, h13, h18, h23⟩ := hform
    cases h
    obtain ⟨i, hi, hget⟩ := List.mem_iff_getElem.1 hc
    have hget : cs[i]? = some c := by rw [List.getElem?_eq_getElem hi, hget]
    have hpart : ∀ a n, a ≤ i → i < a + n → c ∈ (cs.drop a).take n := fun a n => mem_slice hget
    have hrest : 24 ≤ i → c ∈ cs.drop 24 := fun hi => List.mem_of_mem_take (hpart 24 36 hi (by omega))
    have hmark : ∀ j : Nat, i = j → cs[j]? = some '-' → c = '-' := fun j hj hdash => by
      rw [hj, hdash] at hget
      exact (Option.some.inj hget).symm
    simp only [List.mem_append]
    -- the place of the character is in a group or between two
    have hplace : i < 8 ∨ i = 8 ∨ (9 ≤ i ∧ i < 13) ∨ i = 13 ∨ (14 ≤ i ∧ i < 18) ∨ i = 18 ∨ (19 ≤ i ∧ i < 23) ∨ i = 23 ∨
        24 ≤ i := by omega
    rcases hplace with hi | hi | ⟨hl, hr⟩ | hi | ⟨hl, hr⟩ | hi | ⟨hl, hr⟩ | hi | hi
    · exact .inl (.inl (.inl (.inl (.inl (hpart 0 8 (by omega) (by omega))))))
    · exact .inr (hmark 8 hi h8)
    · exact .inl (.inl (.inl (.inl (.inr (hpart 9 4 hl hr)))))
    · exact .inr (hmark 13 hi h13)
    · exact .inl (.inl (.inl (.inr (hpart 14 4 hl hr))))
    · exact .inr (hmark 18 hi h18)
    · exact .inl (.inl (.inr (hpart 19 4 hl hr)))
    · exact .inr (hmark 23 hi h23)
    · exact .inl (.inr (hrest hi))
  · cases h

/-- A letter that stands in no mark of a form is among the digits. -/
theorem z_mem_of_plainDigits {cs digits : List Char} (h : plainDigits cs = some digits) (hz : 'Z' ∈ cs) :
    'Z' ∈ digits := by
  have hungroup : ∀ {cs : List Char}, ungroup cs = some digits → 'Z' ∈ cs → 'Z' ∈ digits := fun hcs hz =>
    (mem_of_ungroup hcs hz).resolve_right (by decide)
  unfold plainDigits at h
  split at h
  · cases h
    exact hz
  · split at h
    · rename_i hurn
      refine hungroup h ?_
      rw [← List.take_append_drop 9 cs] at hz
      refine (List.mem_append.1 hz).resolve_left fun hz => ?_
      have hlower : 'z' ∈ urn := hurn ▸ List.mem_map_of_mem (f := Char.toLower) hz
      revert hlower
      decide
    · split at h
      · split at h
        · rename_i rest _ _ hlast
          have hback : rest.dropLast ++ ['\x7d'] = rest := List.dropLast_append_getLast? _ (beq_iff_eq.1 hlast)
          rw [← hback] at hz
          refine hungroup h ?_
          simpa using hz
        · cases h
      · exact hungroup h hz

/-- No UUID has this letter in it, whatever its form. -/
theorem parse_of_mem_z {s : String} (h : 'Z' ∈ s.toList) : parse s = none := by
  unfold parse
  cases hplain : plainDigits s.toList with
  | none => rfl
  | some digits =>
    have hbad : digits.all isHexDigit = false :=
      List.all_eq_false.2 ⟨'Z', z_mem_of_plainDigits hplain h, by decide⟩
    dsimp only
    rw [if_neg (by rw [hbad]; decide)]

end Uuid

end RecordService
