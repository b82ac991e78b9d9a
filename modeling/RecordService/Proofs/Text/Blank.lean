import Mathlib.Data.List.TakeWhile
import RecordService.Text.Blank
/-!
# Blanks — what is left of a text without those at its ends

Blanks around a text make no difference to what is left of it (`trimChars_of_padded`), and nothing else is taken away
(`padded_trimChars`).  A text with no blanks at its ends is left as it is (`trimChars_of_trimmed`).
-/
namespace RecordService.Text

/-- The characters that ASCII has a sign for are no blanks. -/
theorem not_isBlank_of_visible {c : Char} (hlow : 32 < c.toNat) (hhigh : c.toNat < 127) : isBlank c = false := by
  simp [isBlank, blankRanges]
  omega

variable {cs core : List Char}

/-- The characters are those of the core, with blanks on either side. -/
def Padded (cs core : List Char) : Prop :=
  ∃ before after, cs = before ++ core ++ after ∧ (∀ c ∈ before, isBlank c = true) ∧ ∀ c ∈ after, isBlank c = true

/-- There is no blank at either end. -/
structure Trimmed (cs : List Char) : Prop where
  first : ∀ c ∈ cs.head?, isBlank c = false
  last : ∀ c ∈ cs.getLast?, isBlank c = false

theorem trimmed_of_solid (h : ∀ c ∈ cs, isBlank c = false) : Trimmed cs :=
  ⟨fun c hc => h c (List.mem_of_mem_head? hc), fun c hc => h c (List.mem_of_mem_getLast? hc)⟩

/-- A character that is no blank is in the core, if anywhere. -/
theorem Padded.mem_iff (h : Padded cs core) {c : Char} (hc : isBlank c = false) : c ∈ cs ↔ c ∈ core := by
  have hnone : ∀ {blanks : List Char}, (∀ c ∈ blanks, isBlank c = true) → c ∉ blanks := by
    intro blanks hblanks hmem
    rw [hblanks c hmem] at hc
    cases hc
  obtain ⟨before, after, rfl, hbefore, hafter⟩ := h
  simp [hnone hbefore, hnone hafter]

theorem padded_trimChars (cs : List Char) : Padded cs (trimChars cs) := by
  refine ⟨cs.takeWhile isBlank, ((cs.dropWhile isBlank).reverse.takeWhile isBlank).reverse, ?_,
    fun c hc => List.mem_takeWhile_imp hc, fun c hc => List.mem_takeWhile_imp (List.mem_reverse.1 hc)⟩
  rw [trimChars, List.append_assoc, ← List.reverse_append, List.takeWhile_append_dropWhile, List.reverse_reverse,
    List.takeWhile_append_dropWhile]

/-- **Blanks around a text make no difference.** -/
theorem trimChars_of_padded (h : Padded cs core) : trimChars cs = trimChars core := by
  obtain ⟨before, after, rfl, hbefore, hafter⟩ := h
  have hback : after.reverse.dropWhile isBlank = [] :=
    List.dropWhile_eq_nil_iff.2 fun c hc => hafter c (List.mem_reverse.1 hc)
  rw [trimChars, trimChars, List.append_assoc, List.dropWhile_append_of_pos hbefore, List.dropWhile_append]
  by_cases hblank : core.dropWhile isBlank = []
  · rw [hblank, if_pos (by rfl), List.dropWhile_eq_nil_iff.2 hafter]
  · rw [if_neg (mt List.isEmpty_iff.1 hblank), List.reverse_append, List.dropWhile_append, hback]
    rfl

theorem trimChars_of_trimmed (h : Trimmed cs) : trimChars cs = cs := by
  have hkept : ∀ {l : List Char}, (∀ c ∈ l.head?, isBlank c = false) → l.dropWhile isBlank = l := by
    intro l hl
    cases l with
    | nil => rfl
    | cons c rest => rw [List.dropWhile_cons, hl c rfl, if_neg Bool.false_ne_true]
  have hlast : ∀ c ∈ cs.reverse.head?, isBlank c = false := by
    rw [List.head?_reverse]
    exact h.last
  rw [trimChars, hkept h.first, hkept hlast, List.reverse_reverse]

theorem trimChars_of_solid (h : ∀ c ∈ cs, isBlank c = false) : trimChars cs = cs :=
  trimChars_of_trimmed (trimmed_of_solid h)

/-- Nothing is left of blanks, and of nothing else. -/
theorem trimChars_eq_nil_iff : trimChars cs = [] ↔ ∀ c ∈ cs, isBlank c = true := by
  constructor
  · intro hnil
    obtain ⟨before, after, hcs, hbefore, hafter⟩ := padded_trimChars cs
    rw [hcs, hnil, List.append_nil]
    exact List.forall_mem_append.2 ⟨hbefore, hafter⟩
  · intro hblank
    have hpadded : Padded cs [] := ⟨cs, [], by simp, hblank, by simp⟩
    exact trimChars_of_padded hpadded

end RecordService.Text
