import Mathlib.Data.UInt
import Mathlib.Order.Bounds.Basic
import RecordService.Proofs.Query.Pages
/-!
# Words — the figures of a page with 64 bits

Pages are counted with natural numbers, where a machine has words and steps that may fail: a difference below zero, a sum
above the greatest word, a quotient by zero.  Done step by step with words, the window of rows and the number of pages
come to the same figures, and no step fails (`exists_paginate?`, `exists_count?`).  The figures are those of unbounded
integers, at either end of the words (`figures_exact`).
-/
namespace RecordService

/-! ## Words -/

namespace Word

/-- The sum, unless it is above the greatest word. -/
def add? (a b : UInt64) : Option UInt64 := if a.toNat + b.toNat < 2 ^ 64 then some (a + b) else none

/-- The difference, unless it is below zero. -/
def sub? (a b : UInt64) : Option UInt64 := if b ≤ a then some (a - b) else none

/-- The quotient, unless it is one by zero. -/
def div? (a b : UInt64) : Option UInt64 := if b = 0 then none else some (a / b)

/-- What is left of the quotient, unless it is one by zero. -/
def mod? (a b : UInt64) : Option UInt64 := if b = 0 then none else some (a % b)

/-- The product, or the greatest word when it is larger. -/
def saturatingMul (a b : UInt64) : UInt64 := if a.toNat * b.toNat < 2 ^ 64 then a * b else 18446744073709551615

variable {a b : UInt64}

theorem toNat_saturatingMul (a b : UInt64) : (saturatingMul a b).toNat = RecordService.saturatingMul a.toNat b.toNat := by
  unfold saturatingMul RecordService.saturatingMul
  split
  · rename_i hfits
    rw [UInt64.toNat_mul, Nat.mod_eq_of_lt hfits]
    omega
  · rename_i hlarge
    have hgreatest : (18446744073709551615 : UInt64).toNat = 18446744073709551615 := rfl
    rw [hgreatest]
    omega

theorem exists_add? (h : a.toNat + b.toNat < 2 ^ 64) : ∃ c, add? a b = some c ∧ c.toNat = a.toNat + b.toNat :=
  ⟨a + b, if_pos h, by rw [UInt64.toNat_add, Nat.mod_eq_of_lt h]⟩

theorem exists_sub? (h : b ≤ a) : ∃ c, sub? a b = some c ∧ c.toNat = a.toNat - b.toNat :=
  ⟨a - b, if_pos h, UInt64.toNat_sub_of_le a b h⟩

end Word

/-! ## Pages on words -/

structure WordBounds where
  page : UInt64
  perPage : UInt64
  offset : UInt64

namespace WordBounds

def figures (w : WordBounds) : PageBounds := ⟨w.page.toNat, w.perPage.toNat, w.offset.toNat⟩

/-- The window of a page, with words throughout. -/
def paginate? (page perPage : Option UInt64) (defaultSize maxSize : UInt64) : Option WordBounds := do
  let perPage := max (min (perPage.getD defaultSize) maxSize) 1
  let page := max (page.getD 1) 1
  let before ← Word.sub? page 1
  return ⟨page, perPage, min (Word.saturatingMul before perPage) 9223372036854775807⟩

/-- The least number of pages of a size that hold so many items, with words throughout. -/
def count? (items size : UInt64) : Option UInt64 := do
  let full ← Word.div? items size
  let rest ← Word.mod? items size
  if 0 < rest then Word.add? full 1 else return full

theorem toNat_one : (1 : UInt64).toNat = 1 := rfl

/-- **No step to the window fails**, and it is the window that natural numbers give. -/
theorem exists_paginate? (page perPage : Option UInt64) (defaultSize maxSize : UInt64) :
    ∃ w, paginate? page perPage defaultSize maxSize = some w ∧
      w.figures = paginate (page.map UInt64.toNat) (perPage.map UInt64.toNat) defaultSize.toNat maxSize.toNat := by
  have hsize : (max (min (perPage.getD defaultSize) maxSize) 1).toNat =
      max (min ((perPage.map UInt64.toNat).getD defaultSize.toNat) maxSize.toNat) 1 := by
    rw [UInt64.toNat_max, UInt64.toNat_min, Option.getD_map, toNat_one]
  have hpage : (max (page.getD 1) 1).toNat = max ((page.map UInt64.toNat).getD 1) 1 := by
    rw [UInt64.toNat_max, ← toNat_one, Option.getD_map]
  have hfirst : 1 ≤ max (page.getD 1) 1 := by
    rw [UInt64.le_iff_toNat_le, UInt64.toNat_max]
    exact Nat.le_max_right _ _
  obtain ⟨before, hbefore, hvalue⟩ := Word.exists_sub? hfirst
  refine ⟨_, by rw [paginate?, hbefore]; rfl, ?_⟩
  have hmost : (9223372036854775807 : UInt64).toNat = maxOffset := rfl
  unfold figures paginate
  rw [UInt64.toNat_min, Word.toNat_saturatingMul, hvalue, hpage, hsize, hmost, toNat_one]

/-- **Pages of at least one item are counted without a step that fails.** -/
theorem exists_count? (items : UInt64) {size : UInt64} (hsize : 0 < size.toNat) :
    ∃ n, count? items size = some n ∧ n.toNat = Page.count items.toNat size.toNat := by
  have hzero : size ≠ 0 := by
    rintro rfl
    cases hsize
  have hdiv : Word.div? items size = some (items / size) := if_neg hzero
  have hmod : Word.mod? items size = some (items % size) := if_neg hzero
  unfold Page.count
  rw [← UInt64.toNat_div, ← UInt64.toNat_mod]
  by_cases hrest : 0 < items % size
  · -- with a rest there are fewer full pages than items
    have hpos : 0 < (items % size).toNat := UInt64.lt_iff_toNat_lt.1 hrest
    have hitems : items.toNat % size.toNat + size.toNat * (items.toNat / size.toNat) = items.toNat := Nat.mod_add_div _ _
    have hfull : items.toNat / size.toNat ≤ size.toNat * (items.toNat / size.toNat) := Nat.le_mul_of_pos_left _ hsize
    have hword := items.toNat_lt
    have hroom : (items / size).toNat + (1 : UInt64).toNat < 2 ^ 64 := by
      rw [UInt64.toNat_mod] at hpos
      rw [UInt64.toNat_div, toNat_one]
      omega
    obtain ⟨n, hn, hvalue⟩ := Word.exists_add? hroom
    refine ⟨n, ?_, ?_⟩
    · rw [count?, hdiv, hmod]
      exact (if_pos hrest).trans hn
    · rw [hvalue, toNat_one, if_neg (Nat.ne_of_gt hpos)]
  · have hnone : (items % size).toNat = 0 := by
      rw [UInt64.lt_iff_toNat_lt] at hrest
      exact Nat.eq_zero_of_not_pos hrest
    refine ⟨items / size, ?_, ?_⟩
    · rw [count?, hdiv, hmod]
      exact if_neg hrest
    · rw [hnone, if_pos rfl]
      rfl

end WordBounds

/-! ## Figures -/

/-- The number of pages is the least that holds all items. -/
theorem Page.isLeast_count {size : Nat} (hsize : 0 < size) (items : Nat) :
    IsLeast {n | items ≤ n * size} (count items size) := by
  constructor
  · show items ≤ count items size * size
    rw [← Nat.not_lt, ← lt_count_iff hsize]
    exact Nat.lt_irrefl _
  · intro n hn
    rw [← Nat.not_lt, lt_count_iff hsize]
    exact Nat.not_lt.2 hn

/-- **The figures of a page are exact, whatever words are given.** -/
theorem Page.figures_exact (results : List Row) (page perPage : Option UInt64) (defaultSize maxSize total : UInt64) :
    let bounds := paginate (page.map UInt64.toNat) (perPage.map UInt64.toNat) defaultSize.toNat maxSize.toNat
    let answer := Page.of results bounds total.toNat
    -- with words no step fails, and all comes to the same figures
    (∃ words pages, WordBounds.paginate? page perPage defaultSize maxSize = some words ∧ words.figures = bounds ∧
      WordBounds.count? total words.perPage = some pages ∧ pages.toNat = answer.totalPages) ∧
    -- pages count from one, and one that is asked for is shown
    (1 ≤ bounds.page ∧ ∀ n, page.getD 1 = n → 1 ≤ n.toNat → bounds.page = n.toNat) ∧
    -- a size that is asked for, or else the usual one, is kept to as far as it may be
    (1 ≤ bounds.perPage ∧ bounds.perPage ≤ max 1 maxSize.toNat ∧
      ∀ n, perPage.getD defaultSize = n → 1 ≤ n.toNat → n ≤ maxSize → bounds.perPage = n.toNat) ∧
    bounds.offset = min ((bounds.page - 1) * bounds.perPage) (2 ^ 63 - 1) ∧
    IsLeast {n | total.toNat ≤ n * bounds.perPage} answer.totalPages ∧
    (answer.hasNextPage = true ↔ bounds.page * bounds.perPage < total.toNat) ∧
    (answer.hasPreviousPage = true ↔ 1 < bounds.page ∧ 0 < total.toNat) := by
  intro bounds answer
  have hpage : bounds.page = max (page.getD 1).toNat 1 := congrArg (max · 1) (Option.getD_map UInt64.toNat 1 page)
  have hperPage : bounds.perPage = max (min (perPage.getD defaultSize).toNat maxSize.toNat) 1 :=
    congrArg (fun n => max (min n maxSize.toNat) 1) (Option.getD_map UInt64.toNat defaultSize perPage)
  have hsize : 0 < bounds.perPage := Nat.le_max_right _ 1
  refine ⟨?_, ⟨by omega, ?_⟩, ⟨hsize, by omega, ?_⟩, ?_, isLeast_count hsize _, ?_, ?_⟩
  · obtain ⟨words, hwords, hfigures⟩ := WordBounds.exists_paginate? page perPage defaultSize maxSize
    have hwordSize : words.perPage.toNat = bounds.perPage := congrArg PageBounds.perPage hfigures
    obtain ⟨pages, hpages, hvalue⟩ := WordBounds.exists_count? total (hwordSize ▸ hsize)
    exact ⟨words, pages, hwords, hfigures, hpages, hvalue.trans (congrArg (count total.toNat) hwordSize)⟩
  · rintro _ rfl hfirst
    rw [hpage, Nat.max_eq_left hfirst]
  · rintro _ rfl hfirst hmost
    rw [hperPage, Nat.min_eq_left (UInt64.le_iff_toNat_le.1 hmost), Nat.max_eq_left hfirst]
  · show min (saturatingMul (bounds.page - 1) bounds.perPage) maxOffset = _
    unfold saturatingMul maxOffset
    omega
  · exact decide_eq_true_iff.trans (lt_count_iff hsize _)
  · show (decide (0 < total.toNat) && decide (1 < bounds.page)) = true ↔ _
    rw [Bool.and_eq_true, decide_eq_true_iff, decide_eq_true_iff, and_comm]

/-- The last page that can be named of as many items as can be counted: its offset is beyond what a database accepts. -/
theorem Page.figures_exact_last :
    let bounds := paginate (some 18446744073709551615) (some 100) 20 100
    bounds.page = 18446744073709551615 ∧ bounds.perPage = 100 ∧ bounds.offset = 2 ^ 63 - 1 ∧
      (Page.of [] bounds 18446744073709551615).totalPages = 184467440737095517 := by
  obtain ⟨-, hpage, hperPage, -⟩ :=
    Page.figures_exact [] (some 18446744073709551615) (some 100) 20 100 18446744073709551615
  exact ⟨hpage.2 _ rfl (by decide), hperPage.2.2 _ rfl (by decide) (by decide), rfl, rfl⟩

end RecordService
