import RecordService.Proofs.Sorting.Runs
/-!
# What is known of the sort

Whatever the test, what the sort answers has the elements of the list, and up to twenty elements it does answer
(`sort_perm`, `sort_of_length_le`).  By an order it always answers, with the list that insertion finds: the one that is
sorted stably (`sort_eq_insertionSort`).  Without an order a longer list may come in any order, or not at all.
-/
namespace RecordService.Sorting

variable {α : Type}

/-! ## Two demands -/

namespace Demand

/-- No element is lost or added. -/
def rearranged : Demand α := ⟨fun xs ys => ys.Perm xs, fun _ => True, True⟩

/-- The list is sorted stably. -/
def stable (cmp : α → α → Ordering) : Demand α := ⟨Keeps cmp, InOrder cmp, False⟩

end Demand

theorem splitRun_append (goesOn : α → α → Bool) : ∀ (x : α) (ys : List α),
    ys = (splitRun goesOn x ys).1 ++ (splitRun goesOn x ys).2
  | _, [] => rfl
  | x, y :: ys => by
    rw [splitRun]
    split
    · exact congrArg (y :: ·) (splitRun_append goesOn y ys)
    · rfl

theorem splitRun_chain (goesOn : α → α → Bool) : ∀ (x : α) (ys : List α),
    (x :: (splitRun goesOn x ys).1).IsChain fun a b => goesOn a b = true
  | x, [] => List.IsChain.singleton x
  | x, y :: ys => by
    rw [splitRun]
    split
    · rename_i hgoes
      exact List.isChain_cons_cons.2 ⟨hgoes, splitRun_chain goesOn y ys⟩
    · exact List.IsChain.singleton x

/-- The sorted front is the front of the list as it is, where no element comes before the one in front of it, or turned
round, where each does. -/
theorem sortedFront_cases (less : α → α → Bool) (x : α) (xs : List α) : ∃ ys, x :: xs = ys ++ (sortedFront less x xs).2 ∧
    ((sortedFront less x xs).1 = ys ∧ ys.IsChain (fun a b => (!less b a) = true) ∨
      (sortedFront less x xs).1 = ys.reverse ∧ ys.IsChain fun a b => less b a = true) := by
  cases xs with
  | nil => exact ⟨[x], rfl, .inl ⟨rfl, List.IsChain.singleton x⟩⟩
  | cons y ys =>
    rw [sortedFront]
    cases hyx : less y x with
    | true =>
      refine ⟨x :: y :: (splitRun (fun a b => less b a) y ys).1, ?_, .inr ⟨rfl, ?_⟩⟩
      · exact congrArg (x :: y :: ·) (splitRun_append _ y ys)
      · exact List.isChain_cons_cons.2 ⟨hyx, splitRun_chain _ y ys⟩
    | false =>
      refine ⟨x :: y :: (splitRun (fun a b => !less b a) y ys).1, ?_, .inl ⟨rfl, ?_⟩⟩
      · exact congrArg (x :: y :: ·) (splitRun_append _ y ys)
      · exact List.isChain_cons_cons.2 ⟨by rw [hyx]; rfl, splitRun_chain _ y ys⟩

theorem Demand.rearranged_lawful (less : α → α → Bool) : Demand.rearranged.Lawful less where
  refl := List.Perm.refl
  trans h h' := h'.trans h
  append h h' := h.append h'
  nil := trivial
  front x xs := by
    obtain ⟨ys, hxs, ⟨hfront, -⟩ | ⟨hfront, -⟩⟩ := sortedFront_cases less x xs
    · exact ⟨ys, hxs, hfront ▸ List.Perm.refl ys, trivial⟩
    · exact ⟨ys, hxs, hfront ▸ List.reverse_perm ys, trivial⟩
  merge {xs ys} _ _ := by
    refine ⟨?_, trivial⟩
    unfold merge
    split
    · exact List.merge_perm_append _
    · exact (List.reverse_perm _).trans ((List.merge_perm_append _).trans
        (((List.reverse_perm ys).append (List.reverse_perm xs)).trans List.perm_append_comm))

section
variable {cmp : α → α → Ordering} [Std.TransCmp cmp]

/-- Turning round a list that falls moves no element past one that compares equal. -/
theorem keeps_reverse : ∀ {xs : List α}, (xs.Pairwise fun a b => cmp b a = .lt) → Keeps cmp xs xs.reverse
  | [], _ => Keeps.refl []
  | x :: xs, h => by
    have hback : Keeps cmp (xs.reverse ++ [x]) (x :: xs.reverse) := Keeps.toFront fun y hy heq => by
      have hlt : cmp y x = .lt := List.rel_of_pairwise_cons h (List.mem_reverse.1 hy)
      rw [Std.OrientedCmp.eq_comm.1 heq] at hlt
      cases hlt
    rw [List.reverse_cons]
    exact ((Keeps.refl [x]).append (keeps_reverse h.tail)).trans fun a => (hback a).symm

theorem Demand.stable_lawful : (Demand.stable cmp).Lawful (before cmp) where
  refl := Keeps.refl
  trans := Keeps.trans
  append := Keeps.append
  nil := List.Pairwise.nil
  front x xs := by
    obtain ⟨ys, hxs, ⟨hfront, hchain⟩ | ⟨hfront, hchain⟩⟩ := sortedFront_cases (before cmp) x xs
    · have hrises : InOrder cmp ys := by
        have htrans : Trans (fun a b => (cmp a b).isLE = true) (fun a b => (cmp a b).isLE = true)
            fun a b => (cmp a b).isLE = true := ⟨Std.TransCmp.isLE_trans⟩
        refine List.isChain_iff_pairwise.1 (hchain.imp fun a b hab => before_eq_false_iff.1 ?_)
        rwa [Bool.not_eq_true'] at hab
      exact ⟨ys, hxs, hfront ▸ Keeps.refl ys, hfront ▸ hrises⟩
    · have hfalls : ys.Pairwise fun a b => cmp b a = .lt := by
        have htrans : Trans (fun a b => cmp b a = .lt) (fun a b => cmp b a = .lt) fun a b => cmp b a = .lt :=
          ⟨fun hab hbc => Std.TransCmp.lt_trans hbc hab⟩
        exact List.isChain_iff_pairwise.1 (hchain.imp fun a b hab => before_eq_true_iff.1 hab)
      have hrises : InOrder cmp ys.reverse :=
        List.pairwise_reverse.2 (hfalls.imp fun hba => Ordering.isLE_of_eq_lt hba)
      exact ⟨ys, hxs, hfront ▸ keeps_reverse hfalls, hfront ▸ hrises⟩
  merge hx hy := ⟨(mergeRuns_sorts hx hy).keeps, (mergeRuns_sorts hx hy).inOrder⟩

end

/-! ## Parting at pivots -/

theorem smallSort_met (less : α → α → Bool) : Demand.rearranged.Met (smallSort less) := fun xs => by
  cases h : smallSort less xs with
  | none => trivial
  | some ys => exact ⟨smallSort_perm less h, trivial⟩

theorem quickSort_met (less : α → α → Bool) : ∀ (limit : Nat) (bound : Option α),
    Demand.rearranged.Met (quickSort less limit bound)
  | _, _, [] => by
    unfold quickSort
    exact ⟨List.Perm.refl [], trivial⟩
  | 0, _, x :: xs => by
    unfold quickSort
    split
    · exact smallSort_met less (x :: xs)
    · exact Demand.sortRuns_met (Demand.rearranged_lawful less) (smallSort_met less) true (x :: xs)
  | limit + 1, bound, x :: xs => by
    have hparts : ∀ {p : α → Bool} {ys zs : List α}, ys.Perm ((x :: xs).filter p) →
        zs.Perm ((x :: xs).filter fun a => !p a) → (ys ++ zs).Perm (x :: xs) := fun hys hzs =>
      (hys.append hzs).trans (List.filter_append_perm _ _)
    unfold quickSort
    split
    · exact smallSort_met less (x :: xs)
    · dsimp only
      split
      · refine (quickSort_met less limit none _).bind fun ys hys => ⟨hparts (List.Perm.refl _) ?_, trivial⟩
        simp only [Bool.not_not]
        exact hys.1
      · exact (quickSort_met less limit _ _).bind fun zs hzs => (quickSort_met less limit _ _).bind fun ys hys =>
          ⟨hparts hys.1 hzs.1, trivial⟩

section
variable {cmp : α → α → Ordering} [Std.TransCmp cmp]

theorem smallSort_stable : (Demand.stable cmp).Met (smallSort (before cmp)) := fun xs => by
  obtain ⟨ys, hys, hsorts⟩ := @smallSort_sorts α cmp _ xs
  rw [hys]
  exact ⟨hsorts.keeps, hsorts.inOrder⟩

theorem part_sorts {pivot : α} {xs ys zs : List α} (hys : Sorts cmp (xs.filter fun x => before cmp x pivot) ys)
    (hzs : Sorts cmp (xs.filter fun x => !before cmp x pivot) zs) : Sorts cmp xs (ys ++ zs) where
  keeps := by
    have hpart : ∀ a b, cmp a b = .eq → before cmp a pivot = before cmp b pivot := fun a b hab => by
      rw [before, before, Std.TransCmp.congr_left hab]
    exact (Keeps.part hpart xs).trans (hys.keeps.append hzs.keeps)
  inOrder := by
    refine List.pairwise_append.2 ⟨hys.inOrder, hzs.inOrder, fun y hy z hz => ?_⟩
    have hlt : cmp y pivot = .lt := before_eq_true_iff.1 (List.mem_filter.1 (hys.keeps.mem_iff.1 hy)).2
    have hle : (cmp pivot z).isLE := by
      have hnot := (List.mem_filter.1 (hzs.keeps.mem_iff.1 hz)).2
      rwa [Bool.not_eq_true', before_eq_false_iff] at hnot
    exact Ordering.isLE_of_eq_lt (Std.TransCmp.lt_of_lt_of_isLE hlt hle)

/-- What is equal to a pivot that no element comes before stands in front as it is. -/
theorem part_equal_sorts {pivot : α} {xs zs : List α} (hleast : ∀ x ∈ xs, (cmp pivot x).isLE)
    (hzs : Sorts cmp (xs.filter fun x => before cmp pivot x) zs) :
    Sorts cmp xs (xs.filter (fun x => !before cmp pivot x) ++ zs) where
  keeps := by
    have hpart : ∀ a b, cmp a b = .eq → (!before cmp pivot a) = !before cmp pivot b := fun a b hab => by
      rw [before, before, Std.TransCmp.congr_right hab]
    have hkeeps := Keeps.part hpart xs
    simp only [Bool.not_not] at hkeeps
    exact hkeeps.trans ((Keeps.refl _).append hzs.keeps)
  inOrder := by
    have hequal : ∀ x ∈ xs.filter (fun x => !before cmp pivot x), (cmp x pivot).isLE := fun x hx => by
      have hnot := (List.mem_filter.1 hx).2
      rwa [Bool.not_eq_true', before_eq_false_iff] at hnot
    have hleast' : ∀ x ∈ zs, (cmp pivot x).isLE := fun x hx =>
      hleast x (List.mem_filter.1 (hzs.keeps.mem_iff.1 hx)).1
    refine List.pairwise_append.2 ⟨?_, hzs.inOrder, fun x hx z hz => ?_⟩
    · refine List.Pairwise.imp_of_mem (fun {x y} hx hy _ => ?_) (List.pairwise_of_forall fun _ _ => trivial)
      exact Std.TransCmp.isLE_trans (hequal x hx) (hleast y (List.mem_filter.1 hy).1)
    · exact Std.TransCmp.isLE_trans (hequal x hx) (hleast' z hz)

/-- By an order parting never breaks off; `bound` is not behind any of the elements. -/
theorem quickSort_stable : ∀ (limit : Nat) (bound : Option α) (xs : List α),
    (∀ b ∈ bound, ∀ x ∈ xs, (cmp b x).isLE) →
      (Demand.stable cmp).Yields (fun ys => Keeps cmp xs ys ∧ InOrder cmp ys) (quickSort (before cmp) limit bound xs)
  | _, _, [], _ => by
    unfold quickSort
    exact ⟨Keeps.refl [], List.Pairwise.nil⟩
  | 0, _, x :: xs, _ => by
    unfold quickSort
    split
    · exact smallSort_stable (x :: xs)
    · exact Demand.sortRuns_met Demand.stable_lawful smallSort_stable true (x :: xs)
  | limit + 1, bound, x :: xs, hbound => by
    unfold quickSort
    split
    · exact smallSort_stable (x :: xs)
    · generalize representative (before cmp) (fun i => (x :: xs).getD i x) (xs.length + 1) 0 = pivot
      dsimp only
      split
      · rename_i hequal
        have hleast : ∀ y ∈ x :: xs, (cmp pivot y).isLE := by
          rcases Bool.or_eq_true_iff.1 hequal with hnone | hsame
          · intro y hy
            exact before_eq_false_iff.1 (Bool.eq_false_iff.2 (List.filter_eq_nil_iff.1 (List.isEmpty_iff.1 hnone) y hy))
          · intro y hy
            obtain ⟨b, hb, hpivot⟩ := (Option.any_eq_true _ _).1 hsame
            rw [Bool.not_eq_true', before_eq_false_iff] at hpivot
            exact Std.TransCmp.isLE_trans hpivot (hbound b hb y hy)
        refine (quickSort_stable limit none _ nofun).bind fun zs hzs => ?_
        have hsorts := part_equal_sorts hleast ⟨hzs.1, hzs.2⟩
        exact ⟨hsorts.keeps, hsorts.inOrder⟩
      · refine (quickSort_stable limit (some pivot) _ ?_).bind fun zs hzs =>
          (quickSort_stable limit bound _ ?_).bind fun ys hys => ?_
        · intro b hb y hy
          obtain rfl := Option.mem_some.1 hb
          have hnot := (List.mem_filter.1 hy).2
          rwa [Bool.not_eq_true', before_eq_false_iff] at hnot
        · intro b hb y hy
          exact hbound b hb y (List.mem_filter.1 hy).1
        · have hsorts := part_sorts ⟨hys.1, hys.2⟩ ⟨hzs.1, hzs.2⟩
          exact ⟨hsorts.keeps, hsorts.inOrder⟩

end

/-! ## The sort -/

theorem sort_of_length_le (less : α → α → Bool) {xs : List α} (h : xs.length ≤ 20) :
    sort less xs = some (insertionSort less xs) := if_pos h

/-- **What is sorted has the elements of the list**, by whatever test. -/
theorem sort_perm (less : α → α → Bool) {xs ys : List α} (h : sort less xs = some ys) : ys.Perm xs := by
  have hmet : Demand.rearranged.Met (sort less) := fun xs => by
    unfold sort
    split
    · exact ⟨insertionSort_perm less xs, trivial⟩
    · split
      · exact Demand.sortRuns_met (Demand.rearranged_lawful less) (smallSort_met less) true xs
      · exact Demand.sortRuns_met (Demand.rearranged_lawful less) (fun _ => quickSort_met less _ _ _) false xs
  have hxs := hmet xs
  rw [h] at hxs
  exact hxs.1

/-- **By an order the sort always answers**, with the list that is sorted stably. -/
theorem sort_eq_insertionSort {cmp : α → α → Ordering} [Std.TransCmp cmp] (xs : List α) :
    sort (before cmp) xs = some (insertionSort (before cmp) xs) := by
  have hmet : (Demand.stable cmp).Met (sort (before cmp)) := fun xs => by
    unfold sort
    split
    · exact ⟨(insertionSort_sorts xs).keeps, (insertionSort_sorts xs).inOrder⟩
    · split
      · exact Demand.sortRuns_met Demand.stable_lawful smallSort_stable true xs
      · exact Demand.sortRuns_met Demand.stable_lawful (fun _ => quickSort_stable _ none _ nofun) false xs
  have hxs := hmet xs
  cases hsome : sort (before cmp) xs with
  | none =>
    rw [hsome] at hxs
    exact hxs.elim
  | some ys =>
    rw [hsome] at hxs
    have hsorts : Sorts cmp xs ys := ⟨hxs.1, hxs.2⟩
    rw [hsorts.unique (insertionSort_sorts xs)]

end RecordService.Sorting
