import Mathlib.Data.List.Sort
import RecordService.Proofs.Sorting.Rearrangement
/-!
# Sorting by an order, stably

A list is sorted stably when no element comes before one that stands in front of it, and the elements that compare equal
to any one stand as they stood (`Sorts`).  There is only one such list (`Sorts.unique`).  Insertion finds it
(`sortBack_sorts`), and so do the merges of sorted lists, from either end (`merge_sorts`) and from both ends at once
(`mergeEnds_sorts`): two cuts at which a merge passes by cannot cross (`Cut.not_past`), so that its two ends meet.
-/
namespace RecordService.Sorting

variable {α : Type}

section
variable (cmp : α → α → Ordering)

/-- The test of an order. -/
def before (a b : α) : Bool := cmp a b == .lt

def alike (a b : α) : Bool := cmp a b == .eq

def InOrder (xs : List α) : Prop := xs.Pairwise fun a b => (cmp a b).isLE

/-- The elements that compare equal to any one are the same in both lists, in the same places among themselves. -/
def Keeps (xs ys : List α) : Prop := ∀ a, ys.filter (alike cmp a) = xs.filter (alike cmp a)

/-- One list is the other, sorted stably. -/
structure Sorts (xs ys : List α) : Prop where
  keeps : Keeps cmp xs ys
  inOrder : InOrder cmp ys

end

variable {cmp : α → α → Ordering} {xs ys zs : List α}

theorem before_eq_true_iff {a b : α} : before cmp a b = true ↔ cmp a b = .lt := beq_iff_eq

theorem alike_iff {a b : α} : alike cmp a b = true ↔ cmp a b = .eq := beq_iff_eq

theorem Keeps.refl (xs : List α) : Keeps cmp xs xs := fun _ => rfl

theorem Keeps.trans (h : Keeps cmp xs ys) (h' : Keeps cmp ys zs) : Keeps cmp xs zs := fun a => (h' a).trans (h a)

theorem Keeps.append {xs' ys' : List α} (h : Keeps cmp xs ys) (h' : Keeps cmp xs' ys') :
    Keeps cmp (xs ++ xs') (ys ++ ys') := fun a => by
  rw [List.filter_append, List.filter_append, h a, h' a]

/-- Parting a list keeps equal elements together, if they are parted alike. -/
theorem Keeps.part {p : α → Bool} (hp : ∀ a b, cmp a b = .eq → p a = p b) (xs : List α) :
    Keeps cmp xs (xs.filter p ++ xs.filter fun a => !p a) := fun a => by
  have hcell : ∀ q : Bool → Bool, (fun b => alike cmp a b && q (p b)) = fun b => alike cmp a b && q (p a) := fun q => by
    funext b
    cases h : alike cmp a b with
    | false => rfl
    | true => rw [hp a b (alike_iff.1 h)]
  rw [List.filter_append, List.filter_filter, List.filter_filter, hcell fun b => b, hcell fun b => !b]
  cases p a <;> simp

theorem inOrder_reverse_cons {x : α} {done : List α} :
    InOrder cmp (x :: done).reverse ↔ (∀ y ∈ done, (cmp y x).isLE) ∧ InOrder cmp done.reverse := by
  rw [InOrder, List.pairwise_reverse, List.pairwise_cons, InOrder, List.pairwise_reverse]

theorem inOrder_opposite : InOrder (fun a b => cmp b a) xs ↔ InOrder cmp xs.reverse := by
  rw [InOrder, InOrder, List.pairwise_reverse]

variable [Std.TransCmp cmp]

theorem before_eq_false_iff {a b : α} : before cmp b a = false ↔ (cmp a b).isLE := by
  have hswap : cmp b a = (cmp a b).swap := Std.OrientedCmp.eq_swap
  rw [before, hswap]
  cases cmp a b <;> decide

theorem alike_self (a : α) : alike cmp a a = true := alike_iff.2 Std.ReflCmp.compare_self

theorem Keeps.mem_iff (h : Keeps cmp xs ys) {a : α} : a ∈ ys ↔ a ∈ xs := by
  have hself : ∀ zs : List α, a ∈ zs ↔ a ∈ zs.filter (alike cmp a) := fun zs => by
    rw [List.mem_filter]
    exact (and_iff_left (alike_self a)).symm
  rw [hself ys, hself xs, h a]

/-- An element may be taken to the front past those that do not compare equal to it. -/
theorem Keeps.toFront {y : α} (h : ∀ x ∈ xs, cmp y x ≠ .eq) : Keeps cmp (xs ++ [y]) (y :: xs) := fun a => by
  rw [List.filter_append]
  cases hy : alike cmp a y with
  | false => simp [hy]
  | true =>
    have hnone : xs.filter (alike cmp a) = [] := List.filter_eq_nil_iff.2 fun x hx hax => h x hx <| by
      rw [← Std.TransCmp.congr_left (alike_iff.1 hy)]
      exact alike_iff.1 hax
    simp [hy, hnone]

/-- **There is only one way to sort a list stably.** -/
theorem Sorts.unique (hy : Sorts cmp xs ys) (hz : Sorts cmp xs zs) : ys = zs := by
  obtain ⟨hkeeps, hys⟩ := hy
  obtain ⟨hkeeps', hzs⟩ := hz
  have hsame : Keeps cmp ys zs := fun a => (hkeeps' a).trans (hkeeps a).symm
  clear hkeeps hkeeps'
  induction ys generalizing zs with
  | nil =>
    cases zs with
    | nil => rfl
    | cons z zs => exact absurd (hsame.mem_iff.1 List.mem_cons_self) List.not_mem_nil
  | cons y ys ih =>
    cases zs with
    | nil => exact absurd (hsame.mem_iff.2 List.mem_cons_self) List.not_mem_nil
    | cons z zs =>
      have hle : ∀ {a b : α} {bs : List α}, InOrder cmp (b :: bs) → a ∈ b :: bs → (cmp b a).isLE := by
        intro a b bs h ha
        rcases List.mem_cons.1 ha with rfl | ha
        · exact Ordering.isLE_of_eq_eq Std.ReflCmp.compare_self
        · exact List.rel_of_pairwise_cons h ha
      have heq : cmp y z = .eq := Std.OrientedCmp.isLE_antisymm (hle hys (hsame.mem_iff.1 List.mem_cons_self))
        (hle hzs (hsame.mem_iff.2 List.mem_cons_self))
      -- the first elements of the two lists are alike, and so the same
      have hclass := hsame y
      rw [List.filter_cons_of_pos (alike_iff.2 heq), List.filter_cons_of_pos (alike_self y)] at hclass
      obtain ⟨rfl, -⟩ := List.cons.inj hclass
      refine congrArg _ (ih hys.tail hzs.tail fun a => ?_)
      have hrest := hsame a
      rw [List.filter_cons, List.filter_cons] at hrest
      split at hrest
      · exact (List.cons.inj hrest).2
      · exact hrest

/-! ## Insertion -/

/-- An element passes those it comes before, and none of these compares equal to it. -/
theorem insertBack_sorts (x : α) : ∀ {done : List α}, InOrder cmp done.reverse →
    Sorts cmp (done.reverse ++ [x]) (insertBack (before cmp) x done).reverse
  | [], _ => ⟨Keeps.refl _, List.pairwise_singleton _ x⟩
  | y :: done, h => by
    obtain ⟨hy, hdone⟩ := inOrder_reverse_cons.1 h
    unfold insertBack
    cases hxy : before cmp x y with
    | true =>
      rw [if_pos rfl]
      obtain ⟨hkeeps, horder⟩ := insertBack_sorts x hdone
      have hlt : cmp x y = .lt := before_eq_true_iff.1 hxy
      constructor
      · have hpass : Keeps cmp [y, x] [x, y] := Keeps.toFront fun z hz => by
          rw [List.mem_singleton.1 hz, hlt]
          decide
        have hpassed := ((Keeps.refl done.reverse).append hpass).trans
          (List.append_assoc done.reverse [x] [y] ▸ hkeeps.append (Keeps.refl [y]))
        rwa [List.reverse_cons, List.reverse_cons, List.append_assoc]
      · refine inOrder_reverse_cons.2 ⟨fun z hz => ?_, horder⟩
        rcases List.mem_cons.1 ((insertBack_perm _ x done).mem_iff.1 hz) with rfl | hz
        · exact Ordering.isLE_of_eq_lt hlt
        · exact hy z hz
    | false =>
      rw [if_neg Bool.false_ne_true]
      have hyx : (cmp y x).isLE := before_eq_false_iff.1 hxy
      refine ⟨List.reverse_cons ▸ Keeps.refl _, inOrder_reverse_cons.2 ⟨fun z hz => ?_, h⟩⟩
      rcases List.mem_cons.1 hz with rfl | hz
      · exact hyx
      · exact Std.TransCmp.isLE_trans (hy z hz) hyx

theorem sortBack_sorts : ∀ {xs done zs : List α}, Sorts cmp zs done.reverse →
    Sorts cmp (zs ++ xs) (sortBack (before cmp) done xs).reverse
  | [], done, zs, h => by
    rw [List.append_nil]
    exact h
  | x :: xs, done, zs, h => by
    have hx := insertBack_sorts x h.inOrder
    have hfirst : Sorts cmp (zs ++ [x]) (insertBack (before cmp) x done).reverse :=
      ⟨(h.keeps.append (Keeps.refl [x])).trans hx.keeps, hx.inOrder⟩
    rw [List.append_cons]
    exact sortBack_sorts hfirst

/-- **Insertion sorts by every order**, one in which elements may compare equal. -/
theorem insertionSort_sorts (xs : List α) : Sorts cmp xs (insertionSort (before cmp) xs) := by
  have hnil : Sorts cmp [] ([] : List α).reverse := ⟨Keeps.refl [], List.Pairwise.nil⟩
  exact sortBack_sorts hnil

/-! ## Merging -/

theorem merge_sorts (hx : InOrder cmp xs) (hy : InOrder cmp ys) :
    Sorts cmp (xs ++ ys) (xs.merge ys fun x y => !before cmp y x) where
  keeps := by
    clear hy
    induction xs generalizing ys with
    | nil =>
      rw [List.nil_merge]
      exact Keeps.refl ys
    | cons x xs ihx =>
      induction ys with
      | nil =>
        rw [List.merge_right, List.append_nil]
        exact Keeps.refl _
      | cons y ys ihy =>
        cases hyx : before cmp y x with
        | false =>
          rw [List.cons_merge_cons_pos _ _ _ (by rw [hyx]; rfl)]
          exact (Keeps.refl [x]).append (ihx hx.tail)
        | true =>
          rw [List.cons_merge_cons_neg _ _ _ (by rw [hyx]; exact Bool.false_ne_true)]
          have hfront : Keeps cmp (x :: xs ++ [y]) (y :: x :: xs) := Keeps.toFront fun z hz heq => by
            have hlt := before_eq_true_iff.1 hyx
            rcases List.mem_cons.1 hz with rfl | hz
            · rw [hlt] at heq
              cases heq
            · rw [Std.TransCmp.lt_of_lt_of_isLE hlt (List.rel_of_pairwise_cons hx hz)] at heq
              cases heq
          rw [List.append_cons]
          exact (hfront.append (Keeps.refl ys)).trans ((Keeps.refl [y]).append ihy)
  inOrder := by
    have hle : ∀ {a b : α}, (!before cmp b a) = true ↔ (cmp a b).isLE := by
      intro a b
      rw [Bool.not_eq_true', before_eq_false_iff]
    have htotal : ∀ a b, (!before cmp b a || !before cmp a b) = true := fun a b => by
      cases hba : before cmp b a with
      | false => rfl
      | true => rw [before, Std.OrientedCmp.gt_iff_lt.2 (before_eq_true_iff.1 hba)]; rfl
    have htrans : ∀ a b c, (!before cmp b a) = true → (!before cmp c b) = true → (!before cmp c a) = true :=
      fun a b c hab hbc => hle.2 (Std.TransCmp.isLE_trans (hle.1 hab) (hle.1 hbc))
    have hx' : xs.Pairwise fun a b => (!before cmp b a) = true := hx.imp hle.2
    have hy' : ys.Pairwise fun a b => (!before cmp b a) = true := hy.imp hle.2
    exact (List.pairwise_merge htrans htotal xs ys hx' hy').imp hle.1

/-! Seen from the end of a list the order is the opposite one. -/

theorem keeps_opposite (h : Keeps (fun a b => cmp b a) xs ys) : Keeps cmp xs.reverse ys.reverse := fun a => by
  have halike : alike (fun a b => cmp b a) a = alike cmp a := by
    funext b
    rw [Bool.eq_iff_iff, alike_iff, alike_iff, Std.OrientedCmp.eq_comm]
  rw [List.filter_reverse, List.filter_reverse, ← halike, h a]

theorem sorts_opposite (h : Sorts (fun a b => cmp b a) xs ys) : Sorts cmp xs.reverse ys.reverse :=
  ⟨keeps_opposite h.keeps, inOrder_opposite.1 h.inOrder⟩

/-- **Merging from the end comes to the same.** -/
theorem reverse_merge_reverse (hx : InOrder cmp xs) (hy : InOrder cmp ys) :
    (ys.reverse.merge xs.reverse fun y x => !before cmp y x).reverse = xs.merge ys fun x y => !before cmp y x := by
  have hopposite : Std.TransCmp fun a b => cmp b a := Std.TransCmp.opposite
  have hback : Sorts (fun a b => cmp b a) (ys.reverse ++ xs.reverse)
      (ys.reverse.merge xs.reverse fun y x => !before cmp y x) := by
    refine merge_sorts (inOrder_opposite.2 ?_) (inOrder_opposite.2 ?_)
    · rwa [List.reverse_reverse]
    · rwa [List.reverse_reverse]
  have hreverse := sorts_opposite hback
  rw [List.reverse_append, List.reverse_reverse, List.reverse_reverse] at hreverse
  exact hreverse.unique (merge_sorts hx hy)

theorem mergeRuns_sorts (hx : InOrder cmp xs) (hy : InOrder cmp ys) :
    Sorts cmp (xs ++ ys) (merge (before cmp) xs ys) := by
  unfold merge
  split
  · exact merge_sorts hx hy
  · rw [reverse_merge_reverse hx hy]
    exact merge_sorts hx hy

/-! ## Halves -/

theorem sortTwo_sorts (x y : α) : Sorts cmp [x, y] [(sortTwo (before cmp) x y).1, (sortTwo (before cmp) x y).2] := by
  have hinsertion : [(sortTwo (before cmp) x y).1, (sortTwo (before cmp) x y).2] = insertionSort (before cmp) [x, y] := by
    cases hyx : before cmp y x <;> simp [sortTwo, insertionSort, sortBack, insertBack, hyx]
  rw [hinsertion]
  exact insertionSort_sorts _

/-- Four elements are sorted as two pairs are merged. -/
theorem sortFour_eq_merge {v w x y a b c d : α} (hab : sortTwo (before cmp) v w = (a, b))
    (hcd : sortTwo (before cmp) x y = (c, d)) (hle : (cmp a b).isLE) (hle' : (cmp c d).isLE) :
    sortFour (before cmp) v w x y = [a, b].merge [c, d] fun x y => !before cmp y x := by
  have hba : before cmp b a = false := before_eq_false_iff.2 hle
  have hdc : before cmp d c = false := before_eq_false_iff.2 hle'
  unfold sortFour
  rw [hab, hcd]
  cases hca : before cmp c a with
  | false =>
    cases hdb : before cmp d b with
    | false => cases hcb : before cmp c b <;> simp [sortTwo, hca, hdb, hcb]
    | true =>
      have hcb : before cmp c b = true :=
        before_eq_true_iff.2 (Std.TransCmp.lt_of_isLE_of_lt hle' (before_eq_true_iff.1 hdb))
      simp [sortTwo, hca, hdb, hcb, hdc]
  | true =>
    cases hdb : before cmp d b with
    | false =>
      have hda : before cmp d a = false :=
        before_eq_false_iff.2 (Std.TransCmp.isLE_trans hle (before_eq_false_iff.1 hdb))
      simp [sortTwo, hca, hdb, hda, hba]
    | true => cases hda : before cmp d a <;> simp [sortTwo, hca, hdb, hda]

theorem sortFour_sorts (v w x y : α) : Sorts cmp [v, w, x, y] (sortFour (before cmp) v w x y) := by
  obtain ⟨hkeeps, hle⟩ := @sortTwo_sorts α cmp _ v w
  obtain ⟨hkeeps', hle'⟩ := @sortTwo_sorts α cmp _ x y
  have hmerge := merge_sorts hle hle'
  rw [sortFour_eq_merge rfl rfl (List.rel_of_pairwise_cons hle List.mem_cons_self)
    (List.rel_of_pairwise_cons hle' List.mem_cons_self)]
  exact ⟨(hkeeps.append hkeeps').trans hmerge.keeps, hmerge.inOrder⟩

theorem sortHalf_sorts (long : Bool) (xs : List α) : Sorts cmp xs (sortHalf (before cmp) long xs) := by
  unfold sortHalf
  split
  · rename_i v w x y rest
    split
    · have hfour : Sorts cmp [v, w, x, y] (sortFour (before cmp) v w x y).reverse.reverse := by
        rw [List.reverse_reverse]
        exact sortFour_sorts v w x y
      exact sortBack_sorts hfour
    · exact insertionSort_sorts _
  · exact insertionSort_sorts _

/-! ## Both ends at once -/

theorem InOrder.rises (h : InOrder cmp xs) : Rises (before cmp) xs := by
  refine h.imp fun {a b} hab y => ⟨fun hy => ?_, fun hy => ?_⟩
  · exact before_eq_true_iff.2 (Std.TransCmp.lt_of_lt_of_isLE (before_eq_true_iff.1 hy) hab)
  · exact before_eq_true_iff.2 (Std.TransCmp.lt_of_isLE_of_lt hab (before_eq_true_iff.1 hy))

section
variable {less : α → α → Bool} {l₁ l₂ r₁ r₂ m₁ m₂ n₁ n₂ : List α}

theorem exists_mem_of_length_lt (h : l₁ ++ l₂ = m₁ ++ m₂) (hlength : m₁.length < l₁.length) : ∃ x ∈ l₁, x ∈ m₂ := by
  rcases List.append_eq_append_iff.1 h with ⟨a, hm, -⟩ | ⟨a, hl, hm⟩
  · rw [hm, List.length_append] at hlength
    omega
  · cases a with
    | nil => simp [hl] at hlength
    | cons x a => exact ⟨x, by simp [hl], by simp [hm]⟩

/-- **Two cuts at which a merge passes by do not cross**: the one with fewer elements in front has no more of either list
in front. -/
theorem Cut.not_past (h : Cut less l₁ l₂ r₁ r₂) (h' : Cut less m₁ m₂ n₁ n₂) (hleft : l₁ ++ l₂ = m₁ ++ m₂)
    (hright : r₁ ++ r₂ = n₁ ++ n₂) (hlength : l₁.length + r₁.length ≤ m₁.length + n₁.length) :
    l₁.length ≤ m₁.length ∧ r₁.length ≤ n₁.length := by
  constructor
  · by_contra hpast
    obtain ⟨x, hx, hx'⟩ := exists_mem_of_length_lt hleft (by omega)
    obtain ⟨y, hy, hy'⟩ := exists_mem_of_length_lt hright.symm (by omega)
    have hkept := h.left x hx y hy'
    rw [h'.right y hy x hx'] at hkept
    cases hkept
  · by_contra hpast
    obtain ⟨y, hy, hy'⟩ := exists_mem_of_length_lt hright (by omega)
    obtain ⟨x, hx, hx'⟩ := exists_mem_of_length_lt hleft.symm (by omega)
    have hbehind := h.right y hy x hx'
    rw [h'.left x hx y hy'] at hbehind
    cases hbehind

/-- A merge may be done in two parts. -/
theorem Cut.merge_append : ∀ {l₁ r₁ : List α}, Cut less l₁ l₂ r₁ r₂ →
    ((l₁ ++ l₂).merge (r₁ ++ r₂) fun l r => !less r l) =
      (l₁.merge r₁ fun l r => !less r l) ++ l₂.merge r₂ fun l r => !less r l
  | [], [], _ => by rw [List.nil_merge]; rfl
  | [], y :: r₁, h => by
    have hhead : ∀ x ∈ l₂.head?, less y x = true := fun x hx =>
      h.right y List.mem_cons_self x (List.mem_of_mem_head? hx)
    have hrest : Cut less [] l₂ r₁ r₂ := ⟨h.left, fun r hr => h.right r (List.mem_cons_of_mem y hr)⟩
    have hmerge := hrest.merge_append
    rw [List.nil_merge, List.nil_append] at hmerge ⊢
    rw [List.cons_append, merge_cons_of_second (r₁ ++ r₂) hhead, hmerge, List.cons_append]
  | x :: l₁, [], h => by
    have hhead : ∀ y ∈ r₂.head?, less y x = false := fun y hy =>
      h.left x List.mem_cons_self y (List.mem_of_mem_head? hy)
    have hrest : Cut less l₁ l₂ [] r₂ := ⟨fun l hl => h.left l (List.mem_cons_of_mem x hl), h.right⟩
    have hmerge := hrest.merge_append
    rw [List.merge_right, List.nil_append] at hmerge ⊢
    rw [List.cons_append, merge_cons_of_first (l₁ ++ l₂) hhead, hmerge, List.cons_append]
  | x :: l₁, y :: r₁, h => by
    cases hyx : less y x with
    | true =>
      have hrest : Cut less (x :: l₁) l₂ r₁ r₂ := ⟨h.left, fun r hr => h.right r (List.mem_cons_of_mem y hr)⟩
      have hhead : ∀ z ∈ (x :: l₁).head?, less y z = true := fun z hz => Option.some.inj hz ▸ hyx
      rw [merge_cons_of_second r₁ hhead, List.cons_append, List.cons_append, List.cons_append, ← hrest.merge_append]
      exact merge_cons_of_second (r₁ ++ r₂) hhead
    | false =>
      have hrest : Cut less l₁ l₂ (y :: r₁) r₂ := ⟨fun l hl => h.left l (List.mem_cons_of_mem x hl), h.right⟩
      have hhead : ∀ z ∈ (y :: r₁).head?, less z x = false := fun z hz => Option.some.inj hz ▸ hyx
      rw [merge_cons_of_first l₁ hhead, List.cons_append, List.cons_append, List.cons_append, ← hrest.merge_append]
      exact merge_cons_of_first (l₁ ++ l₂) hhead

end

/-- What is left between two fronts of a merge is one element at most. -/
theorem merge_of_few {a b : List α} {le : α → α → Bool} (h : a.length + b.length ≤ 1) : a.merge b le = a ++ b := by
  cases a with
  | nil => exact List.nil_merge b
  | cons x a =>
    cases b with
    | nil => rw [List.merge_right, List.append_nil]
    | cons y b =>
      rw [List.length_cons, List.length_cons] at h
      omega

/-- **By an order the merge from both ends meets in the middle**, and sorts. -/
theorem mergeEnds_sorts {left right : List α} (hleft : InOrder cmp left) (hright : InOrder cmp right)
    (hlength : left.length ≤ right.length) (hmost : right.length ≤ left.length + 1) :
    ∃ ys, mergeEnds (before cmp) left right = some ys ∧ Sorts cmp (left ++ right) ys := by
  obtain ⟨l₁, l₂, r₁, r₂, m₁, m₂, n₁, n₂, hl, hr, hm, hn, hfront, hback, hcuts, hends⟩ :=
    mergeEnds_split (before cmp) hlength
  obtain ⟨hcut, hcut'⟩ := hcuts hleft.rises hright.rises
  have hlengths : l₁.length + l₂.length = left.length ∧ r₁.length + r₂.length = right.length ∧
      m₁.length + m₂.length = left.length ∧ n₁.length + n₂.length = right.length :=
    ⟨by rw [hl, List.length_append], by rw [hr, List.length_append], by rw [hm, List.length_append],
      by rw [hn, List.length_append]⟩
  obtain ⟨hpast, hpast'⟩ := hcut.not_past hcut' (hl.symm.trans hm) (hr.symm.trans hn) (by omega)
  obtain ⟨a, hm₁, hl₂⟩ := exists_between hl hm (by omega)
  obtain ⟨b, hn₁, hr₂⟩ := exists_between hr hn (by omega)
  have hfew : a.length + b.length ≤ 1 := by
    rw [hm₁, hn₁, List.length_append, List.length_append] at hlengths
    omega
  rw [if_neg (by omega), take_between hl hm₁ hl₂, take_between hr hn₁ hr₂] at hends
  refine ⟨_, hends, ?_⟩
  have hsorted : InOrder cmp m₂ ∧ InOrder cmp n₂ := ⟨(List.pairwise_append.1 (hm ▸ hleft)).2.1,
    (List.pairwise_append.1 (hn ▸ hright)).2.1⟩
  have hwhole : (left.merge right fun l r => !before cmp r l) =
      (l₁.merge r₁ fun l r => !before cmp r l) ++ (a ++ b) ++ m₂.merge n₂ fun l r => !before cmp r l := by
    have hfirst : Cut (before cmp) l₁ a r₁ b :=
      ⟨fun l hl r hr => hcut.left l hl r (hr₂ ▸ List.mem_append_left _ hr),
        fun r hr l hl => hcut.right r hr l (hl₂ ▸ List.mem_append_left _ hl)⟩
    rw [hm, hn, hcut'.merge_append, hm₁, hn₁, hfirst.merge_append, merge_of_few hfew]
  rw [reverse_merge_reverse hsorted.1 hsorted.2, ← hwhole]
  exact merge_sorts hleft hright

theorem smallSort_sorts (xs : List α) : ∃ ys, smallSort (before cmp) xs = some ys ∧ Sorts cmp xs ys := by
  have hsmall : ∀ half, Sorts cmp half (sortHalf (before cmp) (decide (8 ≤ xs.length)) half) := sortHalf_sorts _
  have hlength : ∀ half, (sortHalf (before cmp) (decide (8 ≤ xs.length)) half).length = half.length := fun half =>
    (sortHalf_perm (before cmp) _ half).length_eq
  obtain ⟨ys, hys, hsorts⟩ := mergeEnds_sorts (hsmall (xs.take (xs.length / 2))).inOrder
    (hsmall (xs.drop (xs.length / 2))).inOrder
    (by rw [hlength, hlength, List.length_take, List.length_drop]; omega)
    (by rw [hlength, hlength, List.length_take, List.length_drop]; omega)
  refine ⟨ys, hys, ?_, hsorts.inOrder⟩
  have hhalves := (hsmall (xs.take (xs.length / 2))).keeps.append (hsmall (xs.drop (xs.length / 2))).keeps
  rw [List.take_append_drop] at hhalves
  exact hhalves.trans hsorts.keeps

end RecordService.Sorting
