import RecordService.Sorting.Quick
/-!
# What sorting does to the elements, whatever the test

An element enters the sorted ones in one place, and a merge takes the elements of both lists one by one.  So nothing that
is done to a few elements loses one or adds one, be the test an order or not.  For the merge from both ends this rests on
what it takes from either end: the merge of two fronts (`mergeFront_split`).
-/
namespace RecordService.Sorting

variable {α : Type} (less : α → α → Bool)

/-! ## Insertion -/

theorem insertBack_perm (x : α) : ∀ ys : List α, (insertBack less x ys).Perm (x :: ys)
  | [] => List.Perm.refl _
  | y :: ys => by
    unfold insertBack
    split
    · exact ((insertBack_perm x ys).cons y).trans (List.Perm.swap x y ys)
    · exact List.Perm.refl _

theorem sortBack_perm : ∀ xs done : List α, (sortBack less done xs).Perm (xs ++ done)
  | [], _ => List.Perm.refl _
  | x :: xs, done => by
    unfold sortBack
    have hdone : (xs ++ insertBack less x done).Perm (xs ++ x :: done) :=
      (insertBack_perm less x done).append_left xs
    exact ((sortBack_perm xs _).trans hdone).trans List.perm_middle

theorem insertionSort_perm (xs : List α) : (insertionSort less xs).Perm xs := by
  have h := sortBack_perm less xs []
  rw [List.append_nil] at h
  exact (List.reverse_perm _).trans h

/-! ## Halves -/

theorem sortTwo_perm (x y : α) : [(sortTwo less x y).1, (sortTwo less x y).2].Perm [x, y] := by
  unfold sortTwo
  split
  · exact List.Perm.swap x y []
  · exact List.Perm.refl _

theorem sortFour_perm (v w x y : α) : (sortFour less v w x y).Perm [v, w, x, y] := by
  have hpairs : [(sortTwo less v w).1, (sortTwo less v w).2, (sortTwo less x y).1, (sortTwo less x y).2].Perm [v, w, x, y] :=
    (sortTwo_perm less v w).append (sortTwo_perm less x y)
  refine List.Perm.trans ?_ hpairs
  unfold sortFour
  generalize sortTwo less v w = p
  generalize sortTwo less x y = q
  obtain ⟨a, b⟩ := p
  obtain ⟨c, d⟩ := q
  dsimp only
  -- the two that are left are the ones that are neither first nor last
  refine List.Perm.trans (((sortTwo_perm less _ _).append_right _).cons _) ?_
  have hback : ([c, d] ++ [b]).Perm ([b] ++ [c, d]) := List.perm_append_comm
  have hfront : ([c] ++ [a, b]).Perm ([a, b] ++ [c]) := List.perm_append_comm
  cases less c a
  · cases less d b
    · exact List.Perm.refl _
    · exact hback.cons a
  · cases less d b
    · exact hfront.append_right [d]
    · exact (List.Perm.swap a c [d, b]).trans (hback.cons a)

theorem sortHalf_perm (long : Bool) (xs : List α) : (sortHalf less long xs).Perm xs := by
  unfold sortHalf
  split
  · rename_i v w x y rest
    split
    · have hfour : (rest ++ (sortFour less v w x y).reverse).Perm (rest ++ [v, w, x, y]) :=
        ((List.reverse_perm _).trans (sortFour_perm less v w x y)).append_left rest
      exact (List.reverse_perm _).trans (((sortBack_perm less rest _).trans hfour).trans List.perm_append_comm)
    · exact insertionSort_perm less _
  · exact insertionSort_perm less _

/-! ## Merging from both ends -/

/-- Two lists are cut where a merge passes by: of what is left, nothing goes before what was taken. -/
structure Cut (less : α → α → Bool) (left₁ left₂ right₁ right₂ : List α) : Prop where
  left : ∀ l ∈ left₁, ∀ r ∈ right₂, less r l = false
  right : ∀ r ∈ right₁, ∀ l ∈ left₂, less r l = true

/-- Whatever comes before an element comes before those behind it, and they come before nothing that it does not. -/
def Rises (less : α → α → Bool) (xs : List α) : Prop :=
  xs.Pairwise fun a b => ∀ y, (less y a = true → less y b = true) ∧ (less b y = true → less a y = true)

theorem merge_cons_of_second {second : α → α → Bool} {xs : List α} {y : α} (ys : List α)
    (h : ∀ x ∈ xs.head?, second x y = true) :
    (xs.merge (y :: ys) fun x y => !second x y) = y :: xs.merge ys fun x y => !second x y := by
  cases xs with
  | nil => rw [List.nil_merge, List.nil_merge]
  | cons x xs => exact List.cons_merge_cons_neg _ _ _ (by rw [h x rfl]; exact Bool.false_ne_true)

theorem merge_cons_of_first {second : α → α → Bool} {ys : List α} {x : α} (xs : List α)
    (h : ∀ y ∈ ys.head?, second x y = false) :
    ((x :: xs).merge ys fun x y => !second x y) = x :: xs.merge ys fun x y => !second x y := by
  cases ys with
  | nil => rw [List.merge_right, List.merge_right]
  | cons y ys => exact List.cons_merge_cons_pos _ _ _ (by rw [h y rfl]; rfl)

theorem eq_of_mem_head? {x z : α} {xs xs₁ xs₂ : List α} (h : x :: xs = xs₁ ++ xs₂) (hz : z ∈ xs₁.head?) : z = x := by
  cases xs₁ with
  | nil => cases hz
  | cons y xs₁ => exact (Option.some.inj hz).symm.trans (List.cons.inj h).1.symm

/-- What holds of the head, and of all that is behind it, holds of what is left of the list. -/
theorem forall_mem_left {R : α → α → Prop} {P : α → Prop} {x : α} {xs xs₁ xs₂ : List α} (h : x :: xs = xs₁ ++ xs₂)
    (hrises : (x :: xs).Pairwise R) (hx : P x) (hbehind : ∀ z, R x z → P z) : ∀ z ∈ xs₂, P z := by
  intro z hz
  have hmem : z ∈ x :: xs := by
    rw [h]
    exact List.mem_append_right _ hz
  rcases List.mem_cons.1 hmem with rfl | hmem
  · exact hx
  · exact hbehind z (List.rel_of_pairwise_cons hrises hmem)

/-- **The front of a merge is the merge of two fronts**, cut off where the merge passes by if the lists rise. -/
theorem mergeFront_split (second : α → α → Bool) : ∀ (n : Nat) (xs ys : List α), n ≤ xs.length → n ≤ ys.length →
    ∃ xs₁ ys₁, xs = xs₁ ++ (mergeFront second n xs ys).2.1 ∧ ys = ys₁ ++ (mergeFront second n xs ys).2.2 ∧
      xs₁.length + ys₁.length = n ∧ ((mergeFront second n xs ys).1 = xs₁.merge ys₁ fun x y => !second x y) ∧
      (xs.Pairwise (fun a b => ∀ y, second a y = true → second b y = true) →
        ys.Pairwise (fun a b => ∀ x, second x b = true → second x a = true) →
        Cut (fun y x => second x y) xs₁ (mergeFront second n xs ys).2.1 ys₁ (mergeFront second n xs ys).2.2)
  | 0, xs, ys, _, _ => by
    unfold mergeFront
    exact ⟨[], [], rfl, rfl, rfl, (List.nil_merge _).symm, fun _ _ => ⟨nofun, nofun⟩⟩
  | n + 1, [], _, hx, _ => absurd hx (Nat.not_succ_le_zero n)
  | n + 1, _ :: _, [], _, hy => absurd hy (Nat.not_succ_le_zero n)
  | n + 1, x :: xs, y :: ys, hx, hy => by
    rw [mergeFront]
    cases hxy : second x y with
    | true =>
      obtain ⟨xs₁, ys₁, hxs, hys, hlength, hfront, hcut⟩ :=
        mergeFront_split second n (x :: xs) ys (Nat.le_of_succ_le hx) (Nat.le_of_succ_le_succ hy)
      refine ⟨xs₁, y :: ys₁, hxs, congrArg (y :: ·) hys, congrArg Nat.succ hlength, ?_, fun hfirst hsecond => ?_⟩
      · have hhead : ∀ z ∈ xs₁.head?, second z y = true := fun z hz => eq_of_mem_head? hxs hz ▸ hxy
        rw [merge_cons_of_second ys₁ hhead, ← hfront]
        rfl
      · obtain ⟨hkept, hbehind⟩ := hcut hfirst hsecond.tail
        refine ⟨hkept, fun z hz w hw => ?_⟩
        rcases List.mem_cons.1 hz with rfl | hz
        · -- `z` goes before `x`, and so before all that is behind it
          exact forall_mem_left hxs hfirst hxy (fun w hxw => hxw z hxy) w hw
        · exact hbehind z hz w hw
    | false =>
      obtain ⟨xs₁, ys₁, hxs, hys, hlength, hfront, hcut⟩ :=
        mergeFront_split second n xs (y :: ys) (Nat.le_of_succ_le_succ hx) (Nat.le_of_succ_le hy)
      refine ⟨x :: xs₁, ys₁, congrArg (x :: ·) hxs, hys, ?_, ?_, fun hfirst hsecond => ?_⟩
      · rw [List.length_cons, Nat.succ_add, hlength]
      · have hhead : ∀ z ∈ ys₁.head?, second x z = false := fun z hz => eq_of_mem_head? hys hz ▸ hxy
        rw [merge_cons_of_first xs₁ hhead, ← hfront]
        rfl
      · obtain ⟨hkept, hbehind⟩ := hcut hfirst.tail hsecond
        refine ⟨fun z hz w hw => ?_, hbehind⟩
        rcases List.mem_cons.1 hz with rfl | hz
        · have hbehind' : ∀ w, (∀ v, second v w = true → second v y = true) → second z w = false := fun w hyw =>
            Bool.eq_false_iff.2 fun hzw => Bool.eq_false_iff.1 hxy (hyw z hzw)
          exact forall_mem_left hys hsecond hxy hbehind' w hw
        · exact hkept z hz w hw

/-- What is taken of the lists from the front, and what from the back; and how the two parts are put together. -/
theorem mergeEnds_split {left right : List α} (hlength : left.length ≤ right.length) :
    ∃ l₁ l₂ r₁ r₂ m₁ m₂ n₁ n₂, left = l₁ ++ l₂ ∧ right = r₁ ++ r₂ ∧ left = m₁ ++ m₂ ∧ right = n₁ ++ n₂ ∧
      l₁.length + r₁.length = left.length ∧ m₂.length + n₂.length = left.length ∧
      (Rises less left → Rises less right → Cut less l₁ l₂ r₁ r₂ ∧ Cut less m₁ m₂ n₁ n₂) ∧
      mergeEnds less left right =
        if l₂.length + m₁.length < left.length ∨ r₂.length + n₁.length < right.length then none
        else some ((l₁.merge r₁ fun l r => !less r l) ++ (l₂.take (l₂.length + m₁.length - left.length) ++
          r₂.take (r₂.length + n₁.length - right.length)) ++
            (n₂.reverse.merge m₂.reverse fun r l => !less r l).reverse) := by
  obtain ⟨l₁, r₁, hl, hr, htaken, hfront, hcut⟩ :=
    mergeFront_split (fun l r => less r l) left.length left right (Nat.le_refl _) hlength
  obtain ⟨n₂, m₂, hn, hm, htaken', hback, hcut'⟩ := mergeFront_split less left.length right.reverse left.reverse
    (by rwa [List.length_reverse]) (Nat.le_of_eq List.length_reverse.symm)
  unfold mergeEnds
  generalize mergeFront (fun l r => less r l) left.length left right = front at *
  generalize mergeFront less left.length right.reverse left.reverse = back at *
  obtain ⟨front, l₂, r₂⟩ := front
  obtain ⟨back, n₁, m₁⟩ := back
  refine ⟨l₁, l₂, r₁, r₂, m₁.reverse, m₂.reverse, n₁.reverse, n₂.reverse, hl, hr, ?_, ?_, htaken, ?_, ?_, ?_⟩
  · rw [← List.reverse_append, ← hm, List.reverse_reverse]
  · rw [← List.reverse_append, ← hn, List.reverse_reverse]
  · rw [List.length_reverse, List.length_reverse, Nat.add_comm, htaken']
  · intro hleft hright
    refine ⟨hcut (hleft.imp fun h y => (h y).1) (hright.imp fun h x => (h x).2), ?_⟩
    obtain ⟨hkept, hbehind⟩ := hcut' (List.pairwise_reverse.2 (hright.imp fun h y => (h y).2))
      (List.pairwise_reverse.2 (hleft.imp fun h x => (h x).1))
    constructor
    · intro l hl r hr
      exact hkept r (List.mem_reverse.1 hr) l (List.mem_reverse.1 hl)
    · intro r hr l hl
      exact hbehind l (List.mem_reverse.1 hl) r (List.mem_reverse.1 hr)
  · rw [List.reverse_reverse, List.reverse_reverse, List.length_reverse, List.length_reverse, ← hfront, ← hback]

/-- Where a list is cut twice and the first part of one cut does not reach into the second part of the other, there is
something between them, or nothing. -/
theorem exists_between {xs xs₁ xs₂ ys₁ ys₂ : List α} (hx : xs = xs₁ ++ xs₂) (hy : xs = ys₁ ++ ys₂)
    (h : ¬ xs₂.length + ys₁.length < xs.length) :
    ∃ between, ys₁ = xs₁ ++ between ∧ xs₂ = between ++ ys₂ := by
  subst hx
  rcases List.append_eq_append_iff.1 hy with hbetween | ⟨overlap, hxs, hys⟩
  · exact hbetween
  · have hnone : overlap = [] := by
      rw [List.length_append, hxs, List.length_append] at h
      exact List.length_eq_zero_iff.1 (by omega)
    subst hnone
    exact ⟨[], by rw [hxs, List.append_nil, List.append_nil], by rw [hys, List.nil_append, List.nil_append]⟩

theorem take_between {xs xs₁ xs₂ ys₁ ys₂ between : List α} (hx : xs = xs₁ ++ xs₂) (hfirst : ys₁ = xs₁ ++ between)
    (hsecond : xs₂ = between ++ ys₂) : xs₂.take (xs₂.length + ys₁.length - xs.length) = between := by
  have hlength : xs₂.length + ys₁.length - xs.length = between.length := by
    rw [hx, hfirst, List.length_append, List.length_append]
    omega
  rw [hlength, hsecond, List.take_left]

theorem mergeEnds_perm {left right ys : List α} (hlength : left.length ≤ right.length)
    (h : mergeEnds less left right = some ys) : ys.Perm (left ++ right) := by
  obtain ⟨l₁, l₂, r₁, r₂, m₁, m₂, n₁, n₂, hl, hr, hm, hn, -, -, -, hends⟩ := mergeEnds_split less hlength
  rw [hends] at h
  split at h
  · cases h
  · rename_i hmeet
    obtain ⟨hleft, hright⟩ := not_or.1 hmeet
    obtain ⟨a, hm₁, hl₂⟩ := exists_between hl hm hleft
    obtain ⟨b, hn₁, hr₂⟩ := exists_between hr hn hright
    rw [take_between hl hm₁ hl₂, take_between hr hn₁ hr₂] at h
    obtain rfl := Option.some.inj h
    have hfront : (l₁.merge r₁ fun l r => !less r l).Perm (l₁ ++ r₁) := List.merge_perm_append _
    have hback : (n₂.reverse.merge m₂.reverse fun r l => !less r l).reverse.Perm (m₂ ++ n₂) := by
      refine (List.reverse_perm _).trans ((List.merge_perm_append _).trans ?_)
      exact ((List.reverse_perm _).append (List.reverse_perm _)).trans List.perm_append_comm
    have hends : ((l₁ ++ r₁) ++ (a ++ b) ++ (m₂ ++ n₂)).Perm ((l₁ ++ (a ++ m₂)) ++ (r₁ ++ (b ++ n₂))) := by
      classical
      refine List.perm_iff_count.2 fun x => ?_
      simp only [List.count_append]
      omega
    rw [hl, hr, hl₂, hr₂]
    exact ((hfront.append_right _).append hback).trans hends

theorem smallSort_perm {xs ys : List α} (h : smallSort less xs = some ys) : ys.Perm xs := by
  unfold smallSort at h
  have hlength : (sortHalf less (decide (8 ≤ xs.length)) (xs.take (xs.length / 2))).length ≤
      (sortHalf less (decide (8 ≤ xs.length)) (xs.drop (xs.length / 2))).length := by
    rw [(sortHalf_perm less _ _).length_eq, (sortHalf_perm less _ _).length_eq, List.length_take, List.length_drop]
    omega
  refine (mergeEnds_perm less hlength h).trans ?_
  have hhalves := (sortHalf_perm less (decide (8 ≤ xs.length)) (xs.take (xs.length / 2))).append
    (sortHalf_perm less (decide (8 ≤ xs.length)) (xs.drop (xs.length / 2)))
  rwa [List.take_append_drop] at hhalves

end RecordService.Sorting
