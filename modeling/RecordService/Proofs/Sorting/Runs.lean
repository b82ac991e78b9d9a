import RecordService.Proofs.Sorting.Stable
/-!
# Sorting by runs, whatever is demanded

Runs are cut, joined along the tree and settled in the same way whatever the test is.  What comes of it is told once for
every demand on a sort (`Demand`): every run stands for a stretch of the list (`Demand.Fits`), the runs on the stack for
what is in front of the last one (`Demand.Stacked`), and a join keeps that so.  So sorting by runs meets each demand that
merging, and sorting what is not sorted yet, meet (`Demand.sortRuns_met`).
-/
namespace RecordService.Sorting

variable {α : Type}

/-- What is demanded of a sort: how its answer may differ from the list, what order the answer is in, and whether it may
break off. -/
structure Demand (α : Type) where
  moves : List α → List α → Prop
  inOrder : List α → Prop
  mayBreak : Prop

namespace Demand

/-- Moving is done in steps and in parts, and fronts and merges meet the demand. -/
structure Lawful (d : Demand α) (less : α → α → Bool) : Prop where
  refl : ∀ xs, d.moves xs xs
  trans : ∀ {xs ys zs}, d.moves xs ys → d.moves ys zs → d.moves xs zs
  append : ∀ {xs ys xs' ys'}, d.moves xs ys → d.moves xs' ys' → d.moves (xs ++ xs') (ys ++ ys')
  nil : d.inOrder []
  front : ∀ x xs, ∃ ys, x :: xs = ys ++ (sortedFront less x xs).2 ∧ d.moves ys (sortedFront less x xs).1 ∧
    d.inOrder (sortedFront less x xs).1
  merge : ∀ {xs ys}, d.inOrder xs → d.inOrder ys → d.moves (xs ++ ys) (merge less xs ys) ∧ d.inOrder (merge less xs ys)

variable {β γ : Type} {d : Demand α} {less : α → α → Bool}

/-- What comes of a step that may break off. -/
def Yields (d : Demand α) (P : β → Prop) : Option β → Prop
  | some b => P b
  | none => d.mayBreak

theorem Yields.bind {P : β → Prop} {Q : γ → Prop} {o : Option β} {f : β → Option γ} (h : d.Yields P o)
    (hf : ∀ b, P b → d.Yields Q (f b)) : d.Yields Q (o.bind f) := by
  cases o with
  | none => exact h
  | some b => exact hf b h

theorem Yields.map {P : β → Prop} {Q : γ → Prop} {o : Option β} {f : β → γ} (h : d.Yields P o)
    (hf : ∀ b, P b → Q (f b)) : d.Yields Q (o.map f) := by
  cases o with
  | none => exact h
  | some b => exact hf b h

/-- A sort that meets the demand. -/
def Met (d : Demand α) (sort : List α → Option (List α)) : Prop :=
  ∀ xs, d.Yields (fun ys => d.moves xs ys ∧ d.inOrder ys) (sort xs)

/-! ## Runs -/

/-- A run stands for a stretch of the list. -/
structure Fits (d : Demand α) (xs : List α) (run : Run α) : Prop where
  moves : d.moves xs run.items
  inOrder : run.sorted = true → d.inOrder run.items

/-- Runs stand for a list, one after the other. -/
inductive Cover (d : Demand α) : List α → List (Run α) → Prop where
  | nil : Cover d [] []
  | cons {xs ys : List α} {run : Run α} {rest : List (Run α)} (hrun : d.Fits xs run) (hrest : Cover d ys rest) :
    Cover d (xs ++ ys) (run :: rest)

variable {sort : List α → Option (List α)} {xs ys zs : List α} {run left right : Run α}

theorem nextRun_fits (hd : d.Lawful less) (enough size : Nat) (x : α) (xs : List α) :
    ∃ ys, x :: xs = ys ++ (nextRun less enough size x xs).2 ∧ d.Fits ys (nextRun less enough size x xs).1 := by
  unfold nextRun
  dsimp only
  split
  · obtain ⟨ys, hxs, hmoves, horder⟩ := hd.front x xs
    exact ⟨ys, hxs, hmoves, fun _ => horder⟩
  · exact ⟨x :: xs.take (size - 1), by rw [List.cons_append, List.take_append_drop], hd.refl _, nofun⟩

theorem cutRuns_cover (hd : d.Lawful less) (enough size : Nat) (xs : List α) :
    d.Cover xs (cutRuns less enough size xs) := by
  induction xs using cutRuns.induct less enough size with
  | case1 =>
    rw [cutRuns]
    exact .nil
  | case2 x xs ih =>
    obtain ⟨ys, hxs, hfits⟩ := nextRun_fits hd enough size x xs
    rw [cutRuns, hxs]
    exact .cons hfits ih

theorem settle_yields (hd : d.Lawful less) (hsort : d.Met sort) (h : d.Fits xs run) :
    d.Yields (fun ys => d.moves xs ys ∧ d.inOrder ys) (run.settle sort) := by
  unfold Run.settle
  split
  · rename_i hsorted
    exact ⟨h.moves, h.inOrder hsorted⟩
  · have hrun := hsort run.items
    cases hsome : sort run.items with
    | none => rwa [hsome] at hrun
    | some ys =>
      rw [hsome] at hrun
      exact ⟨hd.trans h.moves hrun.1, hrun.2⟩

theorem join_yields (hd : d.Lawful less) (hsort : d.Met sort) (room : Nat) (hleft : d.Fits xs left)
    (hright : d.Fits ys right) : d.Yields (d.Fits (xs ++ ys)) (Run.join less sort room left right) := by
  unfold Run.join
  split
  · refine (settle_yields hd hsort hleft).bind fun ls hls => (settle_yields hd hsort hright).bind fun rs hrs => ?_
    obtain ⟨hmoves, horder⟩ := hd.merge hls.2 hrs.2
    exact ⟨hd.trans (hd.append hls.1 hrs.1) hmoves, fun _ => horder⟩
  · exact ⟨hd.append hleft.moves hright.moves, nofun⟩

/-- The runs on the stack stand for what is in front of the last run. -/
inductive Stacked (d : Demand α) : List α → List (Run α × Nat) → Prop where
  | nil : Stacked d [] []
  | push {xs ys : List α} {run : Run α} {border : Nat} {stack : List (Run α × Nat)} (hstack : Stacked d xs stack)
    (hrun : d.Fits ys run) : Stacked d (xs ++ ys) ((run, border) :: stack)

section
variable {join : Run α → Run α → Option (Run α)}
  (hjoin : ∀ {xs ys left right}, d.Fits xs left → d.Fits ys right → d.Yields (d.Fits (xs ++ ys)) (join left right))
include hjoin

theorem collapse_yields (depth : Nat) {stack : List (Run α × Nat)} (hstack : d.Stacked xs stack) :
    ∀ {ys : List α} {run : Run α}, d.Fits ys run →
      d.Yields (fun rest => (∃ xs' ys', xs ++ ys = xs' ++ ys' ∧ d.Stacked xs' rest.1 ∧ d.Fits ys' rest.2) ∧
        (depth = 0 → rest.1 = [])) (collapse join depth stack run) := by
  induction hstack with
  | nil => exact fun hrun => ⟨⟨[], _, rfl, .nil, hrun⟩, fun _ => rfl⟩
  | push hstack hleft ih =>
    intro ys run hrun
    unfold collapse
    split
    · refine (hjoin hleft hrun).bind fun joined hjoined => ?_
      rw [List.append_assoc]
      exact ih hjoined
    · rename_i hdeep
      exact ⟨⟨_, _, rfl, .push hstack hleft, hrun⟩, fun hzero => absurd (hzero ▸ Nat.zero_le _) hdeep⟩

theorem joinRuns_yields (length : Nat) {rest : List (Run α)} (hrest : d.Cover zs rest) :
    ∀ {xs ys : List α} {stack : List (Run α × Nat)} {start : Nat} {run : Run α}, d.Stacked xs stack → d.Fits ys run →
      d.Yields (d.Fits (xs ++ (ys ++ zs))) (joinRuns join length stack start run rest) := by
  induction hrest with
  | nil =>
    intro xs ys stack start run hstack hrun
    refine (collapse_yields hjoin 0 hstack hrun).map fun rest hcollapsed => ?_
    obtain ⟨⟨xs', ys', hxs, hstack', hrun'⟩, hnone⟩ := hcollapsed
    rw [hnone rfl] at hstack'
    cases hstack'
    rw [List.append_nil, hxs]
    exact hrun'
  | cons hnext _ ih =>
    intro xs ys stack start run hstack hrun
    refine (collapse_yields hjoin _ hstack hrun).bind fun rest hcollapsed => ?_
    obtain ⟨⟨xs', ys', hxs, hstack', hrun'⟩, -⟩ := hcollapsed
    rw [← List.append_assoc, hxs]
    exact ih (.push hstack' hrun') hnext

end

theorem settleAll_yields (hd : d.Lawful less) (hsort : d.Met sort) {runs : List (Run α)} (h : d.Cover xs runs) :
    d.Yields (d.Cover xs) (settleAll sort runs) := by
  unfold settleAll
  induction h with
  | nil => exact .nil
  | @cons xs _ run _ hrun _ ih =>
    rw [List.mapM_cons]
    have hsettled : d.Yields (d.Fits xs) ((run.settle sort).map (Run.mk · true)) :=
      (settle_yields hd hsort hrun).map fun _ h => ⟨h.1, fun _ => h.2⟩
    exact hsettled.bind fun _ hfirst => ih.bind fun _ hothers => .cons hfirst hothers

theorem firstRuns_yields (hd : d.Lawful less) (hsort : d.Met sort) (eager : Bool) (xs : List α) :
    d.Yields (d.Cover xs) (firstRuns less eager sort xs) := by
  cases eager with
  | true => exact settleAll_yields hd hsort (cutRuns_cover hd _ 32 xs)
  | false => exact cutRuns_cover hd _ _ xs

/-- **Sorting by runs meets every demand that its parts meet.** -/
theorem sortRuns_met (hd : d.Lawful less) (hsort : d.Met sort) (eager : Bool) : d.Met (sortRuns less eager sort) := by
  intro xs
  refine (firstRuns_yields hd hsort eager xs).bind fun runs hcover => ?_
  cases hcover with
  | nil => exact ⟨hd.refl [], hd.nil⟩
  | cons hrun hrest =>
    exact Yields.bind (joinRuns_yields (join_yields hd hsort _) _ hrest .nil hrun) fun whole hwhole =>
      settle_yields hd hsort hwhole

end Demand

end RecordService.Sorting
