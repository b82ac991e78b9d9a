import Mathlib.Algebra.Order.BigOperators.Group.List
import Mathlib.Algebra.Order.Ring.Nat
import RecordService.Regex.Size
/-!
# The size of sets

One character is read by a chain of octets (`setSize_single`).  For a larger set the states are found by sorting, which
leaves out those that were there before: what they take is at most what all of them would (`forwardSize_le`), which can be
added up without sorting, as it is for the set of every character (`setSize_all_le`).
-/
namespace RecordService

namespace Regex

theorem eraseReps_sublist {α : Type} [BEq α] (l : List α) : l.eraseReps.Sublist l := by
  have hloop : ∀ (as : List α) (a : α) (kept : List α),
      (List.eraseRepsBy.loop (· == ·) a as kept).Sublist (kept.reverse ++ a :: as) := by
    intro as
    induction as with
    | nil =>
      intro a kept
      rw [List.eraseRepsBy.loop, List.reverse_cons]
    | cons b as ih =>
      intro a kept
      rw [List.eraseRepsBy.loop]
      split
      · exact (ih a kept).trans (((List.sublist_cons_self b as).cons_cons a).append_left _)
      · have h := ih b (a :: kept)
        rw [List.reverse_cons, List.append_assoc] at h
        exact h
  cases l with
  | nil => exact .refl []
  | cons a as => exact hloop as a []

theorem foldl_add_eq {α : Type} (f : α → Nat) : ∀ (l : List α) (start : Nat),
    l.foldl (fun total a => total + f a) start = start + (l.map f).sum
  | [], _ => rfl
  | a :: l, start => by rw [List.foldl_cons, foldl_add_eq f l, List.map_cons, List.sum_cons, Nat.add_assoc]

/-- The states that are found take at least what they take put together. -/
theorem forwardSize_le (sequences : List (List (Nat × Nat))) :
    forwardSize sequences ≤ 32 + ((statesOf 5 sequences).map fun s => 32 + 8 * (byFirst s).length).sum := by
  unfold forwardSize
  dsimp only
  rw [foldl_add_eq fun s : List Nat × Nat => 32 + 8 * s.2]
  refine Nat.add_le_add_left ?_ 32
  refine (((eraseReps_sublist _).map _).sum_le_sum fun _ _ => Nat.zero_le _).trans (Nat.le_of_eq ?_)
  rw [((List.mergeSort_perm _ _).map _).sum_eq, List.map_map]
  rfl

/-- The set of every character. -/
theorem setSize_all_le : (setSize .all).forward ≤ 856 ∧ (setSize .all).backward ≤ 964 := by
  have hsum : ((statesOf 5 (sequencesOf .all)).map fun s => 32 + 8 * (byFirst s).length).sum ≤ 824 := by decide
  have hforward : (setSize .all).forward = forwardSize (sequencesOf .all) := rfl
  have hbackward : (setSize .all).backward ≤ 964 := by decide
  have hle := forwardSize_le (sequencesOf .all)
  omega

theorem setSize_single (c : Char) : setSize (.single c) = .same (32 * c.utf8Size) := by
  have hranges : (CharSet.single c).ranges = [(c.toNat, c.toNat)] := by
    simp [CharSet.single, CharSet.range, CharSet.ranges, CharSet.ranges.pairUp]
  unfold setSize
  rw [hranges]
  simp [Char.ofNat_toNat]

end Regex

end RecordService
