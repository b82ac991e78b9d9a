import RecordService.Proofs.Sorting.Quick
import RecordService.Store.Sort
/-!
# Sorting only moves rows

Whatever the columns hold, the sorted rows are the rows of the list (`OrderBy.sortRows_perm`).  There are such rows when
the list is short, and when the rows are ordered (`OrderBy.sortRows_of_transCmp`).
-/
namespace RecordService.OrderBy

variable {orderBy : List OrderBy} {rows sorted : List Row}

theorem sortRows_perm (h : sortRows orderBy rows = some sorted) : sorted.Perm rows := by
  unfold sortRows at h
  split at h
  · rw [Option.some.inj h]
  · obtain ⟨attached, hsort, rfl⟩ := Option.map_eq_some_iff.1 h
    have hperm := (Sorting.sort_perm _ hsort).map Subtype.val
    rwa [List.attach_map_subtype_val] at hperm

theorem sortRows_of_length_le (orderBy : List OrderBy) (h : rows.length ≤ 20) :
    ∃ sorted, sortRows orderBy rows = some sorted := by
  unfold sortRows
  split
  · exact ⟨rows, rfl⟩
  · exact ⟨_, congrArg (Option.map _) (Sorting.sort_of_length_le _ (List.length_attach.trans_le h))⟩

/-- **Rows that are ordered come sorted.** -/
theorem sortRows_of_transCmp
    (h : Std.TransCmp fun a b : {row // row ∈ rows} => compareRows orderBy a.1 b.1) :
    ∃ sorted, sortRows orderBy rows = some sorted ∧
      sorted.Pairwise fun earlier later => (compareRows orderBy earlier later).isLE := by
  unfold sortRows
  split
  · rename_i hempty
    rw [List.isEmpty_iff.1 hempty]
    exact ⟨rows, rfl, List.pairwise_of_forall fun _ _ => rfl⟩
  · refine ⟨_, congrArg (Option.map _) (Sorting.sort_eq_insertionSort rows.attach), List.pairwise_map.2 ?_⟩
    exact (Sorting.insertionSort_sorts rows.attach).inOrder

end RecordService.OrderBy
