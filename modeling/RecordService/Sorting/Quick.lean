import RecordService.Sorting.Runs
/-!
# The sort

Longer lists are sorted by runs, and what is in no order in them by parting it at a pivot, for as long as the pivots are
good enough.
-/
namespace RecordService.Sorting

variable {α : Type} (less : α → α → Bool)

/-! ## Pivots -/

/-- The middle one of three elements. -/
def median (a b c : α) : α :=
  if less a b == less a c then
    if less b c == less a b then b else c
  else a

/-- The element that stands for the `n` elements from the `i`-th on: the middle one of those that stand for three of
their eighths. -/
def representative (element : Nat → α) (n i : Nat) : α :=
  if n < 8 then element i
  else
    median less (representative element (n / 8) i) (representative element (n / 8) (i + 4 * (n / 8)))
      (representative element (n / 8) (i + 7 * (n / 8)))
termination_by n
decreasing_by all_goals omega

/-! ## Parting -/

/-- Sorts by parting at a pivot up to `limit` times one inside the other.  A pivot that no element comes before parts
off what is equal to it; so does one that is equal to `bound`, the pivot that the elements were parted from. -/
def quickSort : Nat → Option α → List α → Option (List α)
  | _, _, [] => some []
  | 0, _, x :: xs =>
    if xs.length < 32 then smallSort less (x :: xs) else sortRuns less true (smallSort less) (x :: xs)
  | limit + 1, bound, x :: xs =>
    if xs.length < 32 then smallSort less (x :: xs)
    else
      let pivot := representative less (fun i => (x :: xs).getD i x) (xs.length + 1) 0
      let below := (x :: xs).filter fun y => less y pivot
      if below.isEmpty || bound.any fun b => !less b pivot then do
        let above ← quickSort limit none ((x :: xs).filter fun y => less pivot y)
        some ((x :: xs).filter (fun y => !less pivot y) ++ above)
      else do
        let above ← quickSort limit (some pivot) ((x :: xs).filter fun y => !less y pivot)
        let below ← quickSort limit bound below
        some (below ++ above)

/-- The sort: stable, and broken off only where the test is seen to be no order. -/
def sort (xs : List α) : Option (List α) :=
  if xs.length ≤ 20 then some (insertionSort less xs)
  else if xs.length ≤ 64 then sortRuns less true (smallSort less) xs
  else sortRuns less false (fun ys => quickSort less (2 * ys.length.log2) none ys) xs

end RecordService.Sorting
