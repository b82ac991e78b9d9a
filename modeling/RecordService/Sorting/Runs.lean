import RecordService.Sorting.Small
/-!
# Sorting by runs

A list is cut into runs.  Where it rises or falls for long enough it is taken as it is, or turned round; other runs are
cut to a fixed length.  They are merged two and two, along a tree that depends on where the runs begin only.  A run that
is not sorted yet is sorted at once when sorting is eager, and else as late as it can be, together with its neighbours.
-/
namespace RecordService.Sorting

variable {α : Type} (less : α → α → Bool)

structure Run (α : Type) where
  items : List α
  sorted : Bool

/-! ## Cutting a list into runs -/

/-- Splits a list that follows `x` behind the last element that `goesOn` from the one before it. -/
def splitRun (goesOn : α → α → Bool) (x : α) : List α → List α × List α
  | [] => ([], [])
  | y :: ys =>
    if goesOn x y then
      let (run, rest) := splitRun goesOn y ys
      (y :: run, rest)
    else ([], y :: ys)

/-- The front that is sorted already, or falls from each element to the next and is turned round. -/
def sortedFront (x : α) : List α → List α × List α
  | [] => ([x], [])
  | y :: ys =>
    if less y x then
      let (run, rest) := splitRun (fun a b => less b a) y ys
      ((x :: y :: run).reverse, rest)
    else
      let (run, rest) := splitRun (fun a b => !less b a) y ys
      (x :: y :: run, rest)

/-- The next run, of `size` elements unless the list is sorted from the start for at least `enough`. -/
def nextRun (enough size : Nat) (x : α) (xs : List α) : Run α × List α :=
  let front := sortedFront less x xs
  if enough ≤ front.1.length then (⟨front.1, true⟩, front.2)
  else (⟨x :: xs.take (size - 1), false⟩, xs.drop (size - 1))

theorem length_splitRun (goesOn : α → α → Bool) : ∀ (x : α) (ys : List α), (splitRun goesOn x ys).2.length ≤ ys.length
  | _, [] => Nat.le_refl _
  | x, y :: ys => by
    rw [splitRun]
    split
    · exact Nat.le_succ_of_le (length_splitRun goesOn y ys)
    · exact Nat.le_refl _

theorem length_sortedFront (x : α) (xs : List α) : (sortedFront less x xs).2.length ≤ xs.length := by
  cases xs with
  | nil => exact Nat.le_refl _
  | cons y ys =>
    rw [sortedFront]
    split
    · exact Nat.le_succ_of_le (length_splitRun _ y ys)
    · exact Nat.le_succ_of_le (length_splitRun _ y ys)

theorem length_nextRun (enough size : Nat) (x : α) (xs : List α) :
    (nextRun less enough size x xs).2.length ≤ xs.length := by
  unfold nextRun
  dsimp only
  split
  · exact length_sortedFront less x xs
  · rw [List.length_drop]
    exact Nat.sub_le _ _

def cutRuns (enough size : Nat) : List α → List (Run α)
  | [] => []
  | x :: xs => (nextRun less enough size x xs).1 :: cutRuns enough size (nextRun less enough size x xs).2
termination_by xs => xs.length
decreasing_by exact Nat.lt_succ_of_le (length_nextRun _ _ _ _ _)

/-! ## Merging runs -/

/-- Merges two sorted lists, from the end at which the shorter one is. -/
def merge (left right : List α) : List α :=
  if left.length ≤ right.length then left.merge right fun l r => !less r l
  else (right.reverse.merge left.reverse fun r l => !less r l).reverse

/-- The elements of a run in order; `sort` is for those that are not. -/
def Run.settle (sort : List α → Option (List α)) (run : Run α) : Option (List α) :=
  if run.sorted then some run.items else sort run.items

def settleAll (sort : List α → Option (List α)) (runs : List (Run α)) : Option (List (Run α)) :=
  runs.mapM fun run => (run.settle sort).map (Run.mk · true)

/-- Joins neighbouring runs.  Two that are not sorted are left so, as long as there is `room` to sort them together. -/
def Run.join (sort : List α → Option (List α)) (room : Nat) (left right : Run α) : Option (Run α) :=
  if left.sorted || right.sorted || decide (room < left.items.length + right.items.length) then do
    let left ← left.settle sort
    let right ← right.settle sort
    some ⟨merge less left right, true⟩
  else some ⟨left.items ++ right.items, false⟩

/-! ## The tree of merges

The border between two runs lies the deeper in the tree the more leading bits the middles of the runs have in common,
taken as fractions of the whole length. -/

/-- How many of the 64 bits of a number are zero at the top. -/
def leadingZeros (n : Nat) : Nat := if n = 0 then 64 else 63 - n.log2

/-- How deep the border `middle` of two neighbouring runs lies in a list of `length` elements. -/
def depth (length start middle stop : Nat) : Nat :=
  let scale := ((1 <<< 62) + length - 1) / length
  leadingZeros ((scale * (start + middle)) ^^^ (scale * (middle + stop)))

/-- Joins a run with those on the stack behind it whose border with it lies at least as deep as `depth`. -/
def collapse (join : Run α → Run α → Option (Run α)) (depth : Nat) :
    List (Run α × Nat) → Run α → Option (List (Run α × Nat) × Run α)
  | [], run => some ([], run)
  | (left, border) :: stack, run =>
    if depth ≤ border then do
      let joined ← join left run
      collapse join depth stack joined
    else some ((left, border) :: stack, run)

/-- Joins all runs; `run` is the last one that was met, and begins at `start`. -/
def joinRuns (join : Run α → Run α → Option (Run α)) (length : Nat) :
    List (Run α × Nat) → Nat → Run α → List (Run α) → Option (Run α)
  | stack, _, run, [] => (collapse join 0 stack run).map Prod.snd
  | stack, start, run, next :: rest => do
    let middle := start + run.items.length
    let border := depth length start middle (middle + next.items.length)
    let (stack, joined) ← collapse join border stack run
    joinRuns join length ((joined, border) :: stack) middle next rest

/-! ## The sort -/

/-- From which length on a sorted front is worth keeping. -/
def worthKeeping (length : Nat) : Nat :=
  if length ≤ 4096 then min (length - length / 2) 64
  else
    let shift := (1 + length.log2) / 2
    ((1 <<< shift) + (length >>> shift)) / 2

/-- How many elements there is room to sort together: all of them up to eight million bytes, at 72 bytes each. -/
def room (length : Nat) : Nat := max (max (length - length / 2) (min length (8000000 / 72))) 48

/-- The runs of a list; none is left to be sorted when sorting is eager. -/
def firstRuns (eager : Bool) (sort : List α → Option (List α)) (xs : List α) : Option (List (Run α)) :=
  let enough := worthKeeping xs.length
  if eager then settleAll sort (cutRuns less enough 32 xs) else some (cutRuns less enough enough xs)

def sortRuns (eager : Bool) (sort : List α → Option (List α)) (xs : List α) : Option (List α) := do
  match ← firstRuns less eager sort xs with
  | [] => some []
  | run :: rest =>
    let whole ← joinRuns (Run.join less sort (room xs.length)) xs.length [] 0 run rest
    whole.settle sort

end RecordService.Sorting
