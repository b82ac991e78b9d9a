/-!
# Sorting a few elements

Elements are sorted by a test of which of two comes first, which may well not be an order.  Up to twenty of them are
sorted by insertion.  Up to thirty-two are cut in two halves, and the sorted halves are merged from both ends at once.
The two merges meet in the middle when the test is an order; when they do not, the sort breaks off.
-/
namespace RecordService.Sorting

variable {α : Type} (less : α → α → Bool)

/-! ## Insertion

Each element moves towards the front past the elements it comes before, so that elements that compare equal stay as
they were. -/

/-- Puts an element behind the last one it does not come before; the elements are given from the last one on. -/
def insertBack (x : α) : List α → List α
  | [] => [x]
  | y :: rest => if less x y then y :: insertBack x rest else x :: y :: rest

/-- The sorted elements, from the last one on. -/
def sortBack (done : List α) : List α → List α
  | [] => done
  | x :: rest => sortBack (insertBack less x done) rest

def insertionSort (xs : List α) : List α := (sortBack less [] xs).reverse

/-! ## Four elements -/

def sortTwo (x y : α) : α × α := if less y x then (y, x) else (x, y)

/-- Two pairs are sorted, then the first of all and the last of all are found, then the two that are left are sorted. -/
def sortFour (v w x y : α) : List α :=
  let (a, b) := sortTwo less v w
  let (c, d) := sortTwo less x y
  let swapFirst := less c a
  let swapLast := less d b
  let middle := sortTwo less (if swapFirst then a else if swapLast then c else b)
    (if swapLast then d else if swapFirst then b else c)
  [if swapFirst then c else a, middle.1, middle.2, if swapLast then b else d]

/-! ## Halves -/

/-- Sorts a half by insertion, with the first four elements sorted beforehand where the whole is long enough. -/
def sortHalf (long : Bool) : List α → List α
  | v :: w :: x :: y :: rest =>
    if long then (sortBack less (sortFour less v w x y).reverse rest).reverse
    else insertionSort less (v :: w :: x :: y :: rest)
  | few => insertionSort less few

/-- The first elements of two lists as they are merged, and what is left of either; `second` tells whether the head of
the second list goes first. -/
def mergeFront (second : α → α → Bool) : Nat → List α → List α → List α × List α × List α
  | n + 1, x :: xs, y :: ys =>
    if second x y then
      let (front, rest) := mergeFront second n (x :: xs) ys
      (y :: front, rest)
    else
      let (front, rest) := mergeFront second n xs (y :: ys)
      (x :: front, rest)
  | _, xs, ys => ([], xs, ys)

/-- Merges two lists, of which the second is as long as the first or one longer, from the front and from the back, as
many elements each way as the first list has.  An element that neither merge has taken stands between the two parts; if
both have taken the same one, the merge breaks off. -/
def mergeEnds (left right : List α) : Option (List α) :=
  let (front, left₁, right₁) := mergeFront (fun l r => less r l) left.length left right
  let (back, right₂, left₂) := mergeFront less left.length right.reverse left.reverse
  if left₁.length + left₂.length < left.length ∨ right₁.length + right₂.length < right.length then none
  else
    let between := left₁.take (left₁.length + left₂.length - left.length) ++
      right₁.take (right₁.length + right₂.length - right.length)
    some (front ++ between ++ back.reverse)

def smallSort (xs : List α) : Option (List α) :=
  let half := xs.length / 2
  let long := decide (8 ≤ xs.length)
  mergeEnds less (sortHalf less long (xs.take half)) (sortHalf less long (xs.drop half))

end RecordService.Sorting
