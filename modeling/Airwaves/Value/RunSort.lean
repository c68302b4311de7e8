/-!
# Sorting by a strict order that may not be total

The sort takes the leading run as it stands and puts every later item into the sorted part by
binary search, after the items it is not less than; on a total order it is stable.
-/
namespace Airwaves.RunSort

variable {α : Type}

/-- The number of items after `prev` that keep falling strictly. -/
def fallingLength (lt : α → α → Bool) (prev : α) : List α → Nat
  | [] => 0
  | x :: xs => if lt x prev then fallingLength lt x xs + 1 else 0

/-- The number of items after `prev` that never fall. -/
def risingLength (lt : α → α → Bool) (prev : α) : List α → Nat
  | [] => 0
  | x :: xs => if lt x prev then 0 else risingLength lt x xs + 1

/-- The length of the leading run of a list and whether it falls strictly. -/
def leadingRun (lt : α → α → Bool) : List α → Nat × Bool
  | a :: b :: rest =>
    if lt b a then (fallingLength lt b rest + 2, true) else (risingLength lt b rest + 2, false)
  | xs => (xs.length, false)

/-- Where binary search between `l` and `r` puts `pivot` in a sorted array: after every
probed item that `pivot` is not less than. -/
def searchFrom (lt : α → α → Bool) (s : Array α) (pivot : α) (l r : Nat) : Nat :=
  if l < r then
    let p := l + (r - l) / 2
    if lt pivot (s.getD p pivot) then searchFrom lt s pivot l p
    else searchFrom lt s pivot (p + 1) r
  else l
termination_by r - l
decreasing_by all_goals omega

/-- Inserts an item into a sorted array at the place binary search finds. -/
def binaryInsert (lt : α → α → Bool) (s : Array α) (x : α) : Array α :=
  let i := searchFrom lt s x 0 s.size
  (s.toList.take i ++ x :: s.toList.drop i).toArray

/-- Sorts a list in ascending order of a strict order: the leading run, then binary
insertion of the rest. -/
def sort (lt : α → α → Bool) (xs : List α) : List α :=
  let (n, falling) := leadingRun lt xs
  let run := if falling then (xs.take n).reverse else xs.take n
  ((xs.drop n).foldl (binaryInsert lt) run.toArray).toList

/-- Sorts a list in descending order of a strict order, keeping items that compare
neither way in their order. -/
def sortDescending (lt : α → α → Bool) (xs : List α) : List α :=
  (sort lt xs.reverse).reverse

end Airwaves.RunSort
