import AnchoredArrays.Sorting.Insertion
import AnchoredArrays.Sorting.Partition

/-!
Quicksort in place. The pivot is always the middle item, so the sort is deterministic; it is not
stable. Short spans are sorted by insertion.

* `quicksort`: sorts a span;
* `sortItems`: sorts all items, upward or downward.
-/

namespace AnchoredArrays.Sorting

variable {τ α : Type}

/-- Spans whose last place is less than this many places behind the first are sorted by
insertion. -/
def insertionLimit : Nat := 8

/-- Sorts the span from `lo` to `hi`. -/
def quicksort (compare : Comparison τ α) (lo hi : Nat) (b : Bench τ α) :
    Except Fault (Bench τ α) :=
  if hi < lo then
    .error .overflow
  else if hi - lo < insertionLimit then
    insertionSort compare lo hi b
  else
    match _h : partition compare lo hi b with
    | .error e => .error e
    | .ok (place, b) =>
      match (if lo + 1 < place then quicksort compare lo (place - 1) b else .ok b) with
      | .error e => .error e
      | .ok b => if place + 1 < hi then quicksort compare (place + 1) hi b else .ok b
termination_by hi - lo
decreasing_by
  · have := partition_mem _h; omega
  · have := partition_mem _h; omega

/-- The two directions of sorting. -/
inductive Direction where
  | up
  | down
  deriving DecidableEq, Repr

/-- The comparison that puts items in order for a direction. Downward it gives the opposite
answers about the same items, so ties are arranged as they are upward. -/
def Direction.apply (direction : Direction) (compare : Comparison τ α) : Comparison τ α :=
  match direction with
  | .up => compare
  | .down => compare.reversed

/-- Sorts all items. -/
def sortItems (direction : Direction) (compare : Comparison τ α) (items : Array α) (memory : τ) :
    Except Fault (Bench τ α) :=
  if 1 < items.size then
    quicksort (direction.apply compare) 0 (items.size - 1) ⟨items, memory, 0⟩
  else
    .ok ⟨items, memory, 0⟩

end AnchoredArrays.Sorting
