import AnchoredArrays.Anchored.Making
import AnchoredArrays.Sorting.Quicksort

/-!
Sorting the elements of an array in place; its bounds stay as they are and no buffer is asked for.

* `Anchored.sort`: sorts by a comparison that keeps a memory, upward or downward.
-/

namespace AnchoredArrays

namespace Anchored

variable {α τ : Type} [Element α]

/-- The label of the sort in a direction. -/
def sortOperation : Sorting.Direction → Operation
  | .up => .sortUp
  | .down => .sortDown

/-- Sorts the elements. The result is the memory of the comparison and the number of comparisons
that were made. -/
def sort (direction : Sorting.Direction) (compare : Sorting.Comparison τ α) (memory : τ) :
    Call (Anchored α) α (τ × Nat) := do
  let a ← Call.held
  Call.trace (sortOperation direction) [a.bounds]
  match Sorting.sortItems direction compare a.toList.toArray memory with
  | .ok b =>
    Call.hold { a with slots := .ofList b.items.toList }
    pure (b.memory, b.calls)
  | .error e => Call.halt (.fault e)

end Anchored

end AnchoredArrays
