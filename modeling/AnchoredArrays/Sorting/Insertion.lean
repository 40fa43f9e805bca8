import AnchoredArrays.Sorting.Bench

/-!
Insertion sort of a span. The part in front of the current item is sorted; the item is carried
down in front of the first one that does not come strictly before it, so items that compare equal
end up in the opposite of the order they had.

* `insertionPlace`: where the current item goes;
* `carryDown`: moves it there, one exchange at a time;
* `insertionSort`: the whole span.
-/

namespace AnchoredArrays.Sorting

variable {τ α : Type}

/-- The first place from `place` on whose item does not come strictly before the one at
`current`. -/
def insertionPlace (compare : Comparison τ α) (lo hi current place : Nat) (b : Bench τ α) :
    Except Fault (Nat × Bench τ α) :=
  if place < current then do
    let (o, b) ← b.compareAt compare lo hi place current
    if o = .lt then insertionPlace compare lo hi current (place + 1) b else pure (place, b)
  else
    pure (place, b)
termination_by current - place

/-- Moves the item at `current` down to `place`; those in between move up by one. -/
def carryDown (lo hi place current : Nat) (b : Bench τ α) : Except Fault (Bench τ α) :=
  if place < current then do
    let b ← b.swapAt lo hi (current - 1) current
    carryDown lo hi place (current - 1) b
  else
    pure b
termination_by current - place

/-- Inserts the items from `current` to `hi` one after the other. -/
def insertFrom (compare : Comparison τ α) (lo hi current : Nat) (b : Bench τ α) :
    Except Fault (Bench τ α) :=
  if current ≤ hi then do
    let (place, b) ← insertionPlace compare lo hi current lo b
    let b ← carryDown lo hi place current b
    insertFrom compare lo hi (current + 1) b
  else
    pure b
termination_by hi + 1 - current

/-- Sorts the span from `lo` to `hi` by insertion. -/
def insertionSort (compare : Comparison τ α) (lo hi : Nat) (b : Bench τ α) :
    Except Fault (Bench τ α) :=
  insertFrom compare lo hi (lo + 1) b

end AnchoredArrays.Sorting
