import AnchoredArrays.Call

/-!
What a sort works on: the items, the memory of the comparison, and the comparisons made so far. A
comparison may answer as it likes: its answer may depend on everything it was asked before. Every
access names the span that is being sorted and faults outside it, and no item is compared with
itself.

* `Bench.compareAt`: asks the comparison about the items at two places;
* `Bench.swapAt`: exchanges the items at two places.
-/

namespace AnchoredArrays.Sorting

/-- A comparison of items that keeps a memory of what it was asked. -/
abbrev Comparison (τ α : Type) : Type := τ → α → α → Ordering × τ

/-- The comparison that gives the opposite answers. -/
def Comparison.reversed {τ α : Type} (compare : Comparison τ α) : Comparison τ α := fun t x y =>
  let (o, t) := compare t x y
  (o.swap, t)

/-- The items that are being sorted, the memory of the comparison, and the number of comparisons
that were made. -/
structure Bench (τ α : Type) where
  items : Array α
  memory : τ
  calls : Nat

namespace Bench

variable {τ α : Type}

/-- The answer about the items at places `i` and `j`, which have to be different and to lie between
`lo` and `hi`. -/
def compareAt (compare : Comparison τ α) (lo hi i j : Nat) (b : Bench τ α) :
    Except Fault (Ordering × Bench τ α) :=
  if h : (lo ≤ i ∧ i ≤ hi) ∧ (lo ≤ j ∧ j ≤ hi) ∧ hi < b.items.size then
    have hi : i < b.items.size := by omega
    have hj : j < b.items.size := by omega
    if i = j then
      .error .sameItem
    else
      let (o, memory) := compare b.memory b.items[i] b.items[j]
      .ok (o, { b with memory, calls := b.calls + 1 })
  else
    .error .outsideSpan

/-- The items with those at places `i` and `j` exchanged; both places have to lie between `lo`
and `hi`. -/
def swapAt (lo hi i j : Nat) (b : Bench τ α) : Except Fault (Bench τ α) :=
  if h : (lo ≤ i ∧ i ≤ hi) ∧ (lo ≤ j ∧ j ≤ hi) ∧ hi < b.items.size then
    have hi : i < b.items.size := by omega
    have hj : j < b.items.size := by omega
    .ok { b with items := b.items.swap i j }
  else
    .error .outsideSpan

/-- A comparison that is asked is about two different places inside the span. -/
theorem mem_of_compareAt {compare : Comparison τ α} {lo hi i j : Nat} {b : Bench τ α}
    {answer : Ordering × Bench τ α} (h : b.compareAt compare lo hi i j = .ok answer) :
    (lo ≤ i ∧ i ≤ hi) ∧ (lo ≤ j ∧ j ≤ hi) ∧ hi < b.items.size ∧ i ≠ j := by
  unfold compareAt at h
  split at h
  case isTrue h' =>
    dsimp only at h
    split at h
    · cases h
    · exact ⟨h'.1, h'.2.1, h'.2.2, ‹_›⟩
  case isFalse => cases h

/-- An exchange that goes through was inside the span. -/
theorem mem_of_swapAt {lo hi i j : Nat} {b c : Bench τ α} (h : b.swapAt lo hi i j = .ok c) :
    (lo ≤ i ∧ i ≤ hi) ∧ (lo ≤ j ∧ j ≤ hi) ∧ hi < b.items.size := by
  unfold swapAt at h
  split at h
  case isTrue h' => exact h'
  case isFalse => cases h

end Bench

end AnchoredArrays.Sorting
