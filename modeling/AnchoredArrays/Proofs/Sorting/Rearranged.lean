import AnchoredArrays.Sorting.Quicksort
import Mathlib.Tactic.Common

/-!
Rearrangements of a span: what exchanges of items between two places lead to. A sort touches its
items in no other way, so what holds of every rearrangement holds of what the sort leaves behind,
whatever the comparison answered.

* `Rearranged`: the arrays that exchanges inside a span lead to, closed under composition
  (`Rearranged.trans`) and under wider spans (`Rearranged.mono`);
* `Rearranged.perm`: a rearrangement holds the same items;
* `Rearranged.getElem?_outside`: places outside the span keep their items;
* `Rearranged.exists_source`: an item of the span was in the span before;
* `Bench.swapAt_ok`, `Bench.compareAt_ok`: an access inside the span goes through.
-/

namespace AnchoredArrays.Sorting

variable {τ α : Type}

/-- What exchanges of places from `lo` to `hi` turn the array `xs` into. -/
inductive Rearranged (lo hi : Nat) (xs : Array α) : Array α → Prop
  | refl : Rearranged lo hi xs xs
  | swap {ys : Array α} {i j : Nat} (h : Rearranged lo hi xs ys) (mi : lo ≤ i ∧ i ≤ hi)
      (mj : lo ≤ j ∧ j ≤ hi) (hi' : i < ys.size) (hj' : j < ys.size) :
      Rearranged lo hi xs (ys.swap i j hi' hj')

namespace Rearranged

variable {lo hi : Nat} {xs ys zs : Array α}

lemma size_eq (h : Rearranged lo hi xs ys) : ys.size = xs.size := by
  induction h with
  | refl => rfl
  | swap _ _ _ _ _ ih => rw [Array.size_swap, ih]

/-- A rearrangement holds the same items. -/
lemma perm (h : Rearranged lo hi xs ys) : ys.toList.Perm xs.toList := by
  induction h with
  | refl => exact List.Perm.refl _
  | swap _ _ _ hi' hj' ih =>
      exact (Array.perm_iff_toList_perm.1 (Array.swap_perm hi' hj')).trans ih

/-- Rearrangements of one span compose. -/
lemma trans (h : Rearranged lo hi xs ys) (h' : Rearranged lo hi ys zs) :
    Rearranged lo hi xs zs := by
  induction h' with
  | refl => exact h
  | swap _ mi mj hi' hj' ih => exact ih.swap mi mj hi' hj'

/-- A rearrangement of a span is one of every wider span. -/
lemma mono {lo' hi' : Nat} (h : Rearranged lo hi xs ys) (hlo : lo' ≤ lo) (hhi : hi ≤ hi') :
    Rearranged lo' hi' xs ys := by
  induction h with
  | refl => exact .refl
  | swap _ mi mj hi' hj' ih =>
      exact ih.swap ⟨Nat.le_trans hlo mi.1, Nat.le_trans mi.2 hhi⟩
        ⟨Nat.le_trans hlo mj.1, Nat.le_trans mj.2 hhi⟩ hi' hj'

/-- Places outside the span keep their items. -/
lemma getElem?_outside (h : Rearranged lo hi xs ys) {k : Nat} (hk : k < lo ∨ hi < k) :
    ys[k]? = xs[k]? := by
  induction h with
  | refl => rfl
  | swap _ mi mj _ _ ih =>
      rw [Array.getElem?_swap, if_neg (by omega), if_neg (by omega), ih]

/-- An item at a place of the span was at a place of the span before. -/
lemma exists_source (h : Rearranged lo hi xs ys) {k : Nat} (hk : lo ≤ k ∧ k ≤ hi) {x : α}
    (hx : ys[k]? = some x) : ∃ k', (lo ≤ k' ∧ k' ≤ hi) ∧ xs[k']? = some x := by
  induction h generalizing k with
  | refl => exact ⟨k, hk, hx⟩
  | swap _ mi mj hi' hj' ih =>
      rw [Array.getElem?_swap] at hx
      split_ifs at hx
      · exact ih mi (by rw [Array.getElem?_eq_getElem hi']; exact hx)
      · exact ih mj (by rw [Array.getElem?_eq_getElem hj']; exact hx)
      · exact ih hk hx

end Rearranged

/-- What follows a step that went through. -/
lemma ok_bind {ρ π : Type} (r : ρ) (next : ρ → Except Fault π) :
    (Except.ok r >>= next) = next r := rfl

namespace Bench

variable {b : Bench τ α}

/-- An exchange of two places of the span goes through. -/
lemma swapAt_ok (lo hi i j : Nat) (mi : lo ≤ i ∧ i ≤ hi) (mj : lo ≤ j ∧ j ≤ hi)
    (hs : hi < b.items.size) :
    ∃ c, b.swapAt lo hi i j = .ok c ∧ Rearranged lo hi b.items c.items
      ∧ ∃ (hi' : i < b.items.size) (hj' : j < b.items.size),
        c.items = b.items.swap i j hi' hj' := by
  rw [swapAt, dif_pos ⟨mi, mj, hs⟩]
  exact ⟨_, rfl, .swap .refl mi mj _ _, by omega, by omega, rfl⟩

/-- A comparison of two different places of the span goes through: it asks about the items there
and leaves all items where they are. -/
lemma compareAt_ok (compare : Comparison τ α) (lo hi i j : Nat) (mi : lo ≤ i ∧ i ≤ hi)
    (mj : lo ≤ j ∧ j ≤ hi) (hne : i ≠ j) (hs : hi < b.items.size) :
    ∃ o c, b.compareAt compare lo hi i j = .ok (o, c) ∧ c.items = b.items
      ∧ ∀ x y, b.items[i]? = some x → b.items[j]? = some y → ∃ t, (compare t x y).1 = o := by
  rw [compareAt, dif_pos ⟨mi, mj, hs⟩, if_neg hne]
  refine ⟨_, _, rfl, rfl, fun x y hx hy => ⟨b.memory, ?_⟩⟩
  obtain ⟨_, rfl⟩ := Array.getElem?_eq_some_iff.1 hx
  obtain ⟨_, rfl⟩ := Array.getElem?_eq_some_iff.1 hy
  rfl

end Bench

end AnchoredArrays.Sorting
