import AnchoredArrays.Proofs.Sorting.Order

/-!
Spans as lists. What a sort does to a span is said of the items of the span alone, in order; all
other places keep theirs.

* `span`, `getElem?_span`: the items of a span; `span_succ`: a span that is longer by one place;
* `Rearranged.span_perm`: a rearrangement of a span permutes its items;
* `Parts`, `partition_parts`: **a partition** of a span puts its middle item in a place inside,
  behind items that do not come after it and in front of items that do not come before it.
-/

namespace AnchoredArrays.Sorting

variable {τ α : Type} {lo hi : Nat} {xs ys : Array α} {b : Bench τ α} {compare : Comparison τ α}
  {cmp : α → α → Ordering}

/-- The items from place `lo` to place `hi`. -/
def span (lo hi : Nat) (xs : Array α) : List α := (xs.toList.take (hi + 1)).drop lo

lemma getElem?_span (lo hi : Nat) (xs : Array α) (k : Nat) :
    (span lo hi xs)[k]? = if lo + k ≤ hi then xs[lo + k]? else none := by
  rw [span, List.getElem?_drop, List.getElem?_take, Array.getElem?_toList]
  exact if_congr Nat.lt_succ_iff rfl rfl

/-- A span inside the array has an item at each of its places. -/
lemma length_span (hs : hi < xs.size) : (span lo hi xs).length = hi + 1 - lo := by
  rw [span, List.length_drop, List.length_take_of_le]
  rwa [Array.length_toList]

/-- The next item comes last in a span that is longer by one place. -/
lemma span_succ {current : Nat} (hlo : lo < current) {x : α} (hx : xs[current]? = some x) :
    span lo current xs = span lo (current - 1) xs ++ [x] := by
  have hlt : lo ≤ (xs.toList.take current).length := by
    obtain ⟨hs, -⟩ := Array.getElem?_eq_some_iff.1 hx
    rw [List.length_take_of_le (by rw [Array.length_toList]; omega)]
    omega
  rw [span, span, Nat.sub_add_cancel (by omega), List.take_add_one, Array.getElem?_toList, hx,
    Option.toList_some, List.drop_append_of_le_length hlt]

/-- A span that ends in front of its beginning has no items. -/
lemma span_eq_nil (h : hi < lo) (xs : Array α) : span lo hi xs = [] :=
  List.drop_eq_nil_of_le (Nat.le_trans (List.length_take_le _ _) h)

/-- All items are a span. -/
lemma span_all (xs : Array α) : span 0 (xs.size - 1) xs = xs.toList := by
  rw [span, List.drop_zero, List.take_of_length_le]
  rw [Array.length_toList]
  omega

/-- What stands in front of a span, the span, and what stands behind it. -/
lemma toList_eq_span (hle : lo ≤ hi + 1) (xs : Array α) :
    xs.toList = xs.toList.take lo ++ span lo hi xs ++ xs.toList.drop (hi + 1) := by
  have hfront : xs.toList.take lo = (xs.toList.take (hi + 1)).take lo := by
    rw [List.take_take, Nat.min_eq_left hle]
  rw [span, hfront, List.take_append_drop, List.take_append_drop]

/-- A rearrangement of a span permutes its items. -/
lemma Rearranged.span_perm (h : Rearranged lo hi xs ys) :
    (span lo hi ys).Perm (span lo hi xs) := by
  rcases Nat.lt_or_ge (hi + 1) lo with hnone | hle
  · rw [span_eq_nil (Nat.lt_of_succ_lt hnone), span_eq_nil (Nat.lt_of_succ_lt hnone)]
  have hfront : ys.toList.take lo = xs.toList.take lo := by
    refine List.ext_getElem? fun k => ?_
    simp only [List.getElem?_take, Array.getElem?_toList]
    split_ifs with hk
    · exact h.getElem?_outside (.inl hk)
    · rfl
  have hback : ys.toList.drop (hi + 1) = xs.toList.drop (hi + 1) := by
    refine List.ext_getElem? fun k => ?_
    simp only [List.getElem?_drop, Array.getElem?_toList]
    exact h.getElem?_outside (.inr (by omega))
  have hperm := h.perm
  rw [toList_eq_span hle ys, toList_eq_span hle xs, hfront, hback, List.perm_append_right_iff,
    List.perm_append_left_iff] at hperm
  exact hperm

/-- The span of `ys` is that of `xs` rearranged around the item that was in its middle, which is at
`place` now: those in front of it do not come after it, and those behind it do not come before it.
All other places have the items that they had. -/
structure Parts (cmp : α → α → Ordering) (lo hi place : Nat) (xs ys : Array α) : Prop where
  mem : lo ≤ place ∧ place ≤ hi
  size : ys.size = xs.size
  perm : (span lo hi ys).Perm (span lo hi xs)
  outside : ∀ k, k < lo ∨ hi < k → ys[k]? = xs[k]?
  pivot : ys[place]? = xs[lo + (hi - lo) / 2]?
  front : ∀ k x p, lo ≤ k → k < place → ys[k]? = some x → ys[place]? = some p → cmp x p ≠ .gt
  back : ∀ k x p, place < k → k ≤ hi → ys[k]? = some x → ys[place]? = some p → cmp x p ≠ .lt

/-- **A partition** of a long span by a total preorder goes through and leaves two parts around the
item that was in the middle. -/
theorem partition_parts (hr : compare.Ranks cmp) (hlong : insertionLimit ≤ hi - lo)
    (hs : hi < b.items.size) :
    ∃ place c, partition compare lo hi b = .ok (place, c)
      ∧ Parts cmp lo hi place b.items c.items := by
  have hlt : lo < hi := by
    unfold insertionLimit at hlong
    omega
  obtain ⟨place, c, hc, hre, hlo, hhi, p, hmid, hsplit⟩ := partition_rearranged compare hlt hs
  refine ⟨place, c, hc, ⟨hlo, hhi⟩, hre.size_eq, hre.span_perm, fun k hk => hre.getElem?_outside hk,
    hsplit.pivot.trans hmid.symm, ?_, ?_⟩
  · intro k x q hk hk' hx hq
    obtain rfl : p = q := Option.some.inj (hsplit.pivot.symm.trans hq)
    exact hr.le_of_notAfter (hsplit.front k x hk hk' hx)
  · intro k x q hk hk' hx hq
    obtain rfl : p = q := Option.some.inj (hsplit.pivot.symm.trans hq)
    intro hbefore
    -- an item that comes before the pivot would have the pivot come after it
    refine hr.ge_of_notBefore (hsplit.back k x hk hk' hx) ?_
    rw [hr.swap, hbefore, Ordering.swap]

/-- Twelve entries, of which all but the outer two are a span. -/
def twelveEntries : Array Entry :=
  #[⟨9, 0⟩, ⟨3, 1⟩, ⟨2, 2⟩, ⟨2, 3⟩, ⟨1, 4⟩, ⟨2, 5⟩, ⟨3, 6⟩, ⟨2, 7⟩, ⟨1, 8⟩, ⟨2, 9⟩, ⟨3, 10⟩, ⟨0, 11⟩]

/-- The item in the middle of the span has the tag 5 and ties with others of the span. -/
theorem partition_parts_tied :
    (Comparison.byKey Entry.key : Comparison Unit Entry).Ranks
        (fun x y => Ord.compare x.key y.key)
      ∧ insertionLimit ≤ 10 - 1 ∧ 10 < twelveEntries.size
      ∧ ∃ place c, partition (Comparison.byKey Entry.key) 1 10 ⟨twelveEntries, (), 0⟩
          = .ok (place, c)
        ∧ Parts (fun x y => Ord.compare x.key y.key) 1 10 place twelveEntries c.items
        ∧ c.items[place]? = some ⟨2, 5⟩ := by
  have hranks := Comparison.byKey_ranks (τ := Unit) Entry.key
  have hlong : insertionLimit ≤ 10 - 1 := by decide
  have hs : 10 < twelveEntries.size := by decide
  obtain ⟨place, c, hc, hparts⟩ :=
    partition_parts (b := ⟨twelveEntries, (), 0⟩) hranks hlong hs
  exact ⟨hranks, hlong, hs, place, c, hc, hparts, hparts.pivot.trans (by decide)⟩

end AnchoredArrays.Sorting
