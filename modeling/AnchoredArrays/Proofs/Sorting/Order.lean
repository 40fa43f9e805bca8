import AnchoredArrays.Proofs.Sorting.Safety
import AnchoredArrays.Anchored.Order
import AnchoredArrays.Element.Instances

/-!
Sorting under a total preorder: what a sort leaves behind is in order. The answers of the
comparison may not depend on what it was asked before, reversing a question reverses the answer,
and not coming after is transitive; ties are allowed.

* `Comparison.Ranks`: a comparison that answers by a total preorder, `Comparison.Ranks.reversed` and
  `Comparison.byKey_ranks`;
* `Ordered`: no item of a span comes after a later one; `Ordered.insert` and `Ordered.join` put
  spans in order together, by an insertion and around a pivot;
* `quicksort_ordered`: the sort of a span leaves it in order;
* `sort_ordered`: **sorting an array** keeps its bounds and leaves a permutation of its elements in
  which no element comes after (downward: before) any later one.
-/

namespace AnchoredArrays.Sorting

variable {τ α : Type} {lo hi : Nat} {b c : Bench τ α}
  {compare : Comparison τ α} {cmp : α → α → Ordering}

/-- A comparison that answers by the total preorder `cmp`, whatever it was asked before. -/
structure Comparison.Ranks (compare : Comparison τ α) (cmp : α → α → Ordering) : Prop where
  answer : ∀ t x y, (compare t x y).1 = cmp x y
  swap : ∀ x y, cmp y x = (cmp x y).swap
  trans : ∀ x y z, cmp x y ≠ .gt → cmp y z ≠ .gt → cmp x z ≠ .gt

namespace Comparison.Ranks

lemma le_of_notAfter (hr : compare.Ranks cmp) {x y : α} (h : compare.NotAfter x y) :
    cmp x y ≠ .gt := by
  obtain ⟨t, ht⟩ := h
  rwa [hr.answer] at ht

lemma ge_of_ne_lt (hr : compare.Ranks cmp) {x y : α} (h : cmp x y ≠ .lt) : cmp y x ≠ .gt := by
  rw [hr.swap x y]
  cases hc : cmp x y <;> simp_all

lemma ge_of_notBefore (hr : compare.Ranks cmp) {x y : α} (h : compare.NotBefore x y) :
    cmp y x ≠ .gt := by
  obtain ⟨t, ht⟩ := h
  rw [hr.answer] at ht
  exact hr.ge_of_ne_lt ht

/-- The opposite answers are those of the opposite preorder. -/
lemma reversed (hr : compare.Ranks cmp) :
    compare.reversed.Ranks fun x y => (cmp x y).swap where
  answer t x y := congrArg Ordering.swap (hr.answer t x y)
  swap x y := congrArg Ordering.swap (hr.swap x y)
  trans x y z hxy hyz := by
    rw [← hr.swap] at *
    exact hr.trans z y x hyz hxy

end Comparison.Ranks

/-- The comparison by a key. -/
def Comparison.byKey {β : Type} [Ord β] (key : α → β) : Comparison τ α := fun t x y =>
  (Ord.compare (key x) (key y), t)

/-- Comparing by a key of an ordered type is a total preorder; different items may have one key. -/
lemma Comparison.byKey_ranks {β : Type} [Ord β] [Std.TransOrd β] (key : α → β) :
    (Comparison.byKey key : Comparison τ α).Ranks fun x y => Ord.compare (key x) (key y) where
  answer _ _ _ := rfl
  swap _ _ := Std.OrientedCmp.eq_swap
  trans _ _ _ hxy hyz :=
    Ordering.isLE_iff_ne_gt.1 (Std.TransCmp.isLE_trans (Ordering.isLE_iff_ne_gt.2 hxy)
      (Ordering.isLE_iff_ne_gt.2 hyz))

/-- The items of a span are in order: none comes after a later one. -/
def Ordered (cmp : α → α → Ordering) (lo hi : Nat) (xs : Array α) : Prop :=
  ∀ i j x y, lo ≤ i → i < j → j ≤ hi → xs[i]? = some x → xs[j]? = some y → cmp x y ≠ .gt

namespace Ordered

variable {xs ys : Array α}

/-- A span of at most one place is in order. -/
lemma of_le (cmp : α → α → Ordering) (h : hi ≤ lo) (xs : Array α) : Ordered cmp lo hi xs :=
  fun i j _ _ hi hij hj => by omega

/-- Order depends on the items of the span alone. -/
lemma congr (ho : Ordered cmp lo hi xs) (h : ∀ k, lo ≤ k → k ≤ hi → ys[k]? = xs[k]?) :
    Ordered cmp lo hi ys := by
  intro i j x y hi hij hj hx hy
  rw [h i hi (by omega)] at hx
  rw [h j (by omega) hj] at hy
  exact ho i j x y hi hij hj hx hy

/-- Items in order stay in order when the next one is carried down to a place where those in front
do not come after it and the one there does not come before it. -/
lemma insert (hr : compare.Ranks cmp) {place current : Nat}
    (ho : Ordered cmp lo (current - 1) xs) (hlo : lo ≤ place) (hle : place ≤ current)
    (hs : current < xs.size)
    (hfront : ∀ k x y, lo ≤ k → k < place → xs[k]? = some x → xs[current]? = some y →
      cmp x y ≠ .gt)
    (hstop : place < current → ∀ x y, xs[place]? = some x → xs[current]? = some y →
      cmp y x ≠ .gt)
    (hc : Carried place current xs ys) : Ordered cmp lo current ys := by
  -- the carried item does not come after any of those that moved up
  have hback : ∀ k x y, place ≤ k → k < current → xs[k]? = some x → xs[current]? = some y →
      cmp y x ≠ .gt := by
    intro k x y hk hk' hx hy
    have hz : xs[place]? = some xs[place] := Array.getElem?_eq_getElem (by omega)
    have hyz := hstop (by omega) _ y hz hy
    rcases Nat.eq_or_lt_of_le hk with rfl | hlt
    · rw [hz] at hx
      cases hx
      exact hyz
    · exact hr.trans _ _ _ hyz (ho place k _ x hlo hlt (by omega) hz hx)
  intro i j x y hi hij hj hx hy
  rcases Nat.lt_trichotomy j place with hjp | rfl | hjp
  · rw [hc.kept i (by omega)] at hx
    rw [hc.kept j (by omega)] at hy
    exact ho i j x y hi hij (by omega) hx hy
  · rw [hc.kept i (by omega)] at hx
    rw [hc.carried] at hy
    exact hfront i x y hi hij hx hy
  · rw [hc.shifted j hjp hj] at hy
    rcases Nat.lt_trichotomy i place with hip | rfl | hip
    · rw [hc.kept i (by omega)] at hx
      exact ho i (j - 1) x y hi (by omega) (by omega) hx hy
    · rw [hc.carried] at hx
      exact hback (j - 1) y x (by omega) (by omega) hy hx
    · rw [hc.shifted i hip (by omega)] at hx
      exact ho (i - 1) (j - 1) x y (by omega) (by omega) (by omega) hx hy

/-- Two parts in order around a place that splits the span make a span in order. -/
lemma join (hr : compare.Ranks cmp) {place : Nat} {p : α} (hsplit : Split compare lo hi place p xs)
    (hfront : Ordered cmp lo (place - 1) xs) (hback : Ordered cmp (place + 1) hi xs) :
    Ordered cmp lo hi xs := by
  intro i j x y hi hij hj hx hy
  rcases Nat.lt_trichotomy j place with hjp | rfl | hjp
  · exact hfront i j x y hi hij (by omega) hx hy
  · rw [hsplit.pivot] at hy
    cases hy
    exact hr.le_of_notAfter (hsplit.front i x hi hij hx)
  · have hpy : cmp p y ≠ .gt := hr.ge_of_notBefore (hsplit.back j y hjp hj hy)
    rcases Nat.lt_trichotomy i place with hip | rfl | hip
    · exact hr.trans _ _ _ (hr.le_of_notAfter (hsplit.front i x hi hip hx)) hpy
    · rw [hsplit.pivot] at hx
      cases hx
      exact hpy
    · exact hback i j x y hip hij hj hx hy

/-- A whole array in order, as a list. -/
lemma pairwise (ho : Ordered cmp 0 (xs.size - 1) xs) :
    xs.toList.Pairwise fun x y => cmp x y ≠ .gt := by
  rw [List.pairwise_iff_getElem]
  intro i j hi hj hij
  rw [Array.length_toList] at hi hj
  exact ho i j _ _ (Nat.zero_le i) hij (by omega) (Array.getElem?_eq_getElem hi)
    (Array.getElem?_eq_getElem hj)

end Ordered

/-! ### Insertion sort and quicksort -/

/-- Inserting the rest of a span whose beginning is in order puts the span in order. -/
lemma insertFrom_ordered (hr : compare.Ranks cmp) {current : Nat} (hlo : lo < current)
    (hs : hi < b.items.size) (ho : Ordered cmp lo (current - 1) b.items)
    (h : insertFrom compare lo hi current b = .ok c) : Ordered cmp lo hi c.items := by
  fun_induction insertFrom compare lo hi current b with
  | case1 current b hle ih =>
      obtain ⟨place, d, hd, hitems, hge, hle', hpassed, hstop⟩ :=
        insertionPlace_ok compare (Nat.le_refl lo) (Nat.le_of_lt hlo) hle hs
      obtain ⟨e, he, hre, hcarried⟩ := carryDown_ok hge hle' hle (by rw [hitems]; exact hs)
      rw [hd, ok_bind] at h
      dsimp only at h
      rw [he, ok_bind] at h
      rw [hitems] at hre hcarried
      refine ih e (by omega) (by rw [hre.size_eq]; exact hs) ?_ h
      refine ho.insert hr hge hle' (by omega) ?_
        ?_ hcarried
      · intro k x y hk hk' hx hy
        obtain ⟨t, ht⟩ := hpassed k x y hk hk' hx hy
        rw [← hr.answer t, ht]
        decide
      · intro hlt x y hx hy
        obtain ⟨t, ht⟩ := hstop hlt x y hx hy
        rw [hr.answer] at ht
        exact hr.ge_of_ne_lt ht
  | case2 current b hgt =>
      cases h
      exact fun i j x y hi hij hj => ho i j x y hi hij (by omega)

/-- The sort of a span leaves it in order. -/
lemma quicksort_ordered (hr : compare.Ranks cmp) (hle : lo ≤ hi) (hs : hi < b.items.size)
    (h : quicksort compare lo hi b = .ok c) : Ordered cmp lo hi c.items := by
  induction hn : hi - lo using Nat.strongRecOn generalizing lo hi b c with
  | ind n ih =>
    rw [quicksort_eq compare b hle] at h
    split_ifs at h with hshort
    · exact insertFrom_ordered hr (Nat.lt_succ_self lo) hs (.of_le cmp (Nat.le_refl lo) _) h
    have hlt : lo < hi := by unfold insertionLimit at hshort; omega
    have hpart : ∀ (lo' hi' : Nat) (d e : Bench τ α), hi' - lo' < n → hi' < d.items.size →
        sortPart compare lo' hi' d = .ok e → Ordered cmp lo' hi' e.items := by
      intro lo' hi' d e hshorter hs' hd
      rw [sortPart] at hd
      split_ifs at hd with hlt'
      · exact ih (hi' - lo') hshorter (Nat.le_of_lt hlt') hs' hd rfl
      · exact .of_le cmp (Nat.not_lt.1 hlt') _
    obtain ⟨place, d, hd, hre, hlo, hhi, p, -, hsplit⟩ := partition_rearranged compare hlt hs
    have hsd : hi < d.items.size := by rw [hre.size_eq]; exact hs
    obtain ⟨e, he, hre', hkeep⟩ :=
      sortPart_rearranged (b := d) compare lo (show place - 1 < d.items.size by omega)
    have hse : hi < e.items.size := by rw [hre'.size_eq]; exact hsd
    obtain ⟨f, hf, hre'', hkeep'⟩ := sortPart_rearranged (b := e) compare (place + 1) hse
    have hfront := hpart lo (place - 1) d e (by omega) (by omega) he
    have hback := hpart (place + 1) hi e f (by omega) hse hf
    rw [hd, ok_bind] at h
    dsimp only at h
    rw [he, Except.bind, hf] at h
    cases h
    have hsplit' : Split compare lo hi place p e.items := by
      by_cases hplace : place - 1 ≤ lo
      · exact hkeep hplace ▸ hsplit
      · exact hsplit.rearranged_front (by omega) hre'
    refine .join hr (hsplit'.rearranged_back hre'') (hfront.congr ?_) hback
    intro k _ hk
    exact hre''.getElem?_outside (.inl (by omega))

/-- Sorting puts all items in order. -/
lemma sortItems_ordered (direction : Direction) (hr : (direction.apply compare).Ranks cmp)
    {items : Array α} {memory : τ} (h : sortItems direction compare items memory = .ok b) :
    Ordered cmp 0 (b.items.size - 1) b.items := by
  rw [sortItems] at h
  split_ifs at h with hsize
  · have hs : items.size - 1 < items.size := by omega
    obtain ⟨c, hc, hre⟩ :=
      quicksort_rearranged (b := ⟨items, memory, 0⟩) (direction.apply compare) (Nat.zero_le _) hs
    obtain rfl : c = b := Except.ok.inj (hc.symm.trans h)
    have ho := quicksort_ordered (b := ⟨items, memory, 0⟩) hr (Nat.zero_le _) hs h
    rwa [← hre.size_eq] at ho
  · cases h
    exact .of_le cmp (show items.size - 1 ≤ 0 by omega) _

end AnchoredArrays.Sorting

namespace AnchoredArrays.Anchored

open Sorting

variable {τ α : Type} [Element α]

/-- The sort of an array puts the sorted elements into its slots and does nothing else. -/
lemma sort_run {direction : Direction} {compare : Comparison τ α} {memory : τ} {a : Anchored α}
    {b : Bench τ α} (h : sortItems direction compare a.toList.toArray memory = .ok b)
    (supply : Supply) :
    (sort direction compare memory).run supply a
      = (.ok (b.memory, b.calls), ⟨{ a with slots := .ofList b.items.toList }, supply.copies,
          { Tally.blank with log := [.trace (sortOperation direction) [a.bounds]] }⟩) := by
  simp only [Call.run, sort, Call.bind_apply, Call.held, Call.trace, Call.record, h]
  rfl

/-- **Sorting an array** by a total preorder keeps its bounds and leaves a permutation of its
elements: sorted upward no element comes after a later one, sorted downward none comes before a
later one. -/
theorem sort_ordered {cmp : α → α → Ordering} (compare : Comparison τ α) (hr : compare.Ranks cmp)
    (a : Anchored α) (memory : τ) (supply : Supply) :
    (∃ r f, (sort .up compare memory).run supply a = (.ok r, f)
        ∧ f.held.lower = a.lower ∧ f.held.upper = a.upper ∧ f.held.toList.Perm a.toList
        ∧ f.held.toList.Pairwise fun x y => cmp x y ≠ .gt)
      ∧ ∃ r f, (sort .down compare memory).run supply a = (.ok r, f)
        ∧ f.held.lower = a.lower ∧ f.held.upper = a.upper ∧ f.held.toList.Perm a.toList
        ∧ f.held.toList.Pairwise fun x y => cmp x y ≠ .lt := by
  have key : ∀ (direction : Direction) (rank : α → α → Ordering),
      (direction.apply compare).Ranks rank →
      ∃ r f, (sort direction compare memory).run supply a = (.ok r, f)
        ∧ f.held.lower = a.lower ∧ f.held.upper = a.upper ∧ f.held.toList.Perm a.toList
        ∧ f.held.toList.Pairwise fun x y => rank x y ≠ .gt := by
    intro direction rank hrank
    obtain ⟨b, hb, hre⟩ :=
      sortItems_rearranged direction compare a.toList.toArray memory
    refine ⟨_, _, sort_run hb supply, rfl, rfl, ?_, ?_⟩
    · rw [toList, Slots.toList_ofList]
      exact hre.perm
    · rw [toList, Slots.toList_ofList]
      exact (sortItems_ordered direction hrank hb).pairwise
  refine ⟨key .up cmp hr, ?_⟩
  obtain ⟨r, f, hrun, hlower, hupper, hperm, hpair⟩ := key .down _ hr.reversed
  refine ⟨r, f, hrun, hlower, hupper, hperm, hpair.imp fun hxy hlt => hxy ?_⟩
  rw [hlt, Ordering.swap]

/-- Entries with the keys 1, 2 and 3, each of them four times. -/
def tiedEntries : Anchored Entry :=
  ⟨-4, 7, .ofList [⟨3, 0⟩, ⟨1, 1⟩, ⟨2, 2⟩, ⟨3, 3⟩, ⟨1, 4⟩, ⟨2, 5⟩, ⟨3, 6⟩, ⟨1, 7⟩, ⟨2, 8⟩, ⟨3, 9⟩,
    ⟨1, 10⟩, ⟨2, 11⟩]⟩

/-- Sorting by keys with ties, across the length below which items are inserted one by one. -/
theorem sort_tiedEntries :
    (Comparison.byKey Entry.key : Comparison Unit Entry).Ranks
        (fun x y => Ord.compare x.key y.key)
      ∧ ∃ r f, (sort .up (Comparison.byKey Entry.key) ()).run .ample tiedEntries = (.ok r, f)
        ∧ f.held.lower = -4 ∧ f.held.upper = 7 ∧ f.held.toList.Perm tiedEntries.toList
        ∧ f.held.toList.Pairwise fun x y => Ord.compare x.key y.key ≠ .gt :=
  ⟨Comparison.byKey_ranks Entry.key, (sort_ordered (Comparison.byKey Entry.key)
    (Comparison.byKey_ranks Entry.key) tiedEntries () .ample).1⟩

end AnchoredArrays.Anchored
