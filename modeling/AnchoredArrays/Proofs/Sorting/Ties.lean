import AnchoredArrays.Proofs.Sorting.Spans
import Mathlib

/-!
The order of ties. Each item is inserted in front of the first one that does not come before it, so
items that compare equal end up in the opposite of the order they had: an insertion sort leaves what
a stable sort makes of the reversed span.

* `stableSort`: a stable sort of a list; `stableSort_pairwise`, `tied_stableSort`: it is in order,
  and ties keep the order they had; `stableSort_cons`: where it puts one item more;
* `Carried.span_eq`: what one insertion does to the span;
* `insertFrom_span`: inserting the rest of a span, one item after the other;
* `TiesReversed`, `ties_reversed`: **insertion sort** of a span, and sorts of up to eight items,
  upward and downward.
-/

namespace AnchoredArrays.Sorting

variable {τ α : Type} {lo hi : Nat} {xs ys : Array α} {b c : Bench τ α}
  {compare : Comparison τ α} {cmp : α → α → Ordering}

/-! ### Stable sorts -/

/-- The items of a list in order; items that compare equal stay in the order they had. -/
def stableSort (cmp : α → α → Ordering) (items : List α) : List α :=
  items.mergeSort fun x y => (cmp x y).isLE

/-- Fewer than two items are in order, reversed or not. -/
lemma stableSort_reverse_short {items : List α} (h : items.length ≤ 1) :
    stableSort cmp items.reverse = items := by
  match items, h with
  | [], _ => exact List.mergeSort_nil
  | [x], _ => exact List.mergeSort_singleton x

/-- The items that compare equal to `z`, in the order of the list. -/
def tied (cmp : α → α → Ordering) (z : α) (items : List α) : List α :=
  items.filter fun x => cmp x z = .eq

namespace Comparison.Ranks

lemma isLE_trans (hr : compare.Ranks cmp) (x y z : α) (hxy : (cmp x y).isLE = true)
    (hyz : (cmp y z).isLE = true) : (cmp x z).isLE = true :=
  Ordering.isLE_iff_ne_gt.2
    (hr.trans x y z (Ordering.isLE_iff_ne_gt.1 hxy) (Ordering.isLE_iff_ne_gt.1 hyz))

lemma isLE_total (hr : compare.Ranks cmp) (x y : α) :
    ((cmp x y).isLE || (cmp y x).isLE) = true := by
  rw [hr.swap x y]
  cases cmp x y <;> rfl

/-- A stable sort puts the items in order. -/
lemma stableSort_pairwise (hr : compare.Ranks cmp) (items : List α) :
    (stableSort cmp items).Pairwise fun x y => cmp x y ≠ .gt :=
  (List.pairwise_mergeSort hr.isLE_trans hr.isLE_total items).imp Ordering.isLE_iff_ne_gt.1

/-- Items that compare equal to one and the same are in order as they are. -/
lemma tied_pairwise (hr : compare.Ranks cmp) (z : α) (items : List α) :
    (tied cmp z items).Pairwise fun x y => (cmp x y).isLE = true := by
  refine List.pairwise_of_forall_mem_list fun x hx y hy => ?_
  have hxz : cmp x z = .eq := of_decide_eq_true (List.mem_filter.1 hx).2
  have hyz : cmp y z = .eq := of_decide_eq_true (List.mem_filter.1 hy).2
  have hzy : cmp z y = .eq := by rw [hr.swap y z, hyz, Ordering.swap]
  exact hr.isLE_trans x z y (by rw [hxz]; rfl) (by rw [hzy]; rfl)

/-- A stable sort leaves ties in the order they had. -/
lemma tied_stableSort (hr : compare.Ranks cmp) (z : α) (items : List α) :
    tied cmp z (stableSort cmp items) = tied cmp z items := by
  have hsub : (tied cmp z items).Sublist (stableSort cmp items) :=
    List.sublist_mergeSort hr.isLE_trans hr.isLE_total (hr.tied_pairwise z items)
      List.filter_sublist
  have hself : tied cmp z (tied cmp z items) = tied cmp z items :=
    List.filter_eq_self.2 fun _ hx => (List.mem_filter.1 hx).2
  have hsub' : (tied cmp z items).Sublist (tied cmp z (stableSort cmp items)) :=
    hself ▸ hsub.filter _
  have hlength : (tied cmp z (stableSort cmp items)).length = (tied cmp z items).length :=
    ((List.mergeSort_perm items _).filter _).length_eq
  exact (hsub'.eq_of_length hlength.symm).symm

/-- One item more in front of a list goes behind the items that come before it and in front of all
others. -/
lemma stableSort_cons (hr : compare.Ranks cmp) (x : α) (items : List α) :
    ∃ front back, stableSort cmp (x :: items) = front ++ x :: back
      ∧ stableSort cmp items = front ++ back
      ∧ (∀ y ∈ front, cmp y x = .lt) ∧ ∀ y ∈ back, cmp y x ≠ .lt := by
  obtain ⟨front, back, hcons, hitems, hfront⟩ :=
    List.mergeSort_cons hr.isLE_trans hr.isLE_total x items
  refine ⟨front, back, hcons, hitems, ?_, ?_⟩
  · intro y hy
    have hxy := hfront y hy
    rw [hr.swap x y]
    cases hc : cmp x y <;> simp_all
  · intro y hy hlt
    have hsorted := hr.stableSort_pairwise (x :: items)
    rw [stableSort, hcons] at hsorted
    have hxy := (List.pairwise_cons.1 (List.pairwise_append.1 hsorted).2.1).1 y hy
    rw [hr.swap y x, hlt] at hxy
    exact hxy rfl

end Comparison.Ranks

/-! ### One insertion -/

/-- The scan for a place ends where the items that come before `x` do. -/
lemma eq_length_front {front back : List α} {x : α} {n : Nat}
    (hfront : ∀ y ∈ front, cmp y x = .lt) (hback : ∀ y ∈ back, cmp y x ≠ .lt)
    (hn : n ≤ (front ++ back).length)
    (hpassed : ∀ k y, k < n → (front ++ back)[k]? = some y → cmp y x = .lt)
    (hstop : ∀ y, (front ++ back)[n]? = some y → cmp y x ≠ .lt) : n = front.length := by
  rcases Nat.lt_trichotomy n front.length with hlt | heq | hgt
  · have hget : (front ++ back)[n]? = some front[n] := by
      rw [List.getElem?_append_left hlt, List.getElem?_eq_getElem hlt]
    exact absurd (hfront _ (List.getElem_mem hlt)) (hstop _ hget)
  · exact heq
  · rw [List.length_append] at hn
    have hpos : 0 < back.length := by omega
    have hget : (front ++ back)[front.length]? = some back[0] := by
      rw [List.getElem?_append_right (Nat.le_refl _), Nat.sub_self, List.getElem?_eq_getElem hpos]
    exact absurd (hpassed _ _ hgt hget) (hback _ (List.getElem_mem hpos))

/-- An item that is carried down is inserted into the span in front of it. -/
lemma Carried.span_eq {place current : Nat} (hc : Carried place current xs ys) (hlo : lo ≤ place)
    (hle : place ≤ current) (hcur : lo < current) {x : α}
    (hx : xs[current]? = some x) {front back : List α}
    (hspan : span lo (current - 1) xs = front ++ back) (hplace : place - lo = front.length) :
    span lo current ys = front ++ x :: back := by
  have hitem : ∀ k, (front ++ back)[k]? = if lo + k ≤ current - 1 then xs[lo + k]? else none :=
    fun k => by rw [← hspan, getElem?_span]
  refine List.ext_getElem? fun k => ?_
  rw [getElem?_span]
  rcases Nat.lt_trichotomy k front.length with hk | rfl | hk
  · have hfront : (front ++ x :: back)[k]? = (front ++ back)[k]? := by
      rw [List.getElem?_append_left hk, List.getElem?_append_left hk]
    rw [hfront, hitem, if_pos (by omega), if_pos (by omega), hc.kept _ (by omega)]
  · rw [if_pos (by omega), show lo + front.length = place by omega, hc.carried, hx,
      List.getElem?_append_right (Nat.le_refl _), Nat.sub_self, List.getElem?_cons_zero]
  · have hback : (front ++ x :: back)[k]? = (front ++ back)[k - 1]? := by
      rw [List.getElem?_append_right (by omega), List.getElem?_append_right (by omega),
        show k - front.length = k - 1 - front.length + 1 by omega, List.getElem?_cons_succ]
    rw [hback, hitem]
    split_ifs with hin hin' hin'
    · rw [hc.shifted _ (by omega) hin, show lo + k - 1 = lo + (k - 1) by omega]
    · omega
    · omega
    · rfl

/-! ### Insertion sort -/

/-- Inserting the rest of a span: if its beginning is what a stable sort makes of the reversed
beginning, so is the whole span in the end. -/
lemma insertFrom_span (hr : compare.Ranks cmp) {current : Nat} (hlo : lo < current)
    (hcur : current ≤ hi + 1) (hs : hi < b.items.size)
    (hsorted : span lo (current - 1) b.items
      = stableSort cmp (span lo (current - 1) xs).reverse)
    (hrest : ∀ k, current ≤ k → b.items[k]? = xs[k]?)
    (h : insertFrom compare lo hi current b = .ok c) :
    span lo hi c.items = stableSort cmp (span lo hi xs).reverse := by
  fun_induction insertFrom compare lo hi current b with
  | case1 current b hle ih =>
    obtain ⟨place, d, hd, hitems, hge, hle', hpassed, hstop⟩ :=
      insertionPlace_ok compare (Nat.le_refl lo) (Nat.le_of_lt hlo) hle hs
    obtain ⟨e, he, hre, hcarried⟩ := carryDown_ok hge hle' hle (by rw [hitems]; exact hs)
    rw [hd, ok_bind] at h
    dsimp only at h
    rw [he, ok_bind] at h
    rw [hitems] at hre hcarried
    have hse : hi < e.items.size := by rw [hre.size_eq]; exact hs
    have hx : b.items[current]? = some b.items[current] := Array.getElem?_eq_getElem (by omega)
    -- the current item is the last of the span, so the first of the reversed one
    have hreverse : (span lo current xs).reverse
        = b.items[current] :: (span lo (current - 1) xs).reverse := by
      rw [span_succ hlo ((hrest current (Nat.le_refl _)).symm.trans hx), List.reverse_append,
        List.reverse_singleton, List.singleton_append]
    obtain ⟨front, back, hcons, hprefix, hfront, hback⟩ :=
      hr.stableSort_cons b.items[current] (span lo (current - 1) xs).reverse
    have hspan := hsorted.trans hprefix
    have hplace : place - lo = front.length := by
      refine eq_length_front hfront hback ?_ ?_ ?_
      · rw [← hspan, length_span (by omega)]
        omega
      · intro k y hk hy
        rw [← hspan, getElem?_span, if_pos (by omega)] at hy
        obtain ⟨t, ht⟩ := hpassed (lo + k) y _ (by omega) (by omega) hy hx
        rwa [hr.answer] at ht
      · intro y hy
        rw [← hspan, getElem?_span] at hy
        split_ifs at hy with hin
        rw [Nat.add_sub_cancel' hge] at hy
        obtain ⟨t, ht⟩ := hstop (by omega) y _ hy hx
        rwa [hr.answer] at ht
    refine ih e (by omega) (by omega) hse ?_ ?_ h
    · rw [Nat.add_sub_cancel, hreverse, hcons]
      exact hcarried.span_eq hge hle' hlo hx hspan hplace
    · intro k hk
      rw [hcarried.kept k (.inr hk)]
      exact hrest k (by omega)
  | case2 current b hgt =>
    cases h
    obtain rfl : current = hi + 1 := by omega
    exact hsorted

/-- The span of `ys` is what a stable sort makes of the reversed span of `xs`: it is in order, and
items that compare equal are in the opposite of the order they had. All other places have the items
that they had. -/
structure TiesReversed (cmp : α → α → Ordering) (lo hi : Nat) (xs ys : Array α) : Prop where
  size : ys.size = xs.size
  outside : ∀ k, k < lo ∨ hi < k → ys[k]? = xs[k]?
  stable : span lo hi ys = stableSort cmp (span lo hi xs).reverse
  sorted : (span lo hi ys).Pairwise fun x y => cmp x y ≠ .gt
  ties : ∀ z, tied cmp z (span lo hi ys) = (tied cmp z (span lo hi xs)).reverse

/-- The order and the ties of a span that was sorted stably from its reversal. -/
lemma TiesReversed.of_stable (hr : compare.Ranks cmp) (hsize : ys.size = xs.size)
    (houtside : ∀ k, k < lo ∨ hi < k → ys[k]? = xs[k]?)
    (hstable : span lo hi ys = stableSort cmp (span lo hi xs).reverse) :
    TiesReversed cmp lo hi xs ys where
  size := hsize
  outside := houtside
  stable := hstable
  sorted := by
    rw [hstable]
    exact hr.stableSort_pairwise _
  ties z := by rw [hstable, hr.tied_stableSort, tied, List.filter_reverse, tied]

/-- The insertion sort of a span reverses its ties. -/
lemma insertionSort_tiesReversed (hr : compare.Ranks cmp) (lo hi : Nat) (b : Bench τ α)
    (hs : lo ≤ hi → hi < b.items.size) :
    ∃ c, insertionSort compare lo hi b = .ok c ∧ TiesReversed cmp lo hi b.items c.items := by
  rcases Nat.lt_or_ge hi lo with hnone | hle
  · refine ⟨b, ?_, .of_stable hr rfl (fun _ _ => rfl) ?_⟩
    · rw [insertionSort, insertFrom, if_neg (by omega)]
      rfl
    · rw [stableSort_reverse_short]
      rw [span_eq_nil hnone, List.length_nil]
      exact Nat.zero_le 1
  · have hs' := hs hle
    obtain ⟨c, hc, hre⟩ : ∃ c, insertionSort compare lo hi b = .ok c
        ∧ Rearranged lo hi b.items c.items := insertionSort_rearranged compare hs'
    refine ⟨c, hc, .of_stable hr hre.size_eq (fun k hk => hre.getElem?_outside hk) ?_⟩
    refine insertFrom_span hr (Nat.lt_succ_self lo) (Nat.succ_le_succ hle) hs' ?_
      (fun _ _ => rfl) hc
    rw [Nat.succ_sub_one, stableSort_reverse_short]
    rw [length_span (Nat.lt_of_le_of_lt hle hs'), Nat.add_sub_cancel_left]

/-- Up to eight items are sorted by insertion. -/
lemma sortItems_short (direction : Direction) (hr : (direction.apply compare).Ranks cmp)
    {items : Array α} (hshort : items.size ≤ insertionLimit) (memory : τ) :
    ∃ c, sortItems direction compare items memory = .ok c
      ∧ c.items.toList = stableSort cmp items.toList.reverse := by
  rw [sortItems]
  split_ifs with hsize
  · obtain ⟨c, hc, hties⟩ := insertionSort_tiesReversed hr 0 (items.size - 1) ⟨items, memory, 0⟩
      fun _ => show items.size - 1 < items.size by omega
    refine ⟨c, ?_, ?_⟩
    · rw [quicksort_eq _ _ (Nat.zero_le _), if_pos (by unfold insertionLimit at *; omega), hc]
    · have hstable := hties.stable
      rwa [← hties.size, span_all, hties.size, span_all] at hstable
  · refine ⟨_, rfl, (stableSort_reverse_short ?_).symm⟩
    rw [Array.length_toList]
    exact Nat.le_of_not_lt hsize

/-- **Insertion sort** by a total preorder leaves what a stable sort makes of the reversed span, and
nothing else is touched, whatever the length of the span. So a sort of up to eight items is a stable
sort of the reversed items, upward as well as downward. -/
theorem ties_reversed (hr : compare.Ranks cmp) :
    (∀ (lo hi : Nat) (b : Bench τ α), (lo ≤ hi → hi < b.items.size) →
        ∃ c, insertionSort compare lo hi b = .ok c ∧ TiesReversed cmp lo hi b.items c.items)
      ∧ ∀ (items : Array α) (memory : τ), items.size ≤ insertionLimit →
        (∃ c, sortItems .up compare items memory = .ok c
            ∧ c.items.toList = stableSort cmp items.toList.reverse)
          ∧ ∃ c, sortItems .down compare items memory = .ok c
            ∧ c.items.toList = stableSort (fun x y => (cmp x y).swap) items.toList.reverse :=
  ⟨fun lo hi b hs => insertionSort_tiesReversed hr lo hi b hs, fun _ memory hshort =>
    ⟨sortItems_short .up hr hshort memory, sortItems_short .down hr.reversed hshort memory⟩⟩

/-- Eight entries with two keys, tagged in the order in which they stand. -/
def eightTied : Array Entry :=
  #[⟨2, 0⟩, ⟨1, 1⟩, ⟨2, 2⟩, ⟨1, 3⟩, ⟨1, 4⟩, ⟨2, 5⟩, ⟨1, 6⟩, ⟨2, 7⟩]

/-- The tags of equal keys end up in descending order, in either direction. -/
theorem ties_reversed_eight :
    (Comparison.byKey Entry.key : Comparison Unit Entry).Ranks
        (fun x y => Ord.compare x.key y.key)
      ∧ (∃ c, insertionSort (Comparison.byKey Entry.key) 1 5 ⟨eightTied, (), 0⟩ = .ok c
          ∧ span 1 5 c.items = [⟨1, 4⟩, ⟨1, 3⟩, ⟨1, 1⟩, ⟨2, 5⟩, ⟨2, 2⟩])
      ∧ (∃ c, sortItems .up (Comparison.byKey Entry.key) eightTied () = .ok c
          ∧ c.items.toList
            = [⟨1, 6⟩, ⟨1, 4⟩, ⟨1, 3⟩, ⟨1, 1⟩, ⟨2, 7⟩, ⟨2, 5⟩, ⟨2, 2⟩, ⟨2, 0⟩])
      ∧ ∃ c, sortItems .down (Comparison.byKey Entry.key) eightTied () = .ok c
          ∧ c.items.toList
            = [⟨2, 7⟩, ⟨2, 5⟩, ⟨2, 2⟩, ⟨2, 0⟩, ⟨1, 6⟩, ⟨1, 4⟩, ⟨1, 3⟩, ⟨1, 1⟩] := by
  have hranks := Comparison.byKey_ranks (τ := Unit) Entry.key
  obtain ⟨hspans, hshort⟩ := ties_reversed hranks
  obtain ⟨c, hc, hties⟩ := hspans 1 5 ⟨eightTied, (), 0⟩ fun _ => by decide
  obtain ⟨⟨d, hd, hup⟩, e, he, hdown⟩ := hshort eightTied () (by decide)
  refine ⟨hranks, ⟨c, hc, hties.stable.trans ?_⟩, ⟨d, hd, hup.trans ?_⟩, e, he, hdown.trans ?_⟩
  · cbv
  · cbv
  · cbv

end AnchoredArrays.Sorting
