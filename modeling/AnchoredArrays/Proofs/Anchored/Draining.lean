import AnchoredArrays.Proofs.Anchored.Contents
import AnchoredArrays.Proofs.Anchored.InPlace

/-!
Drains, call by call. What is left of an array after any number of its elements were asked for is
known at once, and asking for one more, counting what is left and dropping it are each said of that.

* `Drain.after`, `ofArray_eq_after`: the drain of an array after a number of calls;
* `next_after`, `remaining_after`, `close_after`: **one call**, at any time;
* `nextTimes_after`: **any number of calls**, also past the end;
* `drained_in_order`: what the calls answer and report, and what is dropped in the end.
-/

namespace AnchoredArrays.Drain

open Element Call Anchored

variable {α : Type} [Element α] {supply : Supply} {f : Frame (Drain α) α} {a : Anchored α}
  {items : List α} {m : Nat}

/-- The drain of an array with the given elements after `m` of them were asked for. -/
def after (items : List α) (m : Nat) : Drain α :=
  ⟨.ofList items, items.length, min m items.length⟩

@[simp] lemma after_slots : (after items m).slots = .ofList items := rfl

@[simp] lemma after_length : (after items m).length = items.length := rfl

@[simp] lemma after_taken : (after items m).taken = min m items.length := rfl

lemma after_consistent : (after items m).Consistent where
  taken_le := Nat.min_le_right _ _
  length_eq := congrArg List.length (Slots.toList_ofList items)

/-- What is left is what was not asked for. -/
lemma after_left : (after items m).left = items.drop m := by
  rw [left, after_slots, after_taken, Slots.toList_ofList]
  rcases Nat.le_total m items.length with hm | hm
  · rw [Nat.min_eq_left hm]
  · rw [Nat.min_eq_right hm, List.drop_length, List.drop_eq_nil_of_le hm]

lemma ofArray_eq_after (h : a.WellFormed) : ofArray a = after a.toList 0 := by
  rw [ofArray, after, h.length_eq', Nat.zero_min]
  congr 1
  exact Slots.eq_ofList rfl

/-- When nothing is left, asking for more makes no difference. -/
lemma after_succ (hm : items.length ≤ m) : after items (m + 1) = after items m := by
  rw [after, after, Nat.min_eq_right hm, Nat.min_eq_right (Nat.le_succ_of_le hm)]

/-! ### One call -/

/-- The next element is the one behind those that were asked for, if there is one. -/
lemma next_after (hf : f.held = after items m) :
    next supply f = (.ok items[m]?, { f with held := after items (m + 1) }) := by
  rw [next, held_bind, hf, after_taken, after_length, after_slots]
  by_cases hm : m < items.length
  · have hread : (Slots.ofList items).toList[m]? = some items[m] := by
      rw [Slots.toList_ofList, List.getElem?_eq_getElem hm]
    have hcount : m + 1 = min (m + 1) items.length := by omega
    rw [Nat.min_eq_left (Nat.le_of_lt hm), if_pos hm, Buffer.read_of_getElem? hread, pure_bind,
      hold_bind, List.getElem?_eq_getElem hm, after, ← hcount]
    rfl
  · have hend := Nat.not_lt.1 hm
    rw [if_neg (by omega), List.getElem?_eq_none hend, after_succ hend, ← hf]
    rfl

/-- What is left is counted without a borrow. -/
lemma remaining_after (hf : f.held = after items m) :
    remaining supply f = (.ok (items.length - min m items.length), f) := by
  rw [remaining, held_bind, hf, after_length, after_taken,
    minus_of_le (Nat.min_le_right m items.length)]
  rfl

/-- What is dropped is what was not asked for. -/
lemma close_after (hf : f.held = after items m) :
    close supply f = (.ok (), { f with tally :=
      { f.tally with dropped := .ofList (items.drop m) ++ f.tally.dropped } }) := by
  have hconsistent : f.held.Consistent := hf ▸ after_consistent
  rw [close_apply supply hconsistent, hf, after_left]

/-! ### Any number of calls -/

/-- **Any number of calls** answers the elements that follow, and nothing past the end. -/
lemma nextTimes_after (n : Nat) (hf : f.held = after items m) :
    nextTimes n supply f
      = (.ok ((List.range' m n).map (items[·]?),
            (List.range' (m + 1) n).map fun j => items.length - min j items.length),
          { f with held := after items (m + n) }) := by
  induction n generalizing m f with
  | zero =>
    obtain ⟨held, copies, tally⟩ := f
    subst hf
    rfl
  | succ n ih =>
    have hrest := ih (m := m + 1) (f := { f with held := after items (m + 1) }) rfl
    have hcount : m + 1 + n = m + (n + 1) := by omega
    rw [nextTimes, bind_apply, next_after hf]
    dsimp only
    rw [bind_apply, remaining_after (m := m + 1) rfl]
    dsimp only
    rw [bind_apply, hrest, hcount]
    rfl

/-- The answers are the first elements, and nothing from then on. -/
lemma map_getElem? {β : Type} (items : List β) (n : Nat) :
    (List.range' 0 n).map (items[·]?)
      = (items.take n).map some ++ List.replicate (n - items.length) none := by
  have hlength : ((items.take n).map some).length = min n items.length := by simp
  apply List.ext_getElem?
  intro j
  rw [List.getElem?_append, hlength]
  by_cases hj : j < n
  · rw [List.getElem?_map, List.getElem?_range' hj]
    split_ifs with hin
    · have hitem : j < items.length := by omega
      simp [hj, List.getElem?_eq_getElem hitem]
    · have hend : items.length ≤ j := by omega
      rw [List.getElem?_replicate, if_pos (by omega)]
      simpa using hend
  · rw [if_neg (by omega), List.getElem?_replicate, if_neg (by omega), List.getElem?_eq_none]
    simpa using Nat.not_lt.1 hj

/-- Asking for elements and dropping the rest, call by call. -/
lemma take_after (n : Nat) (hf : f.held = after items 0) :
    take n supply f
      = (.ok ((items.take n).map some ++ List.replicate (n - items.length) none,
            (List.range (n + 1)).map fun j => items.length - min j items.length),
          { f with
            held := after items n
            tally := { f.tally with dropped := .ofList (items.drop n) ++ f.tally.dropped } }) := by
  have hcalls : nextTimes n supply f = _ := nextTimes_after n hf
  rw [Nat.zero_add, Nat.zero_add, map_getElem?] at hcalls
  rw [take, bind_apply, remaining_after hf]
  dsimp only
  rw [bind_apply, hcalls]
  dsimp only
  rw [bind_apply, close_after (f := { f with held := after items n }) rfl, List.range_eq_range']
  rfl

/-- **A drain yields the elements in order.** However many elements are asked for, nothing faults,
is copied or asks for a buffer. The answers are the first elements themselves, each from the
position that it had, and nothing once they are used up; before the first call and after each, what
is left is what was not asked for; and in the end exactly the others are dropped, once each. -/
theorem drained_in_order (h : a.WellFormed) (n : Nat) (supply : Supply) :
    ∃ xs left g, (take n).run supply (ofArray a) = (.ok (xs, left), g)
      ∧ xs = (a.toList.take n).map some ++ List.replicate (n - a.length) none
      ∧ (∀ j < n, ∀ i : Int64, i.toInt = a.lower.toInt + j → xs[j]? = some (a.get? i))
      ∧ left = (List.range (n + 1)).map (fun j => a.length - min j a.length)
      ∧ g.tally.dropped.toList = a.toList.drop n
      ∧ g.tally.copied.toList = [] ∧ g.tally.requests = [] := by
  have hrun : (take n).run supply (ofArray a) = _ :=
    take_after (f := ⟨ofArray a, supply.copies, .blank⟩) n (ofArray_eq_after h)
  rw [h.length_eq']
  refine ⟨_, _, _, hrun, rfl, fun j hj i hi => ?_, rfl, ?_, Slots.toList_nil, rfl⟩
  · have hslot : slotOf a.lower i = j := by
      rw [slotOf, hi]
      omega
    rw [← map_getElem?, List.getElem?_map, List.getElem?_range' hj, h.get?_eq, hslot,
      if_pos (by omega)]
    simp
  · simp [Tally.blank]

/-- Two of three elements are asked for, the first of them at the smallest position. -/
theorem drained_in_order_lowest :
    lowestThree.WellFormed
      ∧ ∃ g, (take 2).run .ample (ofArray lowestThree)
          = (.ok ([some ⟨10, 0⟩, some ⟨20, 0⟩], [3, 2, 1]), g)
        ∧ g.tally.dropped.toList = [⟨30, 0⟩] := by
  obtain ⟨xs, left, g, hrun, hxs, -, hleft, hdropped, -⟩ :=
    drained_in_order lowestThree_wellFormed 2 .ample
  subst hxs hleft
  exact ⟨lowestThree_wellFormed, g, hrun, hdropped.trans rfl⟩

end AnchoredArrays.Drain
