import AnchoredArrays.Proofs.Anchored.Shifting
import AnchoredArrays.Anchored.Removing

/-!
Removing elements. The gap is closed before the shorter buffer is asked for, and opened and filled
again if it is refused; the point of this module is that the refused removal then holds the array
that it started from.

* `closeGap_eq`: closing a gap, shortening the buffer and undoing both if that is refused is
  shortening the array of the other elements;
* `cutRun_eq`: **cutting out a run** takes two buffers, one for the run and one for the rest;
* `removal`, `elementSlot_eq`: the plan for removing an element, and when there is one;
* `remove_eq`, `swapRemove_eq`, `removeRun_eq`: **removing elements** carries out such a plan;
* `removal_parts`, `removal_of_room`, `runRemoval_parts`, `runRemoval_of_room`: what is removed from
  between which others, and that it is where these find a place.
-/

namespace AnchoredArrays.Anchored

open Element Call

variable {α σ ρ : Type} [Element α] {supply : Supply} {operation : Operation}
  {a : Anchored α} {f : Frame (Anchored α) α} {i : Int64} {start n : Nat} {xs mid ys : List α}

/-! ### Closing a gap -/

/-- Closing the gap that `mid` leaves and shortening the buffer is one request. If it is refused,
the gap is opened again and filled with what was there. -/
lemma closeGap_eq (hitems : f.held.toList = xs ++ mid ++ ys)
    (hroom : Room α f.held.lower (xs.length + ys.length)) {taken : Slots α}
    (htaken : taken.toList = mid) (r : ρ) :
    (do
        let closed ← Buffer.copyWithin f.held.slots (xs.length + mid.length) xs.length ys.length
        hold { f.held with slots := closed }
        (shrinkTo operation (xs.length + ys.length)).orUndo do
          let b ← held
          let opened ← Buffer.copyWithin b.slots xs.length (xs.length + mid.length) ys.length
          let slots ← Buffer.write opened xs.length taken
          hold { b with slots }
        pure r) supply f
      = carryOut operation (.ok ⟨[xs.length + ys.length], laid f.held.lower (xs ++ ys), r⟩)
          supply f := by
  obtain ⟨pad, hpad, hdown⟩ :=
    Buffer.copyWithin_down (σ := Anchored α) (α := α) (s := f.held.slots) hitems
  rw [hdown, pure_bind]
  refine hold_orUndo operation _ r ?_ ?_
  · intro g hg
    have hclosed : g.held.toList = xs ++ ys ++ pad := by
      rw [hg]
      exact Slots.toList_ofList _
    rw [shrinkTo_eq (by rw [hclosed]; simp) (by rw [hg]; exact hroom), hclosed, hg,
      ← List.length_append, List.take_left]
  · intro g hg
    -- what is in the gap after it was opened is written over
    obtain ⟨gap, hgap, hup⟩ := Buffer.copyWithin_up (σ := Anchored α) (α := α)
      (Slots.toList_ofList (xs ++ ys ++ pad))
    rw [hpad] at hgap hup
    rw [held_bind, hg]
    dsimp only
    rw [hup, pure_bind, Buffer.write_gap (Slots.toList_ofList _)
      (by rw [← Slots.length_toList, htaken, hgap]), pure_bind, htaken, ← hitems,
      hold_apply, with_own_items]

/-- **Cutting out a run** takes a buffer for the run and one for the rest. -/
lemma cutRun_eq (h : f.held.WellFormed) (hitems : f.held.toList = xs ++ mid ++ ys)
    (hmid : Room α f.held.lower mid.length)
    (hrest : Room α f.held.lower (xs.length + ys.length)) :
    cutRun operation xs.length mid.length supply f
      = carryOut operation (.ok ⟨[mid.length, xs.length + ys.length],
          laid f.held.lower (xs ++ ys), laid f.held.lower mid⟩) supply f := by
  have hlength : f.held.toList.length = xs.length + mid.length + ys.length := by
    rw [hitems, List.length_append, List.length_append]
  have hrun : (f.held.toList.drop xs.length).take mid.length = mid := by
    rw [hitems, List.append_assoc, List.drop_left, List.take_left]
  have hbehind : f.held.toList.length - xs.length - mid.length = ys.length := by omega
  have hothers : f.held.toList.length - mid.length = xs.length + ys.length := by omega
  rw [cutRun, held_bind, carryOut_cons]
  simp only [h.length_eq', minus_of_le (show xs.length ≤ f.held.toList.length by omega),
    minus_of_le (show mid.length ≤ f.held.toList.length - xs.length by omega),
    minus_of_le (show mid.length ≤ f.held.toList.length by omega),
    moveOut_eq (show xs.length + mid.length ≤ f.held.toList.length by omega) hmid, hrun, hbehind,
    hothers, pure_bind, bind_assoc]
  refine obtain_bind_congr ?_
  intro g hg
  rw [← hg] at hitems hrest ⊢
  exact closeGap_eq hitems hrest (Slots.toList_ofList mid) _

/-- A run of a list, with what is in front of it and what is behind it. -/
lemma split_run {β : Type} (items : List β) (start n : Nat) :
    items = items.take start ++ (items.drop start).take n ++ items.drop (start + n) := by
  rw [List.append_assoc, ← List.drop_drop, List.take_append_drop, List.take_append_drop]

/-- **Cutting out a run**, by its first slot and its length. -/
lemma cutRun_slots (h : f.held.WellFormed) (hn : start + n ≤ f.held.toList.length)
    (hends : n = 0 ∨ n = f.held.toList.length → f.held.lower ≠ Position.least) :
    cutRun operation start n supply f
      = carryOut operation (.ok ⟨[n, f.held.toList.length - n],
          laid f.held.lower (f.held.toList.take start ++ f.held.toList.drop (start + n)),
          laid f.held.lower ((f.held.toList.drop start).take n)⟩) supply f := by
  obtain ⟨xs, mid, ys, hitems, rfl, rfl⟩ : ∃ xs mid ys, f.held.toList = xs ++ mid ++ ys
      ∧ xs.length = start ∧ mid.length = n :=
    ⟨_, _, _, split_run f.held.toList start n, List.length_take_of_le (by omega),
      List.length_take_of_le (by rw [List.length_drop]; omega)⟩
  have hlength : f.held.toList.length = xs.length + mid.length + ys.length := by
    rw [hitems, List.length_append, List.length_append]
  have hothers : f.held.toList.length - mid.length = xs.length + ys.length := by omega
  have hrest : Room α f.held.lower (xs.length + ys.length) :=
    h.room.of_le (by omega) fun hz => hends (.inr (by omega))
  rw [cutRun_eq h hitems (h.room.of_le (by omega) fun hz => hends (.inl hz)) hrest, hothers,
    hitems]
  simp only [List.append_assoc, List.take_left, List.drop_left, ← List.length_append]
  simp [← List.append_assoc]

/-! ### Removing one element -/

/-- The plan for removing the element at position `i` and leaving `rest`. -/
def removal (a : Anchored α) (i : Int64) (rest : List α) : Except Reason (Plan (Anchored α) α) :=
  match a.get? i with
  | none => .error .noElement
  | some x =>
    if a.toList.length = 1 ∧ a.lower = Position.least then .error .noEmptyAnchor
    else .ok ⟨[a.toList.length - 1], laid a.lower rest, x⟩

/-- The positions of elements are those at which there is one. -/
lemma elementSlot_eq (h : a.WellFormed) (i : Int64) :
    (elementSlot operation a i : Call σ α Nat)
      = checked operation
          (if a.contains i = true then .ok (slotOf a.lower i) else .error .noElement) := by
  rw [elementSlot]
  by_cases hin : a.contains i = true
  · have hlow := (h.contains_iff.1 hin).1
    simp only [contains, Bool.and_eq_true, decide_eq_true_eq, Int64.le_iff_toInt_le] at hin
    rw [if_neg, offsetOf_of_le hlow, if_pos]
    · rfl
    · simpa [contains, Int64.le_iff_toInt_le] using hin
    · rw [Int64.lt_iff_toInt_lt, Int64.lt_iff_toInt_lt]
      omega
  · rw [if_neg hin, if_pos]
    · rfl
    · simp only [contains, Bool.and_eq_true, decide_eq_true_eq, Int64.le_iff_toInt_le] at hin
      rw [Int64.lt_iff_toInt_lt, Int64.lt_iff_toInt_lt]
      omega

/-- Finding an element, and checking that the array without it has an upper bound, carry out the
plan for removing it, if what follows does so for the elements around it. -/
lemma elementSlot_bind (h : f.held.WellFormed) {next : Nat → Call (Anchored α) α α}
    {rest : List α}
    (hnext : ∀ xs x ys, f.held.toList = xs ++ [x] ++ ys → slotOf f.held.lower i = xs.length →
      Room α f.held.lower (xs.length + ys.length) →
      next xs.length supply f = carryOut operation
        (.ok ⟨[xs.length + ys.length], laid f.held.lower rest, x⟩) supply f) :
    (do
        let k ← elementSlot operation f.held i
        if f.held.length = 1 then
          checked operation (Position.emptyAt f.held.lower)
        next k) supply f
      = carryOut operation (removal f.held i rest) supply f := by
  rw [elementSlot_eq h, removal]
  by_cases hin : f.held.contains i = true
  · obtain ⟨hlow, hslot⟩ := h.contains_iff.1 hin
    have hitems : f.held.toList = f.held.toList.take (slotOf f.held.lower i)
        ++ [f.held.toList[slotOf f.held.lower i]]
        ++ f.held.toList.drop (slotOf f.held.lower i + 1) := by simp
    have hlength : (f.held.toList.take (slotOf f.held.lower i)).length = slotOf f.held.lower i :=
      List.length_take_of_le (Nat.le_of_lt hslot)
    have hrest : f.held.toList.length - 1 = slotOf f.held.lower i
        + (f.held.toList.drop (slotOf f.held.lower i + 1)).length := by
      rw [List.length_drop]
      omega
    rw [if_pos hin, checked_ok, pure_bind, h.get?_eq, if_pos hlow,
      List.getElem?_eq_getElem hslot, h.length_eq']
    dsimp only
    have hnext' := hnext _ _ _ hitems hlength.symm
    rw [hlength, ← hrest] at hnext'
    by_cases hlast : f.held.toList.length = 1 ∧ f.held.lower = Position.least
    · rw [checked_emptyAt_least operation _ hlast, if_pos hlast, carryOut_error]
    · have hroom : Room α f.held.lower (f.held.toList.length - 1) :=
        h.room.of_le (Nat.sub_le ..) fun hz hlower => hlast ⟨by omega, hlower⟩
      rw [checked_emptyAt operation _ hlast, if_neg hlast, hnext' hroom]
  · have hnone : f.held.get? i = none := if_neg hin
    rw [if_neg hin, hnone]
    rfl

lemma eraseIdx_between {β : Type} (xs ys : List β) (x : β) :
    (xs ++ [x] ++ ys).eraseIdx xs.length = xs ++ ys := by
  rw [List.append_assoc, List.eraseIdx_append_of_length_le (Nat.le_refl _), Nat.sub_self]
  rfl

/-- **Removing an element** carries out the plan that closes the gap. -/
lemma remove_eq (h : f.held.WellFormed) (i : Int64) :
    remove i supply f = (do
      trace .remove [f.held.bounds, .position i]
      carryOut .remove
        (removal f.held i (f.held.toList.eraseIdx (slotOf f.held.lower i)))) supply f := by
  rw [remove, held_bind, trace_bind, trace_bind]
  refine elementSlot_bind (f := f.leaving _) h ?_
  intro xs x ys hitems hslot hroom
  rw [Frame.leaving_held] at *
  have hlength : f.held.toList.length = xs.length + 1 + ys.length := by
    rw [hitems, List.length_append, List.length_append, List.length_singleton]
  have hbehind : f.held.toList.length - xs.length - 1 = ys.length := by omega
  have hothers : f.held.toList.length - 1 = xs.length + ys.length := by omega
  have hx : f.held.slots.toList[xs.length]? = some x := by
    rw [← toList, hitems]
    simp
  simp only [h.length_eq', minus_of_le (show xs.length ≤ f.held.toList.length by omega),
    minus_of_le (show 1 ≤ f.held.toList.length - xs.length by omega),
    minus_of_le (show 1 ≤ f.held.toList.length by omega), Buffer.read_of_getElem? hx, hbehind,
    hothers, pure_bind]
  have herase : f.held.toList.eraseIdx (slotOf f.held.lower i) = xs ++ ys := by
    rw [hslot, hitems, eraseIdx_between]
  rw [herase]
  exact closeGap_eq (f := f.leaving _) hitems hroom (Slots.toList_single x) x

/-- The elements without the one in slot `k`, whose place the last one takes. -/
def swapErase {β : Type} (items : List β) (k : Nat) : List β :=
  match items.getLast? with
  | none => []
  | some y => (items.set k y).dropLast

/-- The last element takes the place of another one. -/
lemma swapErase_append {β : Type} (xs zs : List β) (x y : β) :
    swapErase (xs ++ [x] ++ (zs ++ [y])) xs.length = xs ++ [y] ++ zs := by
  have hset : (xs ++ [x] ++ (zs ++ [y])).set xs.length y = (xs ++ [y] ++ zs) ++ [y] := by simp
  rw [swapErase, ← List.append_assoc, List.getLast?_concat]
  dsimp only
  rw [List.append_assoc, hset, List.dropLast_concat]

/-- The last element itself just goes. -/
lemma swapErase_concat {β : Type} (xs : List β) (x : β) :
    swapErase (xs ++ [x]) xs.length = xs := by
  rw [swapErase, List.getLast?_concat]
  simp

/-- Removing the last element is one request. If it is refused, the element is written back. -/
lemma dropLast_eq {x : α} (hitems : f.held.toList = xs ++ [x])
    (hroom : Room α f.held.lower xs.length) :
    (do
        (shrinkTo operation xs.length).orUndo do
          let b ← held
          let slots ← Buffer.write b.slots xs.length (.single x)
          hold { b with slots }
        pure x) supply f
      = carryOut operation (.ok ⟨[xs.length], laid f.held.lower xs, x⟩) supply f := by
  refine (hold_bind f.held _).symm.trans (hold_orUndo operation _ x ?_ ?_)
  · intro g hg
    rw [shrinkTo_eq (by rw [hg, hitems]; simp) (by rw [hg]; exact hroom), hg, hitems,
      List.take_left]
  · intro g hg
    have hslots : g.held.slots.toList = xs ++ [x] ++ [] := by
      rw [hg, ← toList, hitems, List.append_nil]
    rw [held_bind, Buffer.write_gap hslots (Slots.length_single x), pure_bind, hold_apply, hg,
      Slots.toList_single, List.append_nil, ← hitems, with_own_items]

/-- Moving the last element into the place of another one and shortening the buffer is one request.
If it is refused, both elements are written back. -/
lemma moveLast_eq {x y : α} {zs : List α} (hitems : f.held.toList = xs ++ [x] ++ (zs ++ [y]))
    (hroom : Room α f.held.lower (xs.length + (zs ++ [y]).length)) :
    (do
        let moved ← Buffer.copyWithin f.held.slots (xs.length + (zs ++ [y]).length) xs.length 1
        hold { f.held with slots := moved }
        (shrinkTo operation (xs.length + (zs ++ [y]).length)).orUndo do
          let b ← held
          let moved ← Buffer.copyWithin b.slots xs.length (xs.length + (zs ++ [y]).length) 1
          hold { b with slots := moved }
          let b ← held
          let slots ← Buffer.write b.slots xs.length (.single x)
          hold { b with slots }
        pure x) supply f
      = carryOut operation
          (.ok ⟨[xs.length + (zs ++ [y]).length], laid f.held.lower (xs ++ [y] ++ zs), x⟩)
          supply f := by
  have hlast : (xs ++ [x] ++ zs).length = xs.length + (zs ++ [y]).length := by simp
  have hlast' : (xs ++ [y] ++ zs).length = xs.length + (zs ++ [y]).length := by simp
  have hback : f.held.slots.toList = (xs ++ [x] ++ zs) ++ [y] ++ [] := by
    rw [← toList, hitems]
    simp
  have hmoved : (Buffer.copyWithin f.held.slots (xs.length + (zs ++ [y]).length) xs.length 1
      : Call (Anchored α) α (Slots α)) = pure (.ofList (xs ++ [y] ++ (zs ++ [y]))) := by
    rw [← hlast]
    exact Buffer.copyWithin_eq hback hitems rfl
  rw [hmoved, pure_bind]
  refine hold_orUndo operation _ x ?_ ?_
  · intro g hg
    have hheld : g.held.toList = (xs ++ [y] ++ zs) ++ [y] := by
      rw [hg, toList, Slots.toList_ofList]
      simp
    rw [shrinkTo_eq (by rw [hheld, ← hlast']; simp) (by rw [hg]; exact hroom), hheld, hg,
      ← hlast', List.take_left]
  · intro g hg
    -- the last element is still in its own slot as well
    have hfront : (Slots.ofList (xs ++ [y] ++ (zs ++ [y]))).toList = xs ++ [y] ++ (zs ++ [y]) :=
      Slots.toList_ofList _
    have hend : (Slots.ofList (xs ++ [y] ++ (zs ++ [y]))).toList
        = (xs ++ [y] ++ zs) ++ [y] ++ [] := by
      rw [hfront]
      simp
    have hagain : (Buffer.copyWithin (.ofList (xs ++ [y] ++ (zs ++ [y]))) xs.length
        (xs.length + (zs ++ [y]).length) 1 : Call (Anchored α) α (Slots α))
          = pure (.ofList (xs ++ [y] ++ (zs ++ [y]))) := by
      rw [← hlast', ← List.length_singleton, Buffer.copyWithin_eq hfront hend rfl]
      simp
    rw [held_bind, hg]
    dsimp only
    rw [hagain, pure_bind, hold_bind, held_bind,
      Buffer.write_gap hfront (Slots.length_single x), pure_bind, hold_apply,
      Slots.toList_single, ← hitems]
    dsimp only
    rw [with_own_items]

/-- **Removing an element by the last one** carries out the plan that swaps them. -/
lemma swapRemove_eq (h : f.held.WellFormed) (i : Int64) :
    swapRemove i supply f = (do
      trace .swapRemove [f.held.bounds, .position i]
      carryOut .swapRemove
        (removal f.held i (swapErase f.held.toList (slotOf f.held.lower i)))) supply f := by
  rw [swapRemove, held_bind, trace_bind, trace_bind]
  refine elementSlot_bind (f := f.leaving _) h ?_
  intro xs x ys hitems hslot hroom
  rw [Frame.leaving_held] at *
  have hlength : f.held.toList.length = xs.length + 1 + ys.length := by
    rw [hitems, List.length_append, List.length_append, List.length_singleton]
  have hlast : f.held.toList.length - 1 = xs.length + ys.length := by omega
  have hx : f.held.slots.toList[xs.length]? = some x := by
    rw [← toList, hitems]
    simp
  simp only [h.length_eq', minus_of_le (show 1 ≤ f.held.toList.length by omega),
    Buffer.read_of_getElem? hx, hlast, pure_bind]
  rw [hslot, hitems]
  rcases List.eq_nil_or_concat ys with rfl | ⟨zs, y, rfl⟩
  · rw [List.append_nil] at *
    rw [swapErase_concat]
    simp only [ne_eq, not_true_eq_false, if_false, List.length_nil, Nat.add_zero]
    exact dropLast_eq (f := f.leaving _) hitems hroom
  · rw [List.concat_eq_append] at *
    have hne : xs.length ≠ xs.length + (zs ++ [y]).length := by simp
    rw [swapErase_append]
    simp only [if_pos hne]
    exact moveLast_eq (f := f.leaving _) hitems hroom

/-! ### Removing several elements -/

/-- A run is cut short where the array ends. -/
lemma WellFormed.runLength_eq (h : a.WellFormed) {n : Int64} (hn : 0 ≤ n.toInt)
    (hlow : a.lower.toInt ≤ i.toInt) (hslot : slotOf a.lower i < a.toList.length) :
    min n.toInt (a.upper.toInt - i.toInt + 1)
      = (min n.toInt.toNat (a.toList.length - slotOf a.lower i) : Nat) := by
  have hu := h.toInt_upper
  simp only [slotOf] at *
  omega

/-- The plan for removing up to `n` elements from position `i` on. -/
def runRemoval (a : Anchored α) (i n : Int64) :
    Except Reason (Plan (Anchored α) (Anchored α)) :=
  if n.toInt < 0 then .error .negativeLength
  else if a.contains i = true then
    let k := slotOf a.lower i
    let m := min n.toInt.toNat (a.toList.length - k)
    if (m = 0 ∨ m = a.toList.length) ∧ a.lower = Position.least then .error .noEmptyAnchor
    else
      .ok ⟨[m, a.toList.length - m], laid a.lower (a.toList.take k ++ a.toList.drop (k + m)),
        laid a.lower ((a.toList.drop k).take m)⟩
  else .error .noElement

/-- **Removing several elements** carries out the plan for them. -/
lemma removeRun_eq (h : f.held.WellFormed) (i n : Int64) :
    removeRun i n supply f = (do
      trace .removeRun [f.held.bounds, .position i, .position n]
      carryOut .removeRun (runRemoval f.held i n)) supply f := by
  rw [removeRun, held_bind, trace_bind, trace_bind, runRemoval]
  simp only [Int64.lt_iff_toInt_lt, Int64.toInt_zero]
  by_cases hn : n.toInt < 0
  · rw [if_pos hn, if_pos hn]
    rfl
  rw [if_neg hn, if_neg hn, elementSlot_eq h]
  by_cases hin : f.held.contains i = true
  · have hslot := (h.contains_iff.1 hin).2
    rw [if_pos hin, if_pos hin, checked_ok, pure_bind, requested_of_nonneg (Int.not_lt.1 hn),
      pure_bind, h.length_eq', minus_of_le (Nat.le_of_lt hslot), pure_bind]
    generalize slotOf f.held.lower i = k at *
    obtain ⟨m, hm⟩ : ∃ m, m = min n.toInt.toNat (f.held.toList.length - k) := ⟨_, rfl⟩
    rw [← hm]
    by_cases hlast : (m = 0 ∨ m = f.held.toList.length) ∧ f.held.lower = Position.least
    · rw [checked_emptyAt_least _ _ hlast, if_pos hlast, carryOut_error]
    rw [checked_emptyAt _ _ hlast, if_neg hlast]
    exact cutRun_slots (f := f.leaving _) h (show k + m ≤ f.held.toList.length by omega)
      fun hends hlower => hlast ⟨hends, hlower⟩
  · rw [if_neg hin, if_neg hin]
    rfl

/-! ### What is removed and what is left -/

section Parts

variable {lower : Int64} {n : Int64} {x : α}

/-- A position that is removed splits the elements. -/
lemma removal_parts (h : a.WellFormed) {p : Plan (Anchored α) α}
    (hp : removal a i (a.toList.eraseIdx (slotOf a.lower i)) = .ok p) :
    ∃ xs ys, a.toList = xs ++ [p.result] ++ ys ∧ i.toInt = a.lower.toInt + xs.length
      ∧ p.after = laid a.lower (xs ++ ys) := by
  rw [removal, h.get?_eq] at hp
  split at hp
  · cases hp
  · rename_i x hx
    split_ifs at hx with hlow
    split_ifs at hp with hlast
    cases hp
    obtain ⟨hslot, hx⟩ := List.getElem?_eq_some_iff.1 hx
    refine ⟨a.toList.take (slotOf a.lower i), a.toList.drop (slotOf a.lower i + 1), ?_,
      toInt_eq_take hlow (Nat.le_of_lt hslot), ?_⟩
    · simp [← hx]
    · rw [List.eraseIdx_eq_take_drop_succ]

/-- A run that is removed splits the elements. -/
lemma runRemoval_parts (h : a.WellFormed) {p : Plan (Anchored α) (Anchored α)}
    (hp : runRemoval a i n = .ok p) :
    ∃ xs mid ys, a.toList = xs ++ mid ++ ys ∧ i.toInt = a.lower.toInt + xs.length
      ∧ (mid.length : Int) = min n.toInt (a.upper.toInt - i.toInt + 1)
      ∧ p.after = laid a.lower (xs ++ ys) ∧ p.result = laid a.lower mid := by
  rw [runRemoval] at hp
  dsimp only at hp
  split_ifs at hp with hn hin hlast
  obtain ⟨hlow, hslot⟩ := h.contains_iff.1 hin
  have hcut := h.runLength_eq (Int.not_lt.1 hn) hlow hslot
  cases hp
  generalize hm : min n.toInt.toNat (a.toList.length - slotOf a.lower i) = m at hcut ⊢
  refine ⟨_, _, _, split_run a.toList (slotOf a.lower i) m,
    toInt_eq_take hlow (Nat.le_of_lt hslot), ?_, rfl, rfl⟩
  rw [hcut, List.length_take_of_le]
  rw [List.length_drop]
  omega

/-- An element is removed from between others if those find a place. -/
lemma removal_of_room (h : (laid lower (xs ++ [x] ++ ys)).WellFormed)
    (hi : i.toInt = lower.toInt + xs.length) (hrest : Room α lower (xs ++ ys).length) :
    ∃ buffers, removal (laid lower (xs ++ [x] ++ ys)) i
        ((xs ++ [x] ++ ys).eraseIdx (slotOf lower i))
      = .ok ⟨buffers, laid lower (xs ++ ys), x⟩ := by
  have hslot : slotOf lower i = xs.length := by
    rw [slotOf]
    omega
  have hget : (laid lower (xs ++ [x] ++ ys)).get? i = some x := by
    rw [h.get?_eq, laid_lower, laid_toList, hslot, if_pos (by omega)]
    simp
  rw [removal, hget, hslot, eraseIdx_between]
  dsimp only
  rw [if_neg]
  · exact ⟨_, rfl⟩
  · rintro ⟨hone, hlower⟩
    rw [laid_toList] at hone
    refine hrest.starts ?_ hlower
    simp only [List.length_append, List.length_singleton] at hone ⊢
    omega

/-- Elements are removed from between others if those find a place. -/
lemma runRemoval_of_room (h : (laid lower (xs ++ mid ++ ys)).WellFormed)
    (hi : i.toInt = lower.toInt + xs.length) (hn : n.toInt = mid.length) (hsome : mid ≠ [])
    (hrest : Room α lower (xs ++ ys).length) :
    ∃ buffers, runRemoval (laid lower (xs ++ mid ++ ys)) i n
      = .ok ⟨buffers, laid lower (xs ++ ys), laid lower mid⟩ := by
  have hpos := List.length_pos_iff.2 hsome
  have hslot : slotOf lower i = xs.length := by
    rw [slotOf]
    omega
  have hlength : (xs ++ mid ++ ys).length = xs.length + mid.length + ys.length := by
    rw [List.length_append, List.length_append]
  have hin : (laid lower (xs ++ mid ++ ys)).contains i = true := by
    rw [h.contains_iff, laid_lower, laid_toList, hslot, hlength]
    omega
  have hcut : min n.toInt.toNat ((xs ++ mid ++ ys).length - xs.length) = mid.length := by
    rw [hn, hlength]
    omega
  have hbehind : (xs ++ mid ++ ys).drop (xs.length + mid.length) = ys := by
    rw [← List.length_append, List.drop_left]
  rw [runRemoval, if_neg (by omega), if_pos hin]
  simp only [laid_lower, laid_toList, hslot, hcut, hbehind]
  rw [if_neg, List.append_assoc, List.take_left, List.drop_left, List.take_left]
  · exact ⟨_, rfl⟩
  · rintro ⟨hall, hlower⟩
    rw [List.length_append] at hrest
    exact hrest.starts (by omega) hlower

end Parts

/-! ### All or nothing -/

/-- An array from which an element was removed is well-formed. -/
lemma removal_wellFormed (h : a.WellFormed) {rest : List α} {p : Plan (Anchored α) α}
    (hp : removal a i rest = .ok p)
    (hrest : slotOf a.lower i < a.toList.length → rest.length = a.toList.length - 1) :
    p.after.WellFormed := by
  rw [removal, h.get?_eq] at hp
  split at hp
  · cases hp
  · rename_i x hx
    split_ifs at hx with hlow
    split_ifs at hp with hlast
    cases hp
    obtain ⟨hslot, -⟩ := List.getElem?_eq_some_iff.1 hx
    apply Room.wellFormed
    rw [hrest hslot]
    exact h.room.of_le (Nat.sub_le ..) fun hz hlower => hlast ⟨by omega, hlower⟩

/-- The buffer of a shorter array is not too long. -/
lemma removal_fits (h : a.WellFormed) {rest : List α} {p : Plan (Anchored α) α}
    (hp : removal a i rest = .ok p) : ∀ n ∈ p.buffers, n ≤ maxLength α := by
  have hfits := h.room.fits
  rw [removal] at hp
  split at hp
  · cases hp
  · split_ifs at hp
    cases hp
    exact List.forall_mem_singleton.2 (by omega)

/-- Both arrays of a removed run are well-formed. -/
lemma runRemoval_wellFormed (h : a.WellFormed) {n : Int64}
    {p : Plan (Anchored α) (Anchored α)} (hp : runRemoval a i n = .ok p) :
    p.result.WellFormed ∧ p.after.WellFormed := by
  rw [runRemoval] at hp
  dsimp only at hp
  split_ifs at hp with hn hin hlast
  have hslot := (h.contains_iff.1 hin).2
  cases hp
  constructor
  · apply Room.wellFormed
    simp only [List.length_take, List.length_drop]
    exact h.room.of_le (by omega) fun hz hlower => hlast ⟨by omega, hlower⟩
  · apply Room.wellFormed
    simp only [List.length_append, List.length_take, List.length_drop]
    exact h.room.of_le (by omega) fun hz hlower => hlast ⟨by omega, hlower⟩

/-- The buffers of a removed run and of what is left are not too long. -/
lemma runRemoval_fits (h : a.WellFormed) {n : Int64} {p : Plan (Anchored α) (Anchored α)}
    (hp : runRemoval a i n = .ok p) : ∀ k ∈ p.buffers, k ≤ maxLength α := by
  have hfits := h.room.fits
  rw [runRemoval] at hp
  dsimp only at hp
  split_ifs at hp
  cases hp
  simp only [List.forall_mem_cons]
  exact ⟨by omega, by omega, List.forall_mem_nil _⟩

lemma length_swapErase {β : Type} (items : List β) (k : Nat) :
    (swapErase items k).length = items.length - 1 := by
  rw [swapErase]
  split
  · rename_i hnone
    rw [List.getLast?_eq_none_iff.1 hnone]
    rfl
  · simp

lemma remove_allOrNothing (h : f.held.WellFormed) (i : Int64) :
    AllOrNothing (remove i) (fun _ b => b.WellFormed) supply f :=
  .of_eq (remove_eq h i) (.trace (carryOut_allOrNothing _ fun _ hp =>
    removal_wellFormed h hp fun hslot => List.length_eraseIdx_of_lt hslot))

lemma swapRemove_allOrNothing (h : f.held.WellFormed) (i : Int64) :
    AllOrNothing (swapRemove i) (fun _ b => b.WellFormed) supply f :=
  .of_eq (swapRemove_eq h i) (.trace (carryOut_allOrNothing _ fun _ hp =>
    removal_wellFormed h hp fun _ => length_swapErase ..))

lemma removeRun_allOrNothing (h : f.held.WellFormed) (i n : Int64) :
    AllOrNothing (removeRun i n) (fun b c => b.WellFormed ∧ c.WellFormed) supply f :=
  .of_eq (removeRun_eq h i n)
    (.trace (carryOut_allOrNothing _ fun _ hp => runRemoval_wellFormed h hp))

end AnchoredArrays.Anchored
