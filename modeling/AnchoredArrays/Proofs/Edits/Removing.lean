import AnchoredArrays.Proofs.Call.Granted
import AnchoredArrays.Proofs.Anchored.Contents
import AnchoredArrays.Proofs.Anchored.Removal

/-!
Removals on a generous supply: exactly when they fail, what they result in, and what is left.

* `Removes`: what is promised of a removal that goes through; `RemovesAt`, `RemovesRun`: what is
  promised of the removal of an element and of a run, case by case;
* `removal_run`: **removing one element**, whatever then takes its place;
* `removeRun_run`: **removing a run** of elements;
* `removals`: **the three removals** keep these promises.
-/

namespace AnchoredArrays.Anchored

open Element Call

variable {α ρ : Type} [Element α] {supply : Supply} {operation : Operation} {a : Anchored α}
  {i : Int64}

/-- The call results in what was removed and leaves the other elements, at the same anchor; nothing
is copied. -/
def Removes (a : Anchored α) (out : Except Halt ρ × Frame (Anchored α) α) (removed : ρ → Prop)
    (rest : List α) : Prop :=
  ∃ r, out.1 = .ok r ∧ removed r ∧ out.2.held.Holds a.lower.toInt rest
    ∧ out.2.tally.copied.toList = []

/-- What is promised of a call that removes the element at a position and leaves `rest`: there has
to be one, and the array without it has to have an upper bound. -/
def RemovesAt (a : Anchored α) (operation : Operation) (i : Int64) (rest : List α)
    (out : Except Halt α × Frame (Anchored α) α) : Prop :=
  if i.toInt < a.lower.toInt ∨ a.upper.toInt < i.toInt then
    Fails out.1 .index operation .noElement
  else if a.toList.length = 1 ∧ a.lower = Position.least then
    Fails out.1 .range operation .noEmptyAnchor
  else
    Removes a out (fun x => a.toList[slotOf a.lower i]? = some x) rest

/-- What is promised of a call that removes a run, which is cut short at the upper bound: its length
must not be negative, its first element has to be there, and neither the run nor what is left of the
array may be empty at the smallest position. -/
def RemovesRun (a : Anchored α) (i n : Int64)
    (out : Except Halt (Anchored α) × Frame (Anchored α) α) : Prop :=
  let count := min n.toInt (a.upper.toInt - i.toInt + 1)
  if n.toInt < 0 then
    Fails out.1 .range .removeRun .negativeLength
  else if i.toInt < a.lower.toInt ∨ a.upper.toInt < i.toInt then
    Fails out.1 .index .removeRun .noElement
  else if a.lower = Position.least ∧ (count = 0 ∨ count = a.toList.length) then
    Fails out.1 .range .removeRun .noEmptyAnchor
  else
    Removes a out
      (fun b => b.Holds a.lower.toInt ((a.toList.drop (slotOf a.lower i)).take count.toNat))
      (a.toList.take (slotOf a.lower i) ++ a.toList.drop (slotOf a.lower i + count.toNat))

/-- The positions of elements are those between the bounds. -/
lemma WellFormed.slotOf_lt_iff (h : a.WellFormed) (i : Int64) :
    ¬ (i.toInt < a.lower.toInt ∨ a.upper.toInt < i.toInt)
      ↔ a.lower.toInt ≤ i.toInt ∧ slotOf a.lower i < a.toList.length := by
  have hu := h.toInt_upper
  simp only [slotOf]
  omega

/-- What is left after an element was removed finds a place, except at the smallest position. -/
lemma WellFormed.room_removed (h : a.WellFormed) {n : Nat} (hn : n ≤ a.toList.length)
    (hempty : ¬ (n = a.toList.length ∧ a.lower = Position.least)) :
    Room α a.lower (a.toList.length - n) :=
  h.room.of_le (Nat.sub_le ..) fun hz hlower => hempty ⟨by omega, hlower⟩

/-- **Removing one element**, whatever then takes its place. -/
lemma removal_run (h : a.WellFormed) (hgenerous : supply.Generous) {c : Call (Anchored α) α α}
    {arguments : List Argument} {rest : List α}
    (hc : c supply ⟨a, supply.copies, .blank⟩ = (do
      trace operation arguments
      carryOut operation (removal a i rest)) supply ⟨a, supply.copies, .blank⟩)
    (hrest : slotOf a.lower i < a.toList.length → rest.length = a.toList.length - 1) :
    RemovesAt a operation i rest (c.run supply a) := by
  rw [RemovesAt, Call.run, hc, trace_bind, removal]
  by_cases hout : i.toInt < a.lower.toInt ∨ a.upper.toInt < i.toInt
  · have hnone : a.get? i = none := by
      rw [get?, if_neg]
      exact fun hin => (h.slotOf_lt_iff i).2 (h.contains_iff.1 hin) hout
    rw [if_pos hout, hnone]
    exact ⟨rfl, rfl⟩
  obtain ⟨hlow, hslot⟩ := (h.slotOf_lt_iff i).1 hout
  have hsome : a.get? i = some a.toList[slotOf a.lower i] := by
    rw [h.get?_eq, if_pos hlow, List.getElem?_eq_getElem hslot]
  rw [if_neg hout, hsome]
  dsimp only
  by_cases hlast : a.toList.length = 1 ∧ a.lower = Position.least
  · rw [if_pos hlast, if_pos hlast]
    exact ⟨rfl, rfl⟩
  have hroom : Room α a.lower (a.toList.length - 1) :=
    h.room_removed (by omega) fun hempty => hlast ⟨hempty.1.symm, hempty.2⟩
  rw [if_neg hlast, if_neg hlast,
    carryOut_generous hgenerous operation (by simpa using hroom.fits)]
  exact ⟨_, rfl, List.getElem?_eq_getElem hslot, laid_holds (by rwa [hrest hslot]),
    Slots.toList_nil⟩

/-- **Removing a run** of elements. -/
lemma removeRun_run (h : a.WellFormed) (hgenerous : supply.Generous) (i n : Int64) :
    RemovesRun a i n ((removeRun i n).run supply a) := by
  rw [RemovesRun, Call.run, removeRun_eq (f := ⟨a, _, _⟩) h i n, trace_bind, runRemoval]
  by_cases hn : n.toInt < 0
  · rw [if_pos hn, if_pos hn]
    exact ⟨rfl, rfl⟩
  rw [if_neg hn, if_neg hn]
  by_cases hout : i.toInt < a.lower.toInt ∨ a.upper.toInt < i.toInt
  · have hin : ¬ a.contains i = true := fun hin =>
      (h.slotOf_lt_iff i).2 (h.contains_iff.1 hin) hout
    rw [if_pos hout, if_neg hin]
    exact ⟨rfl, rfl⟩
  obtain ⟨hlow, hslot⟩ := (h.slotOf_lt_iff i).1 hout
  rw [if_neg hout, if_pos (h.contains_iff.2 ⟨hlow, hslot⟩)]
  dsimp only
  obtain ⟨m, hm⟩ : ∃ m, m = min n.toInt.toNat (a.toList.length - slotOf a.lower i) := ⟨_, rfl⟩
  have hcount : min n.toInt (a.upper.toInt - i.toInt + 1) = m := by
    rw [hm]
    exact h.runLength_eq (Int.not_lt.1 hn) hlow hslot
  rw [← hm, hcount, Int.toNat_natCast]
  have hends : (m = 0 ∨ m = a.toList.length) ∧ a.lower = Position.least
      ↔ a.lower = Position.least ∧ ((m : Int) = 0 ∨ (m : Int) = a.toList.length) := by
    rw [and_comm, Int.natCast_eq_zero, Int.natCast_inj]
  by_cases hlast : a.lower = Position.least ∧ ((m : Int) = 0 ∨ (m : Int) = a.toList.length)
  · rw [if_pos hlast, if_pos (hends.2 hlast)]
    exact ⟨rfl, rfl⟩
  have hrun : Room α a.lower m :=
    h.room.of_le (by omega) fun hz hlower => hlast ⟨hlower, .inl (by omega)⟩
  have hothers : Room α a.lower (a.toList.length - m) :=
    h.room_removed (by omega) fun hall => hlast ⟨hall.2, .inr (by omega)⟩
  rw [if_neg hlast, if_neg (mt hends.1 hlast), carryOut_generous hgenerous]
  · refine ⟨_, rfl, laid_holds ?_, laid_holds ?_, Slots.toList_nil⟩
    · rwa [List.length_take_of_le (by rw [List.length_drop]; omega)]
    · rw [List.length_append, List.length_take, List.length_drop]
      rwa [show min (slotOf a.lower i) a.toList.length
        + (a.toList.length - (slotOf a.lower i + m)) = a.toList.length - m by omega]
  · intro k hk
    obtain rfl | rfl : k = m ∨ k = a.toList.length - m := by simpa using hk
    · exact hrun.fits
    · exact hothers.fits

/-- **Removals** on a generous supply, for all arguments. An element is removed and the others close
up, or the last one takes its place; a run is removed and what is around it closes up. -/
theorem removals (h : a.WellFormed) (hgenerous : supply.Generous) :
    (∀ i, RemovesAt a .remove i (a.toList.eraseIdx (slotOf a.lower i)) ((remove i).run supply a))
      ∧ (∀ i, RemovesAt a .swapRemove i (swapErase a.toList (slotOf a.lower i))
        ((swapRemove i).run supply a))
      ∧ ∀ i n, RemovesRun a i n ((removeRun i n).run supply a) := by
  refine ⟨fun i => ?_, fun i => ?_, fun i n => ?_⟩
  · exact removal_run h hgenerous (remove_eq (f := ⟨a, _, _⟩) h i)
      fun hslot => List.length_eraseIdx_of_lt hslot
  · exact removal_run h hgenerous (swapRemove_eq (f := ⟨a, _, _⟩) h i)
      fun _ => length_swapErase ..
  · exact removeRun_run h hgenerous i n

/-- At the smallest position the last of three values takes the place of the first, but no run can
be all of them. -/
theorem removals_lowest :
    lowestThree.WellFormed ∧ Supply.ample.Generous
      ∧ Removes lowestThree ((swapRemove Position.least).run .ample lowestThree)
        (fun x => some ⟨10, 0⟩ = some x) [⟨30, 0⟩, ⟨20, 0⟩]
      ∧ Fails ((removeRun Position.least Position.greatest).run .ample lowestThree).1 .range
        .removeRun .noEmptyAnchor := by
  obtain ⟨-, hswap, hrun⟩ := removals lowestThree_wellFormed Supply.ample_generous
  refine ⟨lowestThree_wellFormed, Supply.ample_generous, ?_, ?_⟩
  · have hfirst := hswap Position.least
    rwa [RemovesAt, if_neg (by decide), if_neg (by decide)] at hfirst
  · have hall := hrun Position.least Position.greatest
    rwa [RemovesRun, if_neg (by decide), if_neg (by decide), if_pos (by decide)] at hall

end AnchoredArrays.Anchored
