import AnchoredArrays.Proofs.Anchored.Copies
import AnchoredArrays.Anchored.Growing

/-!
Growing arrays. All growing operations add a list of elements at a slot; they differ in how the
slot is found, in who owns the elements and in what is recorded.

* `growth`, `insertion`: the plans for adding elements at a slot and at a position, and when there
  is one; `growth_of_room`, `insertion_of_room`: there is one where the longer array finds a place;
* `splice_eq`, `spliceAll_eq`: **adding elements at a slot** carries out that plan, through an
  overlapping copy inside a buffer that is not written everywhere;
* `insertionSlot_eq`: the positions at which something can be inserted;
* `push_eq`, `append_eq`, `insert_eq`, `insertMoved_eq`: the operations that move the elements in;
* `spliceCopies_eq`: the operations that copy them first.
-/

namespace AnchoredArrays.Anchored

open Element Call

variable {α σ ρ : Type} [Element α] {supply : Supply} {operation : Operation}
  {a : Anchored α} {f : Frame (Anchored α) α} {i : Int64} {start : Nat} {new : List α}

/-! ### The plan -/

/-- The plan for adding `new` at slot `start`: nothing to do if there is nothing to add, and
otherwise one buffer, provided that the length and the new upper bound can be represented. -/
def growth (a : Anchored α) (start : Nat) (new : List α) :
    Except Reason (Plan (Anchored α) Unit) :=
  if new.length = 0 then .ok ⟨[], a, ()⟩
  else if a.toList.length + new.length ≤ maxLength α
      ∧ a.upper.toInt + new.length ≤ Position.greatest.toInt then
    .ok ⟨[a.toList.length + new.length],
      laid a.lower (a.toList.take start ++ new ++ a.toList.drop start), ()⟩
  else .error .noMemory

/-- More elements that fit find a place. -/
lemma WellFormed.room_grown {n : Nat} (h : a.WellFormed) (hfits : a.toList.length + n ≤ maxLength α)
    (hends : a.upper.toInt + n ≤ Position.greatest.toInt) :
    Room α a.lower (a.toList.length + n) where
  fits := hfits
  ends := by
    have hu := h.toInt_upper
    omega
  starts hz := h.room.starts (by omega)

lemma length_spliced {β : Type} (items new : List β) (start : Nat) :
    (items.take start ++ new ++ items.drop start).length = items.length + new.length := by
  simp only [List.length_append, List.length_take, List.length_drop]
  omega

/-- An array that was grown is well-formed. -/
lemma growth_wellFormed {p : Plan (Anchored α) Unit} (h : a.WellFormed)
    (hp : growth a start new = .ok p) : p.after.WellFormed := by
  rw [growth] at hp
  split_ifs at hp with hnew hfits
  · cases hp
    exact h
  · cases hp
    apply Room.wellFormed
    rw [length_spliced]
    exact h.room_grown hfits.1 hfits.2

/-- The buffer of a longer array is not too long. -/
lemma growth_fits {p : Plan (Anchored α) Unit} (hp : growth a start new = .ok p) :
    ∀ n ∈ p.buffers, n ≤ maxLength α := by
  rw [growth] at hp
  split_ifs at hp with hnone hfits
  · cases hp
    exact List.forall_mem_nil _
  · cases hp
    exact List.forall_mem_singleton.2 hfits.1

/-! ### The common part -/

/-- The check of a growing operation. -/
lemma grown_eq (h : a.WellFormed) (extra : Nat) :
    (grown operation a extra : Call σ α Nat)
      = checked operation (if a.toList.length + extra ≤ maxLength α
          ∧ a.upper.toInt + extra ≤ Position.greatest.toInt
        then .ok (a.toList.length + extra) else .error .noMemory) := by
  rw [grown, Position.grownLength, h.length_eq']
  by_cases hfits : a.toList.length + extra ≤ maxLength α
  · have hword := lt_word_of_le hfits
    have hwide := Position.wide_add a.upper (n := extra) (by omega)
    rw [if_pos hfits, wideSum, require_pos hwide, pure_bind, hwide]
    exact congrArg _ (if_congr ⟨And.right, And.intro hword⟩ rfl rfl)
  · rw [if_neg hfits, if_neg fun hc => hfits hc.2.1, if_neg fun hc => hfits hc.1]

/-- In a longer buffer, the elements behind a slot are moved up and new ones written in front of
them; every slot is written then. -/
lemma spliced_slots {xs ys : List α} {t : Slots α} (ht : t.toList = xs ++ ys) (s : Slots α)
    (next : Slots α → Call σ α ρ) :
    (do
        let opened ← Buffer.copyWithin (Buffer.resize t.cells (t.length + s.length)) xs.length
          (xs.length + s.length) ys.length
        let filled ← Buffer.write opened xs.length s.cells
        let slots ← Buffer.settle filled
        next slots)
      = next (.ofList (xs ++ s.toList ++ ys)) := by
  have hcells : t.cells.length = t.length := by
    rw [← Slots.length_toList, Slots.toList_cells, List.length_map, Slots.length_toList]
  have hnew : s.cells.length = s.length := by
    rw [← Slots.length_toList, Slots.toList_cells, List.length_map, Slots.length_toList]
  have hlong : (Buffer.resize t.cells (t.length + s.length)).toList
      = xs.map Cell.written ++ ys.map Cell.written ++ List.replicate s.length Cell.fresh := by
    rw [Buffer.toList_resize, hcells, Slots.toList_cells, Nat.add_sub_cancel_left, ht,
      ← List.map_append, List.take_of_length_le]
    rw [List.length_map, ← ht, Slots.length_toList]
    exact Nat.le_add_right _ _
  obtain ⟨gap, hgap, hup⟩ := Buffer.copyWithin_up (σ := σ) (α := α) hlong
  have hfill : (Buffer.write (.ofList (xs.map Cell.written ++ gap ++ ys.map Cell.written))
      (xs.map Cell.written).length s.cells : Call σ α (Slots (Cell α)))
        = pure (.ofList (xs.map Cell.written ++ s.cells.toList ++ ys.map Cell.written)) :=
    Buffer.write_gap (Slots.toList_ofList _) (by rw [hnew, hgap, List.length_replicate])
  have hsettle : (Buffer.settle (.ofList (xs.map Cell.written ++ s.cells.toList
      ++ ys.map Cell.written)) : Call σ α (Slots α)) = pure (.ofList (xs ++ s.toList ++ ys)) :=
    Buffer.settle_of_toList (by simp)
  simp only [List.length_map, List.length_replicate] at hup hfill
  rw [hup, pure_bind, hfill, pure_bind, hsettle, pure_bind]

/-- **Adding elements at a slot** carries out the plan for it. -/
lemma splice_eq (h : f.held.WellFormed) (hs : start ≤ f.held.toList.length) {s : Slots α}
    (hnew : s.toList = new) (hpos : s.length ≠ 0) :
    splice operation start s supply f
      = carryOut operation (growth f.held start new) supply f := by
  rw [splice, held_bind, grown_eq h, ← hnew, growth, Slots.length_toList, if_neg hpos]
  by_cases hfits : f.held.toList.length + s.length ≤ maxLength α
      ∧ f.held.upper.toInt + s.length ≤ Position.greatest.toInt
  · have hroom := h.room_grown hfits.1 hfits.2
    have htake : (f.held.toList.take start).length = start := List.length_take_of_le hs
    have hslots := fun next : Slots α → Call (Anchored α) α Unit =>
      spliced_slots (t := f.held.slots) (List.take_append_drop start f.held.toList).symm s next
    simp only [htake, List.length_drop, ← length_toList] at hslots
    rw [if_pos hfits, if_pos hfits]
    simp only [checked_ok, pure_bind, carryOut, obtainAll, bind_assoc, renew_eq]
    refine obtain_bind_congr ?_
    intro g hg
    rw [h.length_eq', minus_of_le hs, pure_bind, hslots, hroom.maxOf, pure_bind, laid,
      length_spliced, Slots.length_toList, hold_apply]
    rfl
  · rw [if_neg hfits, if_neg hfits]
    rfl

/-- **Adding the elements of an array** at a slot carries out the plan for them. -/
lemma spliceAll_eq (h : f.held.WellFormed) (hs : start ≤ f.held.toList.length) {b : Anchored α}
    (hb : b.WellFormed) :
    spliceAll operation start b supply f
      = carryOut operation (growth f.held start b.toList) supply f := by
  rw [spliceAll]
  split_ifs with hempty
  · rw [hb.length_eq'] at hempty
    rw [growth, if_pos hempty]
    rfl
  · exact splice_eq h hs rfl (by rwa [← hb.length_eq])

/-- Adding elements is all or nothing. -/
lemma growth_allOrNothing (h : a.WellFormed) (operation : Operation) (start : Nat)
    (new : List α) :
    AllOrNothing (carryOut operation (growth a start new)) (fun _ b => b.WellFormed) supply f :=
  carryOut_allOrNothing operation fun _ hp => growth_wellFormed h hp

/-- The positions at which something can be inserted are those of elements and the one after the
last. -/
lemma insertionSlot_eq (h : a.WellFormed) (i : Int64) :
    (insertionSlot operation a i : Call σ α Nat)
      = checked operation
          (if a.lower.toInt ≤ i.toInt ∧ slotOf a.lower i ≤ a.toList.length
          then .ok (slotOf a.lower i) else .error .noInsertionPoint) := by
  have hu := h.toInt_upper
  rw [insertionSlot, beyondSucc_eq, pure_bind]
  simp only [Int64.lt_iff_toInt_lt, decide_eq_true_eq]
  by_cases hlow : i.toInt < a.lower.toInt
  · rw [if_pos hlow, if_neg fun hin => absurd hin.1 (Int.not_le.2 hlow), checked_error]
  rw [if_neg hlow]
  by_cases hbeyond : a.upper.toInt + 1 < i.toInt
  · rw [if_pos hbeyond, if_neg, checked_error]
    simp only [slotOf]
    omega
  · rw [if_neg hbeyond, if_pos, checked_ok, offsetOf_of_le (Int.not_lt.1 hlow)]
    · rfl
    · simp only [slotOf]
      omega

/-! ### Growing operations that move elements in -/

/-- The plan for adding elements at a position. -/
def insertion (a : Anchored α) (i : Int64) (new : List α) :
    Except Reason (Plan (Anchored α) Unit) :=
  if a.lower.toInt ≤ i.toInt ∧ slotOf a.lower i ≤ a.toList.length then
    growth a (slotOf a.lower i) new
  else .error .noInsertionPoint

/-- An array with an insertion is well-formed. -/
lemma insertion_wellFormed {p : Plan (Anchored α) Unit} (h : a.WellFormed)
    (hp : insertion a i new = .ok p) : p.after.WellFormed := by
  rw [insertion] at hp
  split_ifs at hp
  exact growth_wellFormed h hp

lemma insertion_fits {p : Plan (Anchored α) Unit}
    (hp : insertion a i new = .ok p) : ∀ n ∈ p.buffers, n ≤ maxLength α := by
  rw [insertion] at hp
  split_ifs at hp
  exact growth_fits hp

/-- Finding the slot and adding elements there carry out the plan for the position. -/
lemma insertionSlot_bind (h : f.held.WellFormed) {next : Nat → Call (Anchored α) α Unit}
    (hnext : ∀ start, start ≤ f.held.toList.length →
      next start supply f = carryOut operation (growth f.held start new) supply f) :
    (insertionSlot operation f.held i >>= next) supply f
      = carryOut operation (insertion f.held i new) supply f := by
  rw [insertionSlot_eq h, insertion]
  split_ifs with hin
  · rw [checked_ok, pure_bind]
    exact hnext _ hin.2
  · rfl

lemma push_eq (h : f.held.WellFormed) (x : α) :
    push x supply f = given (.single x) (do
      trace .push [f.held.bounds]
      carryOut .push (growth f.held f.held.toList.length [x])) supply f := by
  rw [push]
  apply given_congr
  rw [held_bind, trace_bind, trace_bind, h.length_eq']
  exact splice_eq (f := f.leaving _) h (Nat.le_refl _) (Slots.toList_single x)
    (by simp)

lemma append_eq (h : f.held.WellFormed) {b : Anchored α} (hb : b.WellFormed) :
    append b supply f = given b.slots (do
      trace .append [f.held.bounds, b.bounds]
      carryOut .append (growth f.held f.held.toList.length b.toList)) supply f := by
  rw [append]
  apply given_congr
  rw [held_bind, trace_bind, trace_bind, h.length_eq']
  exact spliceAll_eq (f := f.leaving _) h (Nat.le_refl _) hb

lemma insert_eq (h : f.held.WellFormed) (i : Int64) (x : α) :
    insert i x supply f = given (.single x) (do
      trace .insert [f.held.bounds, .position i]
      carryOut .insert (insertion f.held i [x])) supply f := by
  rw [insert]
  apply given_congr
  rw [held_bind, trace_bind, trace_bind]
  exact insertionSlot_bind (f := f.leaving _) h fun start hs =>
    splice_eq (f := f.leaving _) h hs (Slots.toList_single x)
      (by simp)

lemma insertMoved_eq (h : f.held.WellFormed) (i : Int64) {b : Anchored α} (hb : b.WellFormed) :
    insertMoved i b supply f = given b.slots (do
      trace .insertMoved [f.held.bounds, .position i, b.bounds]
      carryOut .insertMoved (insertion f.held i b.toList)) supply f := by
  rw [insertMoved]
  apply given_congr
  rw [held_bind, trace_bind, trace_bind]
  exact insertionSlot_bind (f := f.leaving _) h fun start hs =>
    spliceAll_eq (f := f.leaving _) h hs hb

/-! ### Where there is room -/

section Room

variable {lower : Int64} {xs ys : List α}

/-- There is a plan for adding elements if the longer array finds a place. -/
lemma growth_of_room (h : a.WellFormed) (start : Nat)
    (hroom : Room α a.lower (a.toList.length + new.length)) :
    ∃ buffers, growth a start new
      = .ok ⟨buffers, laid a.lower (a.toList.take start ++ new ++ a.toList.drop start), ()⟩ := by
  have hu := h.toInt_upper
  have hends := hroom.ends
  rw [growth]
  by_cases hnew : new.length = 0
  · have hsame : a = laid a.lower (a.toList.take start ++ new ++ a.toList.drop start) := by
      rw [List.eq_nil_of_length_eq_zero hnew, List.append_nil, List.take_append_drop]
      exact h.eq_laid
    rw [if_pos hnew, ← hsame]
    exact ⟨[], rfl⟩
  · rw [if_neg hnew, if_pos ⟨hroom.fits, by omega⟩]
    exact ⟨_, rfl⟩

/-- There is not enough memory for elements if the longer array does not find a place. -/
lemma growth_of_not_room (h : a.WellFormed)
    (hroom : ¬ Room α a.lower (a.toList.length + new.length)) :
    growth a start new = .error .noMemory := by
  have hu := h.toInt_upper
  have hnew : new.length ≠ 0 := by
    intro hnone
    rw [hnone] at hroom
    exact hroom h.room
  rw [growth, if_neg hnew, if_neg]
  rintro ⟨hfits, hends⟩
  exact hroom (h.room_grown hfits hends)

/-- Elements are added only if the longer array finds a place. -/
lemma growth_parts (h : a.WellFormed) {p : Plan (Anchored α) Unit}
    (hp : growth a start new = .ok p) :
    Room α a.lower (a.toList.length + new.length)
      ∧ p.after = laid a.lower (a.toList.take start ++ new ++ a.toList.drop start) := by
  by_cases hroom : Room α a.lower (a.toList.length + new.length)
  · obtain ⟨buffers, hgrowth⟩ := growth_of_room h start hroom
    rw [hgrowth] at hp
    cases hp
    exact ⟨hroom, rfl⟩
  · rw [growth_of_not_room h hroom] at hp
    cases hp

/-- A position at which elements are inserted splits those that are there. -/
lemma insertion_parts (h : a.WellFormed) {p : Plan (Anchored α) Unit}
    (hp : insertion a i new = .ok p) :
    ∃ xs ys, a.toList = xs ++ ys ∧ i.toInt = a.lower.toInt + xs.length
      ∧ Room α a.lower (xs ++ new ++ ys).length ∧ p.after = laid a.lower (xs ++ new ++ ys) := by
  rw [insertion] at hp
  split_ifs at hp with hin
  obtain ⟨hroom, hafter⟩ := growth_parts h hp
  refine ⟨_, _, (List.take_append_drop (slotOf a.lower i) a.toList).symm,
    toInt_eq_take hin.1 hin.2, ?_, hafter⟩
  rwa [length_spliced]

/-- Elements that are inserted behind the first ones go into the slot behind them. -/
lemma insertion_behind (hi : i.toInt = lower.toInt + xs.length) :
    insertion (laid lower (xs ++ ys)) i new = growth (laid lower (xs ++ ys)) xs.length new := by
  have hslot : slotOf lower i = xs.length := by
    rw [slotOf]
    omega
  rw [insertion, laid_lower, laid_toList, hslot, if_pos]
  rw [List.length_append]
  omega

/-- There is a plan for inserting elements if the longer array finds a place. -/
lemma insertion_of_room (h : (laid lower (xs ++ ys)).WellFormed)
    (hi : i.toInt = lower.toInt + xs.length) (hroom : Room α lower (xs ++ new ++ ys).length) :
    ∃ buffers, insertion (laid lower (xs ++ ys)) i new
      = .ok ⟨buffers, laid lower (xs ++ new ++ ys), ()⟩ := by
  have hlength : (xs ++ ys).length + new.length = (xs ++ new ++ ys).length := by
    simp only [List.length_append]
    omega
  obtain ⟨buffers, hgrowth⟩ := growth_of_room h xs.length
    (by rw [laid_toList, hlength]; exact hroom)
  rw [laid_lower, laid_toList, List.take_left, List.drop_left] at hgrowth
  exact ⟨buffers, (insertion_behind hi).trans hgrowth⟩

end Room

/-! ### Growing operations that use up the array -/

lemma owning_congr {f : Frame σ α} {c c' : Call (Anchored α) α Unit}
    (h : c supply ⟨a, f.copiesLeft, f.tally⟩ = c' supply ⟨a, f.copiesLeft, f.tally⟩) :
    owning a c supply f = owning a c' supply f := by
  rw [owning, owning, bind_apply, bind_apply, on, on, h]

/-- An array that is the value of a call of its own is well-formed in the end. -/
lemma owning_allOrNothing {f : Frame σ α} {c : Call (Anchored α) α Unit}
    (hc : AllOrNothing c (fun _ b => b.WellFormed) supply ⟨a, f.copiesLeft, f.tally⟩) :
    AllOrNothing (owning a c) (fun b s => b.WellFormed ∧ s = f.held) supply f := by
  obtain ⟨r, g, hrun, hb⟩ | ⟨e, g, hrun, -, hexact⟩ := hc.cases
  · refine .of_ok (r := g.held) (g := { g with held := f.held }) ?_ ⟨hb, rfl⟩
    rw [owning, bind_apply, on, hrun]
    rfl
  · have hgiven : AllOrNothing (given g.held.slots (halt e))
        (fun (b : Anchored α) s => b.WellFormed ∧ s = f.held) supply { g with held := f.held } :=
      .given (.of_error rfl rfl hexact) _
    rw [AllOrNothing, owning, bind_apply, on, hrun]
    exact hgiven

lemma extend_eq (h : a.WellFormed) (x : α) (f : Frame σ α) :
    extend a x supply f = owning a (given (.single x) do
      trace .extend [a.bounds]
      carryOut .extend (growth a a.toList.length [x])) supply f := by
  rw [extend]
  apply owning_congr
  apply given_congr
  rw [trace_bind, trace_bind, h.length_eq']
  exact splice_eq (f := Frame.leaving ⟨a, _, _⟩ _) h (Nat.le_refl _) (Slots.toList_single x)
    (by simp)

lemma concat_eq (h : a.WellFormed) {b : Anchored α} (hb : b.WellFormed) (f : Frame σ α) :
    concat a b supply f = owning a (given b.slots do
      trace .concat [a.bounds, b.bounds]
      carryOut .concat (growth a a.toList.length b.toList)) supply f := by
  rw [concat]
  apply owning_congr
  apply given_congr
  rw [trace_bind, trace_bind, h.length_eq']
  exact spliceAll_eq (f := Frame.leaving ⟨a, _, _⟩ _) h (Nat.le_refl _) hb

/-! ### Growing operations that copy elements -/

/-- **Adding copies** of the elements of an array at a slot: if the result can be represented, a
buffer is asked for the copies, they are made, and then the plan for them is carried out; they are
dropped if the longer buffer is refused. -/
lemma spliceCopies_eq (h : f.held.WellFormed) (hs : start ≤ f.held.toList.length)
    {b : Anchored α} (hb : b.WellFormed) :
    spliceCopies operation start b supply f
      = (if b.toList.length = 0 then pure () else do
          checked operation (if f.held.toList.length + b.toList.length ≤ maxLength α
              ∧ f.held.upper.toInt + b.toList.length ≤ Position.greatest.toInt
            then .ok () else .error .noMemory)
          obtain operation b.toList.length
          let copies ← copyAll b.slots
          given copies (carryOut operation (growth f.held start copies.toList))) supply f := by
  rw [spliceCopies]
  by_cases hnone : b.toList.length = 0
  · rw [if_pos (hb.isEmpty_iff'.2 hnone), if_pos hnone]
  rw [if_neg (mt hb.isEmpty_iff'.1 hnone), if_neg hnone, held_bind, grown_eq h, hb.length_eq']
  by_cases hfits : f.held.toList.length + b.toList.length ≤ maxLength α
      ∧ f.held.upper.toInt + b.toList.length ≤ Position.greatest.toInt
  swap
  · rw [if_neg hfits, if_neg hfits]
    rfl
  rw [if_pos hfits, if_pos hfits, checked_ok, checked_ok, pure_bind, pure_bind,
    copySlots_whole hb]
  simp only [bind_assoc, pure_bind]
  refine obtain_bind_congr fun g hg => ?_
  rw [bind_apply, bind_apply]
  have hcopied : AllOrNothing (copyAll b.slots)
      (fun t s => t = b.slots.map Element.copy ∧ s = g.held) supply g := .copyAll _
  obtain ⟨copies, g', hrun, rfl, hheld⟩ | ⟨e, g', hrun, -⟩ := hcopied.cases
  · have hwell : ({ b with slots := b.slots.map Element.copy } : Anchored α).WellFormed :=
      hb.with_slots (by rw [Slots.toList_map, List.length_map]; rfl)
    have hsame : g'.held = f.held := hheld.trans hg
    rw [hrun]
    refine given_congr _ ?_
    rw [spliceAll_eq (hsame ▸ h) (hsame ▸ hs) hwell, hsame]
    rfl
  · rw [hrun]
/-- Adding copies of the elements of an array at a slot is all or nothing. -/
lemma spliceCopies_allOrNothing (h : f.held.WellFormed) (hs : start ≤ f.held.toList.length)
    {b : Anchored α} (hb : b.WellFormed) :
    AllOrNothing (spliceCopies operation start b) (fun _ c => c.WellFormed) supply f := by
  refine .of_eq (spliceCopies_eq h hs hb) ?_
  by_cases hempty : b.toList.length = 0
  · rw [if_pos hempty]
    exact .pure h
  rw [if_neg hempty]
  refine .bind (.checked operation _) fun _ g _ hg => .bind (.obtain operation _) ?_
  intro _ g' _ hg'
  refine .bind (.copyAll _) fun copies g'' _ hg'' => .given ?_ _
  rw [show f.held = g''.held from (hg''.trans (hg'.trans hg)).symm] at h ⊢
  exact growth_allOrNothing h ..

/-- Adding copies of the elements of an array at a position is all or nothing. -/
lemma insertionSlot_copies (h : f.held.WellFormed) (i : Int64) {b : Anchored α}
    (hb : b.WellFormed) :
    AllOrNothing (do
        let start ← insertionSlot operation f.held i
        spliceCopies operation start b) (fun _ c => c.WellFormed) supply f := by
  rw [insertionSlot_eq h]
  refine .bind (.checked operation _) ?_
  intro start g hstart hg
  split_ifs at hstart with hin
  cases hstart
  exact spliceCopies_allOrNothing (hg ▸ h) (hg ▸ hin.2) hb

/-! ### All or nothing -/

lemma push_allOrNothing (h : f.held.WellFormed) (x : α) :
    AllOrNothing (push x) (fun _ b => b.WellFormed) supply f :=
  .of_eq (push_eq h x) (.given (.trace (growth_allOrNothing h ..)) _)

lemma append_allOrNothing (h : f.held.WellFormed) {b : Anchored α} (hb : b.WellFormed) :
    AllOrNothing (append b) (fun _ c => c.WellFormed) supply f :=
  .of_eq (append_eq h hb) (.given (.trace (growth_allOrNothing h ..)) _)

lemma insert_allOrNothing (h : f.held.WellFormed) (i : Int64) (x : α) :
    AllOrNothing (insert i x) (fun _ b => b.WellFormed) supply f :=
  .of_eq (insert_eq h i x)
    (.given (.trace (carryOut_allOrNothing _ fun _ hp => insertion_wellFormed h hp)) _)

lemma insertMoved_allOrNothing (h : f.held.WellFormed) (i : Int64) {b : Anchored α}
    (hb : b.WellFormed) :
    AllOrNothing (insertMoved i b) (fun _ c => c.WellFormed) supply f :=
  .of_eq (insertMoved_eq h i hb)
    (.given (.trace (carryOut_allOrNothing _ fun _ hp => insertion_wellFormed h hp)) _)

lemma insertCopy_allOrNothing (h : f.held.WellFormed) (i : Int64) {b : Anchored α}
    (hb : b.WellFormed) :
    AllOrNothing (insertCopy i b) (fun _ c => c.WellFormed) supply f :=
  .held (.trace (insertionSlot_copies (f := f.leaving _) h i hb))

lemma insertSelf_allOrNothing (h : f.held.WellFormed) (i : Int64) :
    AllOrNothing (insertSelf i) (fun _ c => c.WellFormed) supply f :=
  .held (.trace (insertionSlot_copies (f := f.leaving _) h i h))

lemma extend_allOrNothing (h : a.WellFormed) (x : α) {f : Frame σ α} :
    AllOrNothing (extend a x) (fun b s => b.WellFormed ∧ s = f.held) supply f :=
  .of_eq (extend_eq h x f) (owning_allOrNothing (.given (.trace (growth_allOrNothing h ..)) _))

lemma concat_allOrNothing (h : a.WellFormed) {b : Anchored α} (hb : b.WellFormed)
    {f : Frame σ α} :
    AllOrNothing (concat a b) (fun c s => c.WellFormed ∧ s = f.held) supply f :=
  .of_eq (concat_eq h hb f) (owning_allOrNothing (.given (.trace (growth_allOrNothing h ..)) _))

end AnchoredArrays.Anchored
