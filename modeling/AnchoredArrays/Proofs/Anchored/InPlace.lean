import AnchoredArrays.Proofs.Anchored.Shifting
import AnchoredArrays.Proofs.Sorting.Order
import AnchoredArrays.Anchored.Access

/-!
Changes in place, and drains. Elements are replaced, sorted or taken out from the front without a
buffer being asked for; the anchor of an array and the number of its elements stay as they are.

* `read_allOrNothing`, `set?_allOrNothing`, `replace_allOrNothing`: one element is read or replaced,
  if it is there;
* `update_allOrNothing`: every element is changed;
* `sort_allOrNothing`: the elements are sorted by any comparison whatever;
* `Drain.left`, `Drain.take_apply`: elements are taken out of a drain, and the rest is dropped.
-/

namespace AnchoredArrays

open Element Call

variable {α τ : Type} [Element α] {supply : Supply}

namespace Anchored

variable {f : Frame (Anchored α) α} {i : Int64}

/-- An element is read, and nothing happens. -/
lemma read_allOrNothing (a : Anchored α) (i : Int64) {f : Frame τ α} :
    AllOrNothing (read a i) (fun x s => a.get? i = some x ∧ s = f.held) supply f := by
  rw [read]
  cases a.get? i with
  | none => exact .panic _
  | some x => exact .pure ⟨rfl, rfl⟩

/-- The array with another element in the slot of a position. -/
def replacing (a : Anchored α) (i : Int64) (x : α) : Anchored α :=
  laid a.lower (a.toList.set (slotOf a.lower i) x)

lemma WellFormed.replacing {a : Anchored α} (h : a.WellFormed) (i : Int64) (x : α) :
    (a.replacing i x).WellFormed :=
  (h.room_of_length List.length_set).wellFormed

/-- Replacing an element that is there goes through, and drops it. -/
lemma putAt_apply (supply : Supply) (h : f.held.WellFormed) (hi : f.held.contains i = true)
    (x : α) :
    ∃ y, f.held.toList[slotOf f.held.lower i]? = some y ∧ putAt f.held i x supply f
      = (.ok (), { f with
          held := f.held.replacing i x
          tally := { f.tally with dropped := .single y ++ f.tally.dropped } }) := by
  obtain ⟨hlow, hslot⟩ := h.contains_iff.1 hi
  obtain ⟨k, hk⟩ : ∃ k, k = slotOf f.held.lower i := ⟨_, rfl⟩
  rw [← hk] at hslot ⊢
  have hsplit : f.held.slots.toList
      = f.held.toList.take k ++ [f.held.toList[k]] ++ f.held.toList.drop (k + 1) := by
    rw [List.append_assoc, List.singleton_append, ← List.drop_eq_getElem_cons hslot,
      List.take_append_drop]
    rfl
  have hfront : (f.held.toList.take k).length = k := by
    rw [List.length_take]
    omega
  have hrun : k + 1 ≤ f.held.slots.length := by
    rw [← length_toList]
    exact hslot
  have hold : f.held.slots.slice k 1 = .single f.held.toList[k] := by
    ext1
    rw [Slots.toList_slice, Slots.toList_single]
    rw [show f.held.slots.toList = f.held.toList from rfl, List.drop_eq_getElem_cons hslot]
    rfl
  have hset : f.held.toList.take k ++ (Slots.single x).toList ++ f.held.toList.drop (k + 1)
      = f.held.toList.set k x := by
    rw [List.set_eq_take_append_cons_drop, if_pos hslot, Slots.toList_single, List.append_assoc,
      List.singleton_append]
  have hwrite : (Buffer.write f.held.slots k (.single x) : Call (Anchored α) α (Slots α))
      = pure (.ofList (f.held.toList.set k x)) := by
    have hnew : (Slots.single x).length = [f.held.toList[k]].length := Slots.length_single x
    have hgap := Buffer.write_gap (σ := Anchored α) (α := α) hsplit hnew
    rwa [hfront, hset] at hgap
  refine ⟨f.held.toList[k], List.getElem?_eq_getElem hslot, ?_⟩
  rw [putAt, toNat_offset_eq hlow, ← hk, Buffer.readRun_of_le hrun, hold]
  simp only [pure_bind, hwrite]
  rw [Anchored.replacing, ← hk, ← h.with_items List.length_set]
  rfl

/-- An element is replaced if there is one at the position. -/
lemma set?_allOrNothing (h : f.held.WellFormed) (i : Int64) (x : α) :
    AllOrNothing (set? i x)
      (fun there a => there = f.held.contains i
        ∧ a = (if there then f.held.replacing i x else f.held) ∧ a.WellFormed) supply f := by
  rw [set?]
  refine .held ?_
  by_cases hi : f.held.contains i = true
  · obtain ⟨y, -, hput⟩ := putAt_apply supply h hi x
    rw [if_pos hi, AllOrNothing, bind_apply, hput]
    exact ⟨hi.symm, rfl, h.replacing i x⟩
  · rw [if_neg hi]
    exact ⟨(Bool.not_eq_true _ ▸ hi).symm, rfl, h⟩

/-- An element is replaced; the call breaks off if there is none at the position. -/
lemma replace_allOrNothing (h : f.held.WellFormed) (i : Int64) (x : α) :
    AllOrNothing (replace i x)
      (fun _ a => f.held.contains i = true ∧ a = f.held.replacing i x ∧ a.WellFormed)
      supply f := by
  refine .given (.held ?_) _
  by_cases hi : f.held.contains i = true
  · obtain ⟨y, -, hput⟩ := putAt_apply supply h hi x
    rw [if_pos hi, AllOrNothing, hput]
    exact ⟨hi, rfl, h.replacing i x⟩
  · rw [if_neg hi]
    exact .panic _

/-- Every element is changed. -/
lemma update_allOrNothing (h : f.held.WellFormed) (change : α → α) :
    AllOrNothing (update change)
      (fun _ a => a.toList = f.held.toList.map change ∧ a.WellFormed) supply f := by
  have hitems : (f.held.slots.map change).toList = f.held.toList.map change :=
    Slots.toList_map change _
  exact ⟨hitems, h.with_slots (by rw [hitems, List.length_map])⟩

/-- The elements are sorted. -/
lemma sort_allOrNothing (h : f.held.WellFormed) (direction : Sorting.Direction)
    (compare : Sorting.Comparison τ α) (memory : τ) :
    AllOrNothing (sort direction compare memory)
      (fun _ a => (a.lower = f.held.lower ∧ a.toList.Perm f.held.toList) ∧ a.WellFormed)
      supply f := by
  obtain ⟨b, hb, hre⟩ :=
    Sorting.sortItems_rearranged direction compare f.held.toList.toArray memory
  rw [sort]
  refine .held (.trace ?_)
  rw [hb]
  have hperm : b.items.toList.Perm f.held.toList := hre.perm
  refine ⟨⟨rfl, ?_⟩, h.with_slots ?_⟩
  · rw [toList, Slots.toList_ofList]
    exact hperm
  · rw [Slots.toList_ofList, hperm.length_eq]

end Anchored

/-! ### Drains -/

namespace Drain

variable {f : Frame (Drain α) α}

/-- No more was taken out of a drain than there is, and its buffer holds all of it still. -/
structure Consistent (d : Drain α) : Prop where
  taken_le : d.taken ≤ d.length
  length_eq : d.slots.toList.length = d.length

/-- The elements that were not taken out of a drain yet. -/
def left (d : Drain α) : List α := d.slots.toList.drop d.taken

lemma remaining_apply (h : f.held.Consistent) :
    remaining supply f = (.ok (f.held.length - f.held.taken), f) := by
  rw [remaining, held_bind, minus_of_le h.taken_le]
  rfl

/-- Taking out an element goes through; it is the next one of those that are left. -/
lemma next_apply (supply : Supply) (h : f.held.Consistent) :
    ∃ (r : Option α) (d : Drain α), next supply f = (.ok r, { f with held := d })
      ∧ d.Consistent ∧ r.toList ++ d.left = f.held.left := by
  rw [next, held_bind]
  by_cases hmore : f.held.taken < f.held.length
  · have hslot : f.held.taken < f.held.slots.toList.length := h.length_eq ▸ hmore
    rw [if_pos hmore, Buffer.read_of_getElem? (List.getElem?_eq_getElem hslot), pure_bind]
    refine ⟨some _, { f.held with taken := f.held.taken + 1 }, rfl, ⟨hmore, h.length_eq⟩, ?_⟩
    exact (List.drop_eq_getElem_cons hslot).symm
  · rw [if_neg hmore]
    exact ⟨none, f.held, rfl, h, rfl⟩

/-- Asking for elements goes through, however many there are; the answers are those that were left,
in order. -/
lemma nextTimes_apply (supply : Supply) (n : Nat) (h : f.held.Consistent) :
    ∃ (r : List (Option α) × List Nat) (d : Drain α),
      nextTimes n supply f = (.ok r, { f with held := d })
        ∧ d.Consistent ∧ r.1.filterMap id ++ d.left = f.held.left := by
  induction n generalizing f with
  | zero => exact ⟨([], []), f.held, rfl, h, rfl⟩
  | succ n ih =>
    obtain ⟨x, d, hnext, hd, hx⟩ := next_apply supply h
    obtain ⟨r, d', hrest, hd', hr⟩ := ih (f := { f with held := d }) hd
    rw [nextTimes, bind_apply, hnext]
    dsimp only
    rw [bind_apply, remaining_apply (f := { f with held := d }) hd]
    dsimp only
    rw [bind_apply, hrest]
    refine ⟨_, d', rfl, hd', ?_⟩
    calc (x :: r.1).filterMap id ++ d'.left
        = x.toList ++ (r.1.filterMap id ++ d'.left) := by cases x <;> rfl
      _ = f.held.left := by rw [hr, hx]

/-- Dropping the elements that are left goes through. -/
lemma close_apply (supply : Supply) (h : f.held.Consistent) :
    close supply f = (.ok (),
      { f with tally := { f.tally with dropped := .ofList f.held.left ++ f.tally.dropped } }) := by
  have hlength := Slots.length_toList f.held.slots
  have hcount : f.held.left.length = f.held.length - f.held.taken := by
    rw [left, List.length_drop, h.length_eq]
  have hrun : f.held.taken + (f.held.length - f.held.taken) ≤ f.held.slots.length := by
    rw [← hlength, h.length_eq]
    exact Nat.le_of_eq (Nat.add_sub_cancel' h.taken_le)
  have hrest : f.held.slots.slice f.held.taken (f.held.length - f.held.taken)
      = .ofList f.held.left := by
    apply Slots.eq_ofList
    rw [Slots.toList_slice, ← hcount]
    exact List.take_length
  rw [close, held_bind, minus_of_le h.taken_le, pure_bind, Buffer.readRun_of_le hrun, hrest]
  rfl

/-- Taking out elements and dropping the rest goes through; every element is either an answer or
dropped. -/
lemma take_apply (supply : Supply) (n : Nat) (h : f.held.Consistent) :
    ∃ (r : List (Option α) × List Nat) (d : Drain α),
      take n supply f = (.ok r, { f with
          held := d
          tally := { f.tally with dropped := .ofList d.left ++ f.tally.dropped } })
        ∧ r.1.filterMap id ++ d.left = f.held.left := by
  obtain ⟨r, d, hnext, hd, hr⟩ := nextTimes_apply supply n h
  rw [take, bind_apply, remaining_apply h]
  dsimp only
  rw [bind_apply, hnext]
  dsimp only
  rw [bind_apply, close_apply supply (f := { f with held := d }) hd]
  exact ⟨_, d, rfl, hr⟩

lemma take_allOrNothing (n : Nat) (h : f.held.Consistent) :
    AllOrNothing (take n) (fun _ _ => True) supply f := by
  obtain ⟨r, d, htake, -⟩ := take_apply supply n h
  exact .of_ok htake trivial

lemma ofArray_consistent {a : Anchored α} (h : a.WellFormed) : (ofArray a).Consistent where
  taken_le := Nat.zero_le _
  length_eq := h.length_eq'.symm

/-- Everything in an array is left in its drain at first. -/
lemma ofArray_left (a : Anchored α) : (ofArray a).left = a.toList := List.drop_zero

end Drain

end AnchoredArrays
