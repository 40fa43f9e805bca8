import AnchoredArrays.Proofs.Anchored.Growth
import AnchoredArrays.Proofs.Anchored.Making
import AnchoredArrays.Proofs.Anchored.Removal
import AnchoredArrays.Proofs.Call.Requests
import AnchoredArrays.Anchored.Access
import AnchoredArrays.Anchored.Order

/-!
What the operations on arrays ask for. An operation checks its arguments and the limits of its
result, and is left with a demand: the numbers of slots of the buffers that it needs, in order. The
demands are said here by themselves, without the plans that they are the buffers of.

* `placeDemand`, `literalDemand`: the demands of new arrays;
* `growthDemand`, `insertionDemand`, `copiesDemand`: the demands of growing arrays;
* `removalDemand`, `runDemand`: the demands of removals;
* `push_asks`, `remove_asks` and their companions: **an operation asks** for what its demand says.
-/

namespace AnchoredArrays.Anchored

open Element Call

variable {α σ τ : Type} [Element α] {supply : Supply} {operation : Operation}
  {a b : Anchored α} {i : Int64} {f : Frame (Anchored α) α} {start : Nat}

/-! ### Demands -/

/-- The demand of `n` elements that are to be placed at `lower`. -/
def placeDemand (α : Type) [Element α] (lower : Int64) (n : Nat) : Except Reason (List Nat) :=
  if n = 0 ∧ lower = Position.least then .error .noEmptyAnchor
  else if maxLength α < n ∨ Position.greatest.toInt < lower.toInt + n - 1 then .error .noMemory
  else .ok [n]

/-- The demand of `n` elements at a fixed place. -/
def literalDemand (α : Type) [Element α] (n : Nat) : Except Reason (List Nat) :=
  if n ≤ maxLength α then .ok [n] else .error .noMemory

/-- The demand of `n` elements that are to be added to an array. -/
def growthDemand (a : Anchored α) (n : Nat) : Except Reason (List Nat) :=
  if n = 0 then .ok []
  else if a.toList.length + n ≤ maxLength α
      ∧ a.upper.toInt + n ≤ Position.greatest.toInt then .ok [a.toList.length + n]
  else .error .noMemory

/-- The demand of `n` elements that are to be added at a position. -/
def insertionDemand (a : Anchored α) (i : Int64) (n : Nat) : Except Reason (List Nat) :=
  if a.lower.toInt ≤ i.toInt ∧ slotOf a.lower i ≤ a.toList.length then growthDemand a n
  else .error .noInsertionPoint

/-- The demand of `n` elements whose copies are to be added at a position: the copies come first,
and if they do not all go through, nothing else is asked for. -/
def copiesDemand (supply : Supply) (a : Anchored α) (i : Int64) (n : Nat) :
    Except Reason (List Nat) :=
  (insertionDemand a i n).map fun longer =>
    if n = 0 then [] else if supply.Lets n then n :: longer else [n]

/-- The demand of removing the element at a position. -/
def removalDemand (a : Anchored α) (i : Int64) : Except Reason (List Nat) :=
  if a.contains i = true then
    if a.toList.length = 1 ∧ a.lower = Position.least then .error .noEmptyAnchor
    else .ok [a.toList.length - 1]
  else .error .noElement

/-- The demand of removing up to `n` elements from a position on. -/
def runDemand (a : Anchored α) (i n : Int64) : Except Reason (List Nat) :=
  if n.toInt < 0 then .error .negativeLength
  else if a.contains i = true then
    let cut := min n.toInt (a.upper.toInt - i.toInt + 1)
    if (cut = 0 ∨ cut = a.toList.length) ∧ a.lower = Position.least then .error .noEmptyAnchor
    else .ok [cut.toNat, a.toList.length - cut.toNat]
  else .error .noElement

/-- The demand of another anchor: nothing, if there can be an array there. -/
def anchorDemand (a : Anchored α) (start : Int64) : Except Reason (List Nat) :=
  if (a.toList.length ≠ 0 ∧ Position.greatest.toInt < start.toInt + a.toList.length - 1)
      ∨ (a.toList.length = 0 ∧ start = Position.least) then .error .noSuchAnchor
  else .ok []

/-! ### Growing operations -/

lemma growth_buffers (a : Anchored α) (start : Nat) (new : List α) :
    (growth a start new).map Plan.buffers = growthDemand a new.length := by
  rw [growth, growthDemand]
  split_ifs <;> rfl

lemma insertion_buffers (a : Anchored α) (i : Int64) (new : List α) :
    (insertion a i new).map Plan.buffers = insertionDemand a i new.length := by
  rw [insertion, insertionDemand]
  split_ifs
  · exact growth_buffers ..
  · rfl

/-- Adding elements asks for the longer buffer. -/
lemma growth_asks {f : Frame (Anchored α) α} (operation : Operation) (a : Anchored α)
    (start : Nat) (new : List α) :
    Asks supply operation (growthDemand a new.length) f.tally.requests
      (carryOut operation (growth a start new) supply f) := by
  rw [← growth_buffers a start]
  exact carryOut_asks operation fun _ => growth_fits

/-- Adding elements at a position asks for the longer buffer. -/
lemma insertion_asks {f : Frame (Anchored α) α} (operation : Operation) (a : Anchored α)
    (i : Int64) (new : List α) :
    Asks supply operation (insertionDemand a i new.length) f.tally.requests
      (carryOut operation (insertion a i new) supply f) := by
  rw [← insertion_buffers]
  exact carryOut_asks operation fun _ => insertion_fits

lemma push_asks (h : f.held.WellFormed) (x : α) :
    Asks supply .push (growthDemand f.held 1) f.tally.requests (push x supply f) := by
  rw [push_eq h]
  exact .given (growth_asks (f := f.leaving _) .push f.held _ [x]) _

lemma append_asks (h : f.held.WellFormed) (hb : b.WellFormed) :
    Asks supply .append (growthDemand f.held b.toList.length) f.tally.requests
      (append b supply f) := by
  rw [append_eq h hb]
  exact .given (growth_asks (f := f.leaving _) .append f.held _ b.toList) _

lemma insert_asks (h : f.held.WellFormed) (i : Int64) (x : α) :
    Asks supply .insert (insertionDemand f.held i 1) f.tally.requests
      (insert i x supply f) := by
  rw [insert_eq h]
  exact .given (insertion_asks (f := f.leaving _) .insert f.held i [x]) _

lemma insertMoved_asks (h : f.held.WellFormed) (i : Int64) (hb : b.WellFormed) :
    Asks supply .insertMoved (insertionDemand f.held i b.toList.length) f.tally.requests
      (insertMoved i b supply f) := by
  rw [insertMoved_eq h i hb]
  exact .given (insertion_asks (f := f.leaving _) .insertMoved f.held i b.toList) _

/-- An array as the value of a call of its own makes no difference to what the call asks for. -/
lemma owning_asks {f : Frame σ α} {c : Call (Anchored α) α Unit}
    {demand : Except Reason (List Nat)} {earlier : List Request}
    (hc : Asks supply operation demand earlier (c supply ⟨a, f.copiesLeft, f.tally⟩)) :
    Asks supply operation demand earlier (owning a c supply f) := by
  rw [owning, bind_apply, on]
  generalize c supply ⟨a, f.copiesLeft, f.tally⟩ = out at hc ⊢
  obtain ⟨(e | p | x) | r, g⟩ := out
  · exact hc.congr (fun _ => congrArg Except.error ∘ Except.error.inj)
      (fun h => absurd rfl (h e)) rfl
  · exact hc.congr (by rintro _ ⟨⟩) (by rintro _ _ ⟨⟩) rfl
  · exact hc.congr (by rintro _ ⟨⟩) (by rintro _ _ ⟨⟩) rfl
  · exact hc.congr (by rintro _ ⟨⟩) (by rintro _ _ ⟨⟩) rfl

lemma extend_asks (h : a.WellFormed) (x : α) (f : Frame σ α) :
    Asks supply .extend (growthDemand a 1) f.tally.requests (extend a x supply f) := by
  rw [extend_eq h]
  exact owning_asks (.given (growth_asks (f := Frame.leaving ⟨a, _, f.tally⟩ _) .extend a _ [x]) _)

lemma concat_asks (h : a.WellFormed) (hb : b.WellFormed) (f : Frame σ α) :
    Asks supply .concat (growthDemand a b.toList.length) f.tally.requests
      (concat a b supply f) := by
  rw [concat_eq h hb]
  exact owning_asks
    (.given (growth_asks (f := Frame.leaving ⟨a, _, f.tally⟩ _) .concat a _ b.toList) _)

/-! ### Growing operations that copy elements -/

/-- Adding copies asks for a buffer for them first and then, if they go through, for the longer
one. -/
lemma spliceCopies_asks (h : f.held.WellFormed) (hs : start ≤ f.held.toList.length)
    (hb : b.WellFormed) (hcopies : f.copiesLeft = supply.copies) :
    Asks supply operation ((growthDemand f.held b.toList.length).map fun longer =>
        if b.toList.length = 0 then []
        else if supply.Lets b.toList.length then b.toList.length :: longer
        else [b.toList.length]) f.tally.requests
      (spliceCopies operation start b supply f) := by
  rw [spliceCopies_eq h hs hb]
  by_cases hnone : b.toList.length = 0
  · rw [if_pos hnone, growthDemand, if_pos hnone]
    simp only [hnone, if_true, Except.map]
    exact .of_quiet (.pure ())
  have hgrowth : growthDemand f.held b.toList.length = _ := if_neg hnone
  rw [if_neg hnone]
  simp only [hnone, if_false]
  by_cases hfits : f.held.toList.length + b.toList.length ≤ maxLength α
      ∧ f.held.upper.toInt + b.toList.length ≤ Position.greatest.toInt
  swap
  · rw [hgrowth, if_neg hfits, if_neg hfits]
    exact ⟨rfl, rfl⟩
  rw [if_pos hfits] at hgrowth
  rw [hgrowth, if_pos hfits, checked_ok, pure_bind]
  simp only [Except.map]
  have hlets : supply.Lets b.toList.length ↔ ∀ left,
      (f.asking supply b.toList.length).copiesLeft = some left → b.slots.length ≤ left := by
    rw [Frame.asking_copiesLeft, hcopies, ← length_toList]
    rfl
  split_ifs with hlets'
  · obtain ⟨g, hcopy, -, hrequests, -⟩ := copyAll_apply supply (hlets.1 hlets')
    have hlength : (b.slots.map Element.copy).toList.length = b.toList.length := by
      rw [Slots.toList_map, List.length_map]
      rfl
    refine .cons hb.room.fits ?_
    rw [bind_apply, hcopy, ← hrequests, ← hgrowth, ← hlength]
    exact .given (growth_asks operation f.held start _) _
  · obtain ⟨g, hcopy, hrequests⟩ := copyAll_exhausted supply (mt hlets.2 hlets')
    refine .cons hb.room.fits (.of_quiet (.of_error (e := .panic .copiesExhausted) ?_ hrequests
      fun _ hx => nomatch hx))
    rw [bind_apply, hcopy]

/-- Copies at a position are asked for once the position has passed. -/
lemma insertionSlot_asks (h : f.held.WellFormed) (i : Int64) (hb : b.WellFormed)
    (hcopies : f.copiesLeft = supply.copies) :
    Asks supply operation (copiesDemand supply f.held i b.toList.length) f.tally.requests
      ((do
        let start ← insertionSlot operation f.held i
        spliceCopies operation start b) supply f) := by
  rw [insertionSlot_eq h, copiesDemand, insertionDemand]
  by_cases hin : f.held.lower.toInt ≤ i.toInt ∧ slotOf f.held.lower i ≤ f.held.toList.length
  · rw [if_pos hin, if_pos hin, checked_ok, pure_bind]
    exact spliceCopies_asks h hin.2 hb hcopies
  · rw [if_neg hin, if_neg hin]
    exact ⟨rfl, rfl⟩

lemma insertCopy_asks (h : f.held.WellFormed) (i : Int64) (hb : b.WellFormed)
    (hcopies : f.copiesLeft = supply.copies) :
    Asks supply .insertCopy (copiesDemand supply f.held i b.toList.length) f.tally.requests
      (insertCopy i b supply f) := by
  rw [insertCopy, held_bind, trace_bind]
  exact insertionSlot_asks (f := f.leaving _) h i hb hcopies

lemma insertSelf_asks (h : f.held.WellFormed) (i : Int64) (hcopies : f.copiesLeft = supply.copies) :
    Asks supply .insertSelf (copiesDemand supply f.held i f.held.toList.length) f.tally.requests
      (insertSelf i supply f) := by
  rw [insertSelf, held_bind, trace_bind]
  exact insertionSlot_asks (f := f.leaving _) h i h hcopies

/-! ### Removals -/

lemma removal_buffers (h : a.WellFormed) (i : Int64) (rest : List α) :
    (removal a i rest).map Plan.buffers = removalDemand a i := by
  rw [removal, removalDemand]
  by_cases hin : a.contains i = true
  · obtain ⟨hlow, hslot⟩ := h.contains_iff.1 hin
    rw [if_pos hin, h.get?_eq, if_pos hlow, List.getElem?_eq_getElem hslot]
    split_ifs <;> rfl
  · have hnone : a.get? i = none := if_neg hin
    rw [if_neg hin, hnone]
    rfl

/-- Removing an element asks for the shorter buffer. -/
lemma removal_asks (operation : Operation) (h : a.WellFormed) (i : Int64) (rest : List α) :
    Asks supply operation (removalDemand a i) f.tally.requests
      (carryOut operation (removal a i rest) supply f) := by
  rw [← removal_buffers h i rest]
  exact carryOut_asks operation fun _ => removal_fits h

lemma remove_asks (h : f.held.WellFormed) (i : Int64) :
    Asks supply .remove (removalDemand f.held i) f.tally.requests (remove i supply f) := by
  rw [remove_eq h]
  exact removal_asks (f := f.leaving _) .remove h i _

lemma swapRemove_asks (h : f.held.WellFormed) (i : Int64) :
    Asks supply .swapRemove (removalDemand f.held i) f.tally.requests
      (swapRemove i supply f) := by
  rw [swapRemove_eq h]
  exact removal_asks (f := f.leaving _) .swapRemove h i _

lemma runRemoval_buffers (h : a.WellFormed) (i n : Int64) :
    (runRemoval a i n).map Plan.buffers = runDemand a i n := by
  rw [runRemoval, runDemand]
  by_cases hn : n.toInt < 0
  · rw [if_pos hn, if_pos hn]
    rfl
  rw [if_neg hn, if_neg hn]
  by_cases hin : a.contains i = true
  · obtain ⟨hlow, hslot⟩ := h.contains_iff.1 hin
    rw [if_pos hin, if_pos hin]
    rw [h.runLength_eq (Int.not_lt.1 hn) hlow hslot]
    dsimp only
    rw [Int.toNat_natCast]
    simp only [Int.natCast_eq_zero, Int.natCast_inj]
    split_ifs <;> rfl
  · rw [if_neg hin, if_neg hin]
    rfl

/-- Removing several elements asks for a buffer for them, and for one for the others. -/
lemma removeRun_asks (h : f.held.WellFormed) (i n : Int64) :
    Asks supply .removeRun (runDemand f.held i n) f.tally.requests
      (removeRun i n supply f) := by
  rw [removeRun_eq h, ← runRemoval_buffers h]
  exact carryOut_asks (f := f.leaving _) .removeRun fun _ => runRemoval_fits h

/-! ### New arrays -/

/-- An empty array asks for nothing. -/
lemma emptyFor_asks {f : Frame σ α} (operation : Operation) (lower : Int64) :
    Asks supply operation
      (if lower = Position.least then .error .noEmptyAnchor else .ok []) f.tally.requests
      ((emptyFor operation lower : Call σ α (Anchored α)) supply f) := by
  rw [emptyFor_eq]
  split_ifs
  · exact ⟨rfl, rfl⟩
  · exact .of_quiet (.pure _)

lemma ofList_asks (lower : Int64) (items : List α) {f : Frame σ α} :
    Asks supply .ofList (placeDemand α lower items.length) f.tally.requests
      (ofList lower items supply f) := by
  have hbuffers : (placing f.held lower items).map Plan.buffers
      = placeDemand α lower items.length := by
    rw [placing, placeDemand]
    split_ifs <;> rfl
  rw [ofList_eq, ← hbuffers]
  refine .given (carryOut_asks .ofList fun p hp => ?_) _
  obtain ⟨hroom, rfl⟩ := placing_room hp
  exact List.forall_mem_singleton.2 hroom.fits

lemma singletonAt_asks (start : Int64) (x : α) {f : Frame σ α} :
    Asks supply .singleton (literalDemand α 1) f.tally.requests
      (singletonAt start x supply f) := by
  refine .given (Asks.obtain .singleton 1 fun _ => ?_) _
  exact .pure _

lemma pair_asks (x y : α) {f : Frame σ α} :
    Asks supply .pair (literalDemand α 2) f.tally.requests (pair x y supply f) := by
  refine .given (Asks.obtain .pair 2 fun _ => ?_) _
  exact .pure _

/-- Allocating a draft asks for its buffer. -/
lemma allocate_asks (lower upper : Int64) {f : Frame σ α} :
    Asks supply .allocate ((Draft.allocation α lower upper).map ([·])) f.tally.requests
      (Draft.allocate lower upper supply f) := by
  rw [Draft.allocate_eq, trace_bind]
  cases hallocation : Draft.allocation α lower upper with
  | error reason => exact ⟨rfl, rfl⟩
  | ok n =>
    exact .cons (f := f.leaving _) (Draft.allocation_room hallocation).1.fits
      (.of_quiet (.pure _))

/-- Resizing a draft asks for its new buffer. -/
lemma resize_asks (n : Nat) {f : Frame (Draft α) α} :
    Asks supply .resize (placeDemand α f.held.lower n) f.tally.requests
      (Draft.resize n supply f) := by
  have hbuffers : (Draft.resizing f.held n).map Plan.buffers = placeDemand α f.held.lower n := by
    rw [Draft.resizing, placeDemand]
    split_ifs <;> rfl
  rw [Draft.resize_eq, ← hbuffers]
  refine carryOut_asks (f := f.leaving _) .resize fun p hp => ?_
  have hroom := (Draft.resizing_room hp).1
  rw [Draft.resizing] at hp
  split_ifs at hp
  cases hp
  exact List.forall_mem_singleton.2 hroom.fits

lemma writeFrom_quiet (start : Nat) (new : Slots α) {f : Frame (Draft α) α} :
    Quiet (Draft.writeFrom start new) supply f :=
  .bind .held fun _ _ => .bind (.write ..) fun _ _ => .hold _

lemma finish_quiet (d : Draft α) {f : Frame σ α} : Quiet (Draft.finish d) supply f :=
  .bind (.settle _) fun _ _ => .pure _

lemma visit_quiet (g : τ → Int64 → α × τ) (start : Int64) (n k : Nat) (t : τ) {f : Frame σ α} :
    Quiet (visit g start n k t) supply f := by
  induction n generalizing k t f with
  | zero => exact .pure _
  | succ n ih =>
    exact .bind (.bind (.receive _) fun _ _ => .pure _) fun _ _ => .bind (ih ..) fun _ _ => .pure _

lemma ofFn_asks (lower upper : Int64) (g : τ → Int64 → α × τ) (t : τ) {f : Frame σ α} :
    Asks supply .ofFn ((Draft.allocation α lower upper).map ([·])) f.tally.requests
      (ofFn lower upper g t supply f) :=
  .andThen ((allocate_asks lower upper).during .ofFn) fun _ _ =>
    .bind (visit_quiet ..) fun _ _ => .bind (.write ..) fun _ _ =>
      .bind (finish_quiet _) fun _ _ => .pure _

/-- Cells are filled with copies without a request. -/
lemma writeAt_quiet (k : Nat) (x : α) (cells : Array (Cell α)) {f : Frame σ α} :
    Quiet (Fill.writeAt k x cells) supply f := by
  rw [Fill.writeAt]
  split_ifs
  · exact .pure _
  · exact .fault _

lemma writeCopies_quiet (x : α) (cells : List Nat) (filled : Nat) (written : Array (Cell α))
    {f : Frame σ α} : Quiet (Fill.writeCopies x cells filled written) supply f := by
  induction cells generalizing filled written f with
  | nil => exact .pure _
  | cons k rest ih =>
    have hcopy : ∀ g : Frame σ α, Quiet (copyOne x) supply g := fun _ =>
      .bind (.copyAll _) fun _ _ => .pure _
    have habandon : ∀ g : Frame σ α, Quiet (Fill.abandon x filled written) supply g := fun _ =>
      .bind (.settle _) fun _ _ => .bind (.discard _) fun _ _ => .discard _
    exact .bind (.guarding (hcopy f) habandon) fun _ _ => .bind (writeAt_quiet ..) fun _ _ => ih ..

lemma repeatedly_quiet (x : α) (cells : Array (Cell α)) {f : Frame σ α} :
    Quiet (Fill.repeatedly x cells) supply f := by
  rw [Fill.repeatedly]
  split_ifs
  · exact .bind (.discard _) fun _ _ => .pure _
  · exact .bind (writeCopies_quiet ..) fun _ _ => writeAt_quiet ..

lemma replicate_asks (lower upper : Int64) (x : α) {f : Frame σ α} :
    Asks supply .replicate ((Draft.allocation α lower upper).map ([·])) f.tally.requests
      (replicate lower upper x supply f) := by
  rw [replicate, trace_bind]
  exact .andThen (.given ((allocate_asks lower upper).during .replicate) _) fun _ _ =>
    .bind (repeatedly_quiet ..) fun _ _ => finish_quiet _

/-! ### Operations that ask for nothing -/

lemma reanchor_asks (h : f.held.WellFormed) (start : Int64) :
    Asks supply .reanchor (anchorDemand f.held start) f.tally.requests
      (reanchor start supply f) := by
  have hbuffers : (reanchoring f.held start).map Plan.buffers = anchorDemand f.held start := by
    rw [reanchoring, anchorDemand]
    split_ifs <;> rfl
  rw [reanchor_eq h, ← hbuffers]
  refine carryOut_asks (f := f.leaving _) .reanchor fun p hp => ?_
  obtain ⟨-, rfl⟩ := reanchoring_room (a := f.held) h hp
  exact List.forall_mem_nil _

lemma read_quiet (a : Anchored α) (i : Int64) {f : Frame σ α} : Quiet (read a i) supply f := by
  rw [read]
  cases a.get? i with
  | none => exact .panic _
  | some x => exact .pure x

lemma putAt_quiet (a : Anchored α) (i : Int64) (x : α) : Quiet (putAt a i x) supply f :=
  .bind (.readRun ..) fun _ _ => .bind (.write ..) fun _ _ => .bind (.discard _) fun _ _ => .hold _

lemma set?_quiet (i : Int64) (x : α) : Quiet (set? i x) supply f := by
  refine .bind .held fun a g => ?_
  split_ifs
  · exact .bind (putAt_quiet ..) fun _ _ => .pure _
  · exact .bind (.discard _) fun _ _ => .pure _

lemma replace_quiet (i : Int64) (x : α) : Quiet (replace i x) supply f := by
  refine .given (.bind .held fun a g => ?_) _
  split_ifs
  · exact putAt_quiet ..
  · exact .panic _

lemma update_quiet (change : α → α) : Quiet (update change) supply f :=
  .bind .held fun _ _ => .hold _

lemma sort_quiet (direction : Sorting.Direction) (compare : Sorting.Comparison τ α) (memory : τ) :
    Quiet (sort direction compare memory) supply f := by
  refine .bind .held fun a g => .bind (.trace ..) fun _ g' => ?_
  cases Sorting.sortItems direction compare a.toList.toArray memory with
  | error e => exact .fault e
  | ok b => exact .bind (.hold _) fun _ _ => .pure _

lemma nextTimes_quiet (n : Nat) {f : Frame (Drain α) α} :
    Quiet (Drain.nextTimes n) supply f := by
  have hnext : ∀ g : Frame (Drain α) α, Quiet Drain.next supply g := by
    refine fun g => .bind .held fun d g' => ?_
    split_ifs
    · exact .bind (.read ..) fun _ _ => .bind (.hold _) fun _ _ => .pure _
    · exact .pure _
  induction n generalizing f with
  | zero => exact .pure _
  | succ n ih =>
    exact .bind (hnext f) fun _ _ => .bind (.bind .held fun _ _ => .minus ..) fun _ _ =>
      .bind ih fun _ _ => .pure _

/-- Taking elements out of a drain asks for nothing. -/
lemma take_quiet (n : Nat) {f : Frame (Drain α) α} : Quiet (Drain.take n) supply f :=
  .bind (.bind .held fun _ _ => .minus ..) fun _ _ => .bind (nextTimes_quiet n) fun _ _ =>
    .bind (.bind .held fun _ _ => .bind (.minus ..) fun _ _ => .bind (.readRun ..) fun _ _ =>
      .discard _) fun _ _ => .pure _

end AnchoredArrays.Anchored
