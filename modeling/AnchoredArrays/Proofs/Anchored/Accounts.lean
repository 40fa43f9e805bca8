import AnchoredArrays.Proofs.Anchored.InPlace
import AnchoredArrays.Proofs.Anchored.Making
import AnchoredArrays.Proofs.Anchored.Growth
import AnchoredArrays.Proofs.Anchored.Moves
import AnchoredArrays.Proofs.Call.Balance
import Mathlib.Data.List.Perm.Basic

/-!
The elements that the calls on arrays answer for. Elements that are given to a call end up in an
array or are dropped; elements that are taken out are in the result; a copy that does not go through
loses the earlier ones, except where a buffer is filled with one element.

* `owned`, `ownedIn`: the picked elements of an array, and of what is in a slot;
* `push_balanced` and its companions: **growing** an array;
* `remove_balanced`, `moving_owned` and their companions: **taking elements out** of one;
* `copy_balanced`, `copyPart_balanced`, `spliceCopies_balanced`: **copies**;
* `set?_balanced`, `replace_balanced`, `take_balanced`: changes in place, and drains;
* `ofList_balanced`, `ofFn_balanced`, `replicate_balanced` and their companions: **making** arrays.
-/

namespace AnchoredArrays.Anchored

open Element Call Draft

variable {α σ τ ρ : Type} [Element α] {supply : Supply} {operation : Operation}
  {a b : Anchored α} {i : Int64} {start n : Nat} {leaks : Bool} {pick : α → Bool}

/-- How many elements of an array are picked. -/
def owned (pick : α → Bool) (a : Anchored α) : Nat := a.toList.countP pick

/-- How many elements in a slot are picked. -/
def ownedIn (pick : α → Bool) : Option (Anchored α) → Nat
  | some a => a.owned pick
  | none => 0

@[simp] lemma owned_laid (lower : Int64) (items : List α) :
    (laid lower items).owned pick = items.countP pick := by
  rw [owned, laid_toList]

@[simp] lemma ownedIn_some (a : Anchored α) : ownedIn pick (some a) = a.owned pick := rfl

section Arrays

variable {f : Frame (Anchored α) α} {new : List α}

/-! ### Growing -/

/-- An array that grew owns the new elements as well. -/
lemma growth_owned {p : Plan (Anchored α) Unit} (hp : growth a start new = .ok p) :
    p.after.owned pick = a.owned pick + new.countP pick := by
  rw [growth] at hp
  split_ifs at hp with hnone
  · cases hp
    rw [List.length_eq_zero_iff.1 hnone]
    rfl
  · cases hp
    have hsplit := congrArg (List.countP pick) (List.take_append_drop start a.toList)
    rw [List.countP_append] at hsplit
    rw [owned_laid, List.countP_append, List.countP_append, owned]
    omega

lemma insertion_owned {p : Plan (Anchored α) Unit} (hp : insertion a i new = .ok p) :
    p.after.owned pick = a.owned pick + new.countP pick := by
  rw [insertion] at hp
  split_ifs at hp
  exact growth_owned hp

lemma push_balanced (h : f.held.WellFormed) (x : α) :
    Balanced pick leaks (push x) (owned pick) (fun _ => 0) ([x].countP pick) ([x].countP pick)
      supply f :=
  .of_eq (push_eq h x) (given_balanced .push _ (Slots.amount_single x) fun _ => growth_owned)

lemma insert_balanced (h : f.held.WellFormed) (i : Int64) (x : α) :
    Balanced pick leaks (insert i x) (owned pick) (fun _ => 0) ([x].countP pick) ([x].countP pick)
      supply f :=
  .of_eq (insert_eq h i x)
    (given_balanced .insert _ (Slots.amount_single x) fun _ => insertion_owned)

lemma append_balanced (h : f.held.WellFormed) (hb : b.WellFormed) :
    Balanced pick leaks (append b) (owned pick) (fun _ => 0) (b.owned pick) (b.owned pick)
      supply f :=
  .of_eq (append_eq h hb) (given_balanced .append _ rfl fun _ => growth_owned)

lemma insertMoved_balanced (h : f.held.WellFormed) (i : Int64) (hb : b.WellFormed) :
    Balanced pick leaks (insertMoved i b) (owned pick) (fun _ => 0) (b.owned pick) (b.owned pick)
      supply f :=
  .of_eq (insertMoved_eq h i hb) (given_balanced .insertMoved _ rfl fun _ => insertion_owned)

/-- An array that is the value of a call of its own is given to it. -/
lemma owning_balanced {f : Frame σ α} {c : Call (Anchored α) α Unit}
    (hc : Balanced pick false c (owned pick) (fun _ => 0) n n supply ⟨a, f.copiesLeft, f.tally⟩)
    (hexact : ∀ x, (c supply ⟨a, f.copiesLeft, f.tally⟩).1 ≠ .error (.fault x)) :
    Balanced pick false (owning a c) (fun _ => 0) (owned pick) (a.owned pick + n)
      (a.owned pick + n) supply f := by
  have hbind : owning a c supply f = match c supply ⟨a, f.copiesLeft, f.tally⟩ with
      | (.ok (), g) => (.ok g.held, { g with held := f.held })
      | (.error e, g) => given g.held.slots (halt e) supply { g with held := f.held } := by
    rw [owning, bind_apply, on]
    rcases c supply ⟨a, f.copiesLeft, f.tally⟩ with ⟨e | ⟨⟩, g⟩
    · rfl
    · rfl
  rw [Call.Balanced] at hc
  rcases hrun : c supply ⟨a, f.copiesLeft, f.tally⟩ with ⟨e | ⟨⟩, g⟩
  · rw [hrun] at hc hbind
    obtain ⟨hc, hleaked⟩ := hc
    have hdropped : given g.held.slots (halt e : Call σ α (Anchored α)) supply
        { g with held := f.held } = (.error e, { g with
          held := f.held
          tally := { g.tally with dropped := g.held.slots ++ g.tally.dropped } }) := by
      cases e with
      | failure e => rfl
      | panic p => rfl
      | fault x => exact (hexact x (by rw [hrun])).elim
    have hslots : g.held.slots.amount pick = g.held.owned pick := rfl
    refine .of_error (hbind.trans hdropped) ?_ ?_
    · simp only [Frame.account, Tally.account, Tally.copies, Slots.amount_append, hslots] at hc ⊢
      omega
    · rw [Frame.loss_false] at hleaked ⊢
      exact hleaked
  · rw [hrun] at hc hbind
    obtain ⟨hc, hleaked⟩ := hc
    refine .of_ok hbind ?_ hleaked
    simp only [Frame.account, Tally.account, Tally.copies] at hc ⊢
    omega

lemma extend_balanced (h : a.WellFormed) (x : α) {f : Frame σ α} :
    Balanced pick false (extend a x) (fun _ => 0) (owned pick) (a.owned pick + [x].countP pick)
      (a.owned pick + [x].countP pick) supply f :=
  .of_eq (extend_eq h x f) (owning_balanced
    (given_balanced .extend _ (Slots.amount_single x) fun _ => growth_owned)
    ((planned_unbroken .extend _ _).given _).exact)

lemma concat_balanced (h : a.WellFormed) (hb : b.WellFormed) {f : Frame σ α} :
    Balanced pick false (concat a b) (fun _ => 0) (owned pick) (a.owned pick + b.owned pick)
      (a.owned pick + b.owned pick) supply f :=
  .of_eq (concat_eq h hb f) (owning_balanced
    (given_balanced .concat _ rfl fun _ => growth_owned)
    ((planned_unbroken .concat _ _).given _).exact)

/-! ### Nothing that is handed over is lost to a panic -/

lemma append_unbroken (h : f.held.WellFormed) (hb : b.WellFormed) :
    Unbroken (append b) supply f :=
  .of_eq (append_eq h hb) ((planned_unbroken .append _ _).given _)

lemma insertMoved_unbroken (h : f.held.WellFormed) (i : Int64) (hb : b.WellFormed) :
    Unbroken (insertMoved i b) supply f :=
  .of_eq (insertMoved_eq h i hb) ((planned_unbroken .insertMoved _ _).given _)

lemma owning_unbroken {f : Frame σ α} {c : Call (Anchored α) α Unit}
    (hc : Unbroken c supply ⟨a, f.copiesLeft, f.tally⟩) : Unbroken (owning a c) supply f := by
  rw [Unbroken, owning, bind_apply, on]
  rcases hrun : c supply ⟨a, f.copiesLeft, f.tally⟩ with ⟨e | ⟨⟩, g⟩
  · obtain ⟨x, rfl⟩ := hc e (by rw [hrun])
    rintro _ ⟨⟩
    exact ⟨x, rfl⟩
  · rintro _ ⟨⟩

lemma extend_unbroken (h : a.WellFormed) (x : α) {f : Frame σ α} :
    Unbroken (extend a x) supply f :=
  .of_eq (extend_eq h x f) (owning_unbroken ((planned_unbroken .extend _ _).given _))

lemma concat_unbroken (h : a.WellFormed) (hb : b.WellFormed) {f : Frame σ α} :
    Unbroken (concat a b) supply f :=
  .of_eq (concat_eq h hb f) (owning_unbroken ((planned_unbroken .concat _ _).given _))

/-! ### Taking elements out -/

/-- An element that the last one takes the place of and the others are all elements. -/
lemma swapErase_perm {β : Type} {items : List β} {k : Nat} {x : β} (hx : items[k]? = some x) :
    (x :: swapErase items k).Perm items := by
  obtain rfl | ⟨front, y, rfl⟩ := List.eq_nil_or_concat items
  · cases hx
  rw [List.concat_eq_append] at hx ⊢
  rw [swapErase, List.getLast?_concat]
  dsimp only
  by_cases hk : k < front.length
  · rw [List.getElem?_append_left hk] at hx
    obtain ⟨-, rfl⟩ := List.getElem?_eq_some_iff.1 hx
    rw [List.set_append_left _ _ hk, List.dropLast_concat]
    calc (front[k] :: front.set k y).Perm (front[k] :: y :: front.eraseIdx k) :=
          (List.set_perm_cons_eraseIdx hk y).cons _
      List.Perm _ (y :: front[k] :: front.eraseIdx k) := .swap ..
      List.Perm _ (y :: front) := (List.getElem_cons_eraseIdx_perm hk).cons _
      List.Perm _ (front ++ [y]) := (List.perm_append_singleton y front).symm
  · obtain ⟨hle, -⟩ := List.getElem?_eq_some_iff.1 hx
    have hlast : k = front.length := by
      rw [List.length_append, List.length_singleton] at hle
      omega
    subst hlast
    rw [List.getElem?_append_right (Nat.le_refl _), Nat.sub_self] at hx
    obtain rfl : y = x := Option.some.inj hx
    rw [List.set_append_right _ _ (Nat.le_refl _), Nat.sub_self, List.set_cons_zero,
      List.dropLast_concat]
    exact (List.perm_append_singleton y front).symm

/-- The element that was taken out of an array and the others are those of the array. -/
lemma removal_owned {rest : List α} {p : Plan (Anchored α) α} (h : a.WellFormed)
    (hp : removal a i rest = .ok p)
    (hrest : ∀ x, a.toList[slotOf a.lower i]? = some x → (x :: rest).Perm a.toList) :
    p.after.owned pick + [p.result].countP pick = a.owned pick := by
  rw [removal, h.get?_eq] at hp
  split at hp
  · cases hp
  · rename_i x hx
    split_ifs at hx with hlow
    split_ifs at hp with hlast
    cases hp
    rw [owned_laid, owned, ← (hrest x hx).countP_eq pick, Nat.add_comm, ← List.countP_append,
      List.singleton_append]

lemma remove_balanced (h : f.held.WellFormed) (i : Int64) :
    Balanced pick leaks (remove i) (owned pick) (fun x => [x].countP pick) 0 0 supply f := by
  refine .of_eq (remove_eq h i) (planned_balanced .remove _ fun _ hp => ?_)
  refine removal_owned h hp fun x hx => ?_
  obtain ⟨hslot, rfl⟩ := List.getElem?_eq_some_iff.1 hx
  exact List.getElem_cons_eraseIdx_perm hslot

lemma swapRemove_balanced (h : f.held.WellFormed) (i : Int64) :
    Balanced pick leaks (swapRemove i) (owned pick) (fun x => [x].countP pick) 0 0 supply f :=
  .of_eq (swapRemove_eq h i) (planned_balanced .swapRemove _ fun _ hp =>
    removal_owned h hp fun _ => swapErase_perm)

/-- A run of elements and those in front of and behind it are all elements. -/
lemma countP_run {β : Type} {pick : β → Bool} (items : List β) (k m : Nat) :
    (items.take k ++ items.drop (k + m)).countP pick + ((items.drop k).take m).countP pick
      = items.countP pick := by
  have hfront := congrArg (List.countP pick) (List.take_append_drop k items)
  have hback := congrArg (List.countP pick) (List.take_append_drop m (items.drop k))
  rw [List.countP_append] at hfront hback ⊢
  rw [List.drop_drop] at hback
  omega

lemma removeRun_balanced (h : f.held.WellFormed) (i n : Int64) :
    Balanced pick leaks (removeRun i n) (owned pick) (owned pick) 0 0 supply f := by
  refine .of_eq (removeRun_eq h i n) (planned_balanced .removeRun _ fun p hp => ?_)
  rw [runRemoval] at hp
  dsimp only at hp
  split_ifs at hp with hn hin hlast
  cases hp
  rw [owned_laid, owned_laid]
  exact countP_run ..

lemma reanchor_balanced (h : f.held.WellFormed) (start : Int64) :
    Balanced pick leaks (reanchor start) (owned pick) (fun _ => 0) 0 0 supply f := by
  refine .of_eq (reanchor_eq h start) (planned_balanced .reanchor _ fun p hp => ?_)
  obtain ⟨-, rfl⟩ := reanchoring_room h hp
  rw [owned_laid, owned]

/-- A part that is moved out of an array, and what stays of it, are the array. -/
lemma moving_owned {p : Part} {buffers : List Nat} {kept : Int64}
    {q : Plan (Option (Anchored α)) (Anchored α)} (hq : moving a p buffers kept = .ok q) :
    ownedIn pick q.after + q.result.owned pick = a.owned pick := by
  rw [moving] at hq
  split_ifs at hq with hnone hleast hall
  · cases hq
    rw [ownedIn_some, owned_laid]
    rfl
  · cases hq
    exact Nat.zero_add _
  · cases hq
    rw [ownedIn_some, owned_laid, owned_laid]
    exact countP_run ..

/-! ### Changes in place -/

/-- The new element takes the place of the old one. -/
lemma replacing_owned (pick : α → Bool) (x : α) {y : α}
    (hy : a.toList[slotOf a.lower i]? = some y) :
    (a.replacing i x).owned pick + [y].countP pick = a.owned pick + [x].countP pick := by
  obtain ⟨hslot, rfl⟩ := List.getElem?_eq_some_iff.1 hy
  have hnew := (List.set_perm_cons_eraseIdx hslot x).countP_eq pick
  have hold := (List.getElem_cons_eraseIdx_perm hslot).countP_eq pick
  rw [← List.singleton_append, List.countP_append] at hnew hold
  rw [replacing, owned_laid, hnew, owned, ← hold]
  omega

/-- Replacing an element that is there takes in the new one and drops the old one. -/
lemma putAt_account (pick : α → Bool) (supply : Supply) (h : f.held.WellFormed)
    (hi : f.held.contains i = true) (x : α) :
    ∃ g, putAt f.held i x supply f = (.ok (), g)
      ∧ g.account pick (owned pick) = f.account pick (owned pick) + [x].countP pick
      ∧ g.tally.leaked = f.tally.leaked := by
  obtain ⟨y, hy, hput⟩ := putAt_apply supply h hi x
  have howned := replacing_owned pick x hy
  refine ⟨_, hput, ?_, rfl⟩
  simp only [Frame.account, Tally.account, Tally.copies, Slots.amount_append, Slots.amount_single]
  omega

lemma set?_balanced (h : f.held.WellFormed) (i : Int64) (x : α) :
    Balanced pick leaks (set? i x) (owned pick) (fun _ => 0) ([x].countP pick) ([x].countP pick)
      supply f := by
  refine .held ?_
  by_cases hi : f.held.contains i = true
  · obtain ⟨g, hput, haccount, hleaked⟩ := putAt_account pick supply h hi x
    rw [if_pos hi]
    exact .of_ok (by rw [bind_apply, hput]; rfl) ((Int.add_zero _).trans haccount) hleaked
  · rw [if_neg hi]
    refine .of_ok (r := false) rfl ?_ rfl
    simp only [Frame.account, Tally.account, Tally.copies, Slots.amount_append, Slots.amount_single]
    omega

lemma replace_balanced (h : f.held.WellFormed) (i : Int64) (x : α) :
    Balanced pick leaks (replace i x) (owned pick) (fun _ => 0) ([x].countP pick) ([x].countP pick)
      supply f := by
  by_cases hi : f.held.contains i = true
  · obtain ⟨g, hput, haccount, hleaked⟩ := putAt_account pick supply h hi x
    exact .of_ok (by rw [replace, given, guarding, held_bind, if_pos hi, hput])
      ((Int.add_zero _).trans haccount) hleaked
  · have hbreaks : (do
        let a ← held
        if a.contains i then putAt a i x else panic (.outOfRange i a.lower a.upper)
          : Call (Anchored α) α Unit) supply f
        = (.error (.panic (.outOfRange i f.held.lower f.held.upper)), f) := by
      rw [held_bind, if_neg hi]
      rfl
    refine .given (.of_panic hbreaks (by simp)) (fun y hy => ?_)
      ((Nat.zero_add _).trans (Slots.amount_single x))
    rw [hbreaks] at hy
    cases hy

lemma sort_balanced (direction : Sorting.Direction) (compare : Sorting.Comparison τ α)
    (memory : τ) :
    Balanced pick leaks (sort direction compare memory) (owned pick) (fun _ => 0) 0 0 supply f := by
  obtain ⟨b, hb, hre⟩ :=
    Sorting.sortItems_rearranged direction compare f.held.toList.toArray memory
  have hcount : b.items.toList.countP pick = f.held.toList.countP pick := hre.perm.countP_eq pick
  rw [sort]
  refine .held (.trace ?_)
  rw [hb]
  refine .of_ok rfl ?_ rfl
  simp only [Frame.account, owned, toList, Slots.toList_ofList, Frame.leaving] at hcount ⊢
  rw [hcount]

lemma read_balanced (a : Anchored α) (i : Int64) {f : Frame σ α} :
    Balanced pick leaks (read a i) (fun _ => 0) (fun _ => 0) 0 0 supply f := by
  rw [read]
  cases a.get? i with
  | none => exact .of_panic rfl (by simp)
  | some x => exact .of_ok rfl rfl rfl

/-! ### Copies -/

/-- An empty array owns nothing. -/
lemma emptyFor_balanced {f : Frame σ α} {own : σ → Nat} (lower : Int64) :
    Balanced pick leaks (emptyFor operation lower) own (owned pick) 0 0 supply f := by
  rw [emptyFor_eq]
  refine .light (.checked operation _) fun a g hrun => ?_
  split_ifs at hrun
  · cases hrun
  · cases hrun
    exact owned_laid lower []

/-- Copies of consecutive elements. -/
lemma copySlots_balanced {f : Frame σ α} {own : σ → Nat} {anchor : Int64}
    (hn : start + n ≤ a.toList.length) (hroom : Room α anchor n) :
    Balanced pick true (copySlots operation a start n anchor) own (owned pick) 0 0 supply f := by
  rw [copySlots_eq hn hroom]
  exact .after (.obtain operation n) fun _ g _ _ => .map (copyAll_balanced _)

/-- Copies of the elements of an array that are added to another one. They are dropped if there is
no room for them. -/
lemma spliceCopies_balanced (h : f.held.WellFormed) (hs : start ≤ f.held.toList.length)
    (hb : b.WellFormed) :
    Balanced pick true (spliceCopies operation start b) (owned pick) (fun _ => 0) 0 0 supply f := by
  refine .of_eq (spliceCopies_eq h hs hb) ?_
  by_cases hempty : b.toList.length = 0
  · rw [if_pos hempty]
    exact .light (.pure ()) fun _ _ _ => rfl
  rw [if_neg hempty]
  refine .after (.checked operation _) fun _ g _ hg => .after (.obtain operation _) ?_
  refine fun _ g' _ hg' => .bind (copyAll_balanced _) fun copies g'' hrun => ?_
  have hheld : g''.held = f.held :=
    ((AllOrNothing.copyAll _).post_of_ok hrun).2.trans (hg'.trans hg)
  rw [← hheld]
  exact ⟨.given (carryOut_balanced _ fun _ hp => growth_owned hp)
    (carryOut_unbroken operation _).exact (Nat.zero_add _),
    fun _ => (carryOut_unbroken operation _).given _⟩

/-- Copies that are added at a position. -/
lemma insertionSlot_balanced (h : f.held.WellFormed) (i : Int64) (hb : b.WellFormed) :
    Balanced pick true (do
        let start ← insertionSlot operation f.held i
        spliceCopies operation start b) (owned pick) (fun _ => 0) 0 0 supply f := by
  rw [insertionSlot_eq h]
  refine .after (.checked operation _) fun start g hrun hg => ?_
  have hstart := ((AllOrNothing.checked operation _).post_of_ok hrun).1
  split_ifs at hstart with hin
  cases hstart
  exact spliceCopies_balanced (hg ▸ h) (hg ▸ hin.2) hb

lemma insertCopy_balanced (h : f.held.WellFormed) (i : Int64) (hb : b.WellFormed) :
    Balanced pick true (insertCopy i b) (owned pick) (fun _ => 0) 0 0 supply f :=
  .held (.trace (insertionSlot_balanced (f := f.leaving _) h i hb))

lemma insertSelf_balanced (h : f.held.WellFormed) (i : Int64) :
    Balanced pick true (insertSelf i) (owned pick) (fun _ => 0) 0 0 supply f :=
  .held (.trace (insertionSlot_balanced (f := f.leaving _) h i h))

end Arrays

/-- A part that is copied. -/
lemma copyPart_balanced {f : Frame σ α} {p : Part} (hp : p.Within a) :
    Balanced pick true (copyPart operation a p) (fun _ => 0) (owned pick) 0 0 supply f := by
  rw [copyPart]
  split_ifs with hcount
  · exact emptyFor_balanced a.lower
  · exact copySlots_balanced hp.le (hp.room hcount)

/-- A slice that copies its part. -/
lemma sliced_balanced {f : Frame σ α} {part : Except Reason Part}
    (hpart : ∀ p, part = .ok p → p.Within a) (arguments : List Argument) :
    Balanced pick true (do
        trace operation arguments
        let p ← checked operation part
        copyPart operation a p) (fun _ => 0) (owned pick) 0 0 supply f := by
  refine .trace (.after (.checked operation part) fun p g hrun _ => ?_)
  exact copyPart_balanced (hpart p ((AllOrNothing.checked operation part).post_of_ok hrun).1)

/-- A copy of a whole array. If there is no buffer for it, nothing was copied. -/
lemma copy_balanced (h : a.WellFormed) {f : Frame σ α} :
    Balanced pick true (copy a) (fun _ => 0) (owned pick) 0 0 supply f := by
  have hslots : Balanced pick true (copySlots .copy a 0 a.toList.length a.lower) (fun _ => 0)
      (owned pick) 0 0 supply f := copySlots_balanced (Nat.le_of_eq (Nat.zero_add _)) h.room
  rw [Call.Balanced] at hslots ⊢
  rw [copy, h.length_eq']
  generalize copySlots .copy a 0 a.toList.length a.lower supply f = out at *
  obtain ⟨(e | p | x) | b, g⟩ := out
  · have hnone : f.loss pick g true (.panic (.outOfMemory .copy)) = 0 :=
      Frame.loss_of_ne (by simp)
    dsimp only at hslots ⊢
    rw [Frame.loss_failure] at hslots
    rwa [hnone]
  · exact hslots
  · exact hslots
  · exact hslots

/-! ### Drains -/

/-- The elements that are taken out of a drain, and those that are dropped, are all its elements. -/
lemma take_balanced {f : Frame (Drain α) α} (n : Nat) (h : f.held.Consistent) :
    Balanced pick leaks (Drain.take n) (fun _ => 0) (fun r => (r.1.filterMap id).countP pick)
      (f.held.left.countP pick) (f.held.left.countP pick) supply f := by
  obtain ⟨r, d, htake, hr⟩ := Drain.take_apply supply n h
  refine .of_ok htake ?_ rfl
  rw [← hr]
  simp only [Frame.account, Tally.account, Tally.copies, Slots.amount_append, Slots.amount_ofList,
    List.countP_append]
  omega

/-! ### Making arrays -/

section Making

variable {f : Frame σ α} {own : σ → Nat} {lower upper : Int64}

lemma ofList_balanced (lower : Int64) (items : List α) :
    Balanced pick leaks (ofList lower items) own (owned pick) (items.countP pick)
      (items.countP pick) supply f := by
  refine .of_eq (ofList_eq lower items) (.given (carryOut_balanced _ fun p hp => ?_)
    (carryOut_unbroken _ _).exact ((Nat.zero_add _).trans (Slots.amount_ofList items)))
  obtain ⟨-, rfl⟩ := placing_room hp
  dsimp only
  rw [owned_laid]

/-- Elements for which one buffer is asked for are in it, or dropped. -/
lemma obtain_balanced (slots : Nat) (lower upper : Int64) (items : List α) :
    Balanced pick leaks (given (.ofList items) do
        obtain operation slots
        pure (⟨lower, upper, .ofList items⟩ : Anchored α)) own (owned pick) (items.countP pick)
      (items.countP pick) supply f := by
  have hlight : Light (do
      obtain operation slots
      pure ⟨lower, upper, .ofList items⟩ : Call σ α (Anchored α)) supply f :=
    .bind (.obtain operation slots) fun _ _ _ => .pure _
  refine .given (.after (.obtain operation slots) fun _ g _ _ => .light (.pure _) ?_)
    hlight.unbroken.exact ((Nat.zero_add _).trans (Slots.amount_ofList items))
  rintro _ _ ⟨⟩
  exact congrArg (List.countP pick) (Slots.toList_ofList items)

lemma allocate_light (lower upper : Int64) :
    Light (allocate lower upper : Call σ α (Draft α)) supply f := by
  rw [allocate_eq]
  exact .bind (.trace ..) fun _ _ _ => .bind (.checked ..) fun _ _ _ =>
    .bind (.obtain ..) fun _ _ _ => .pure _

/-- The values of a function are in the array, each once. -/
lemma ofFn_balanced (g : τ → Int64 → α × τ) (t : τ) :
    Balanced pick leaks (ofFn lower upper g t) own (fun r => r.1.owned pick) 0 0 supply f := by
  refine .after (.during (allocate_light lower upper) .ofFn) fun d f' hrun _ => ?_
  obtain ⟨⟨hwell, rfl, -⟩, -⟩ :=
    ((allocate_allOrNothing lower upper).during .ofFn).post_of_ok hrun
  refine .of_ok (finish_values supply f' hwell g t).1 ?_ rfl
  simp only [Frame.account, Frame.receiving, Tally.account, Tally.copies, Slots.amount_append,
    Slots.amount_ofList, List.countP_reverse, owned_laid]
  omega

/-- What was copied to fill a buffer is in it, or dropped, and so is the element itself. -/
lemma repeatedly_balanced (x : α) (cells : Array (Cell α)) :
    Balanced pick false (Fill.repeatedly x cells) own
      (fun r => (r.toList.filterMap Cell.content).countP pick) ([x].countP pick) ([x].countP pick)
      supply f := by
  obtain hempty | ⟨hsome, hleft⟩ | ⟨m, hleft, hm⟩ := Fill.repeatedly_cases cells f
  · refine .of_ok (Fill.repeatedly_none supply x hempty f) ?_ rfl
    rw [Array.eq_empty_of_size_eq_zero hempty]
    simp only [Frame.account, Tally.account, Tally.copies, Slots.amount_append, Slots.amount_single,
      List.filterMap_nil, List.countP_nil]
    omega
  · refine .of_ok (Fill.repeatedly_enough supply x hsome hleft) ?_ rfl
    simp only [Frame.account, Tally.account, Tally.copies, Fill.copying, Slots.amount_map_append,
      Slots.amount_map_ofList, List.map_replicate, Cell.filterMap_content, List.countP_append]
    omega
  · refine .of_error (Fill.repeatedly_exhausted supply x hleft hm) ?_ ?_
    · simp only [Frame.account, Tally.account, Tally.copies, Fill.abandoning, Fill.copying,
        Slots.amount_map_append, Slots.amount_map_ofList, Slots.amount_append, Slots.amount_single,
        Slots.amount_ofList, List.map_replicate]
      omega
    · rw [Frame.loss_false, Int.add_zero]
      rfl

/-- One element in every slot: its copies and the element itself are in the array, or dropped. -/
lemma replicate_balanced (lower upper : Int64) (x : α) :
    Balanced pick false (replicate lower upper x) own (owned pick) ([x].countP pick)
      ([x].countP pick) supply f := by
  have hdraft : ∀ g : Frame σ α, Balanced pick false (given (.single x)
      (during .replicate (allocate lower upper)) : Call σ α (Draft α)) own
      (fun _ => [x].countP pick) ([x].countP pick) ([x].countP pick) supply g := by
    intro g
    have hlight : Light (during .replicate (allocate lower upper) : Call σ α (Draft α)) supply g :=
      .during (allocate_light lower upper) .replicate
    exact .given (.light hlight fun _ _ _ => rfl) hlight.unbroken.exact
      ((Nat.zero_add _).trans (Slots.amount_single x))
  refine .trace (.bind (hdraft _) fun d g hrun => ⟨.bind (repeatedly_balanced x _) ?_, nofun⟩)
  intro cells g' hfill
  obtain ⟨⟨hwell, -⟩, -⟩ :=
    (((allocate_allOrNothing lower upper).during .replicate).given _).post_of_ok hrun
  have hcells := ((Fill.repeatedly_allOrNothing x _ g).post_of_ok hfill).1
  obtain ⟨items, -, hitems, -, hfinish⟩ := finish_repeated (σ := σ) hwell hcells
  rw [hfinish, hitems, Cell.filterMap_content]
  refine ⟨.of_ok (pure_apply ..) ?_ rfl, nofun⟩
  rw [owned_laid]

/-- If an element cannot be put into every slot, the copies that were made of it are dropped, and
the element itself. -/
lemma replicate_dropped {lower upper : Int64} {x : α} {e : Halt} {g : Frame σ α}
    (hrun : replicate lower upper x supply f = (.error e, g)) :
    ∃ made : List α, g.tally.copied.toList = made ++ f.tally.copied.toList
      ∧ g.tally.dropped.toList = x :: made.map Element.copy ++ f.tally.dropped.toList := by
  have hdraft : Light (during .replicate (allocate lower upper) : Call σ α (Draft α)) supply
    (f.leaving (.trace .replicate [.position lower, .position upper])) :=
    .during (allocate_light lower upper) .replicate
  have halike := hdraft.alike
  rw [replicate, trace_bind, bind_apply, given, guarding] at hrun
  rcases hallocate : (during .replicate (allocate lower upper) : Call σ α (Draft α)) supply
    (f.leaving (.trace .replicate [.position lower, .position upper])) with ⟨e' | d, g'⟩
  · obtain ⟨y, rfl⟩ := hdraft.unbroken e' (by rw [hallocate])
    rw [hallocate] at halike hrun
    cases hrun
    refine ⟨[], congrArg Slots.toList halike.copied, ?_⟩
    calc (Slots.single x ++ g'.tally.dropped).toList = [x] ++ g'.tally.dropped.toList := by simp
      _ = [x] ++ f.tally.dropped.toList := by rw [halike.dropped]; rfl
  · obtain ⟨⟨hwell, rfl, -⟩, -⟩ :=
      ((allocate_allOrNothing lower upper).during .replicate).post_of_ok hallocate
    rw [hallocate] at halike hrun
    dsimp only at hrun
    rw [bind_apply] at hrun
    rcases hfill : Fill.repeatedly x d.slots.toList.toArray supply g' with ⟨e' | cells, g''⟩
    · rw [hfill] at hrun
      cases hrun
      have hcopied : g'.tally.copied = f.tally.copied := halike.copied
      have hdropped : g'.tally.dropped = f.tally.dropped := halike.dropped
      rw [← hcopied, ← hdropped]
      exact Fill.repeatedly_dropped hfill
    · have hcells := ((Fill.repeatedly_allOrNothing x _ g').post_of_ok hfill).1
      obtain ⟨items, -, -, -, hfinish⟩ := finish_repeated (σ := σ) hwell hcells
      rw [hfill] at hrun
      dsimp only at hrun
      rw [hfinish, pure_apply] at hrun
      cases hrun

end Making

end AnchoredArrays.Anchored
