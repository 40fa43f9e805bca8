import AnchoredArrays.Proofs.Anchored.Shifting

/-!
Drafts. A draft is a well-formed array of cells from its allocation on, whatever is written into it
and however often it is resized; once every cell is written, it is a well-formed array.

* `allocation`, `allocate_eq`: the length of a draft over given bounds, and when there is one;
* `resizing`, `resize_eq`: **resizing a draft** is one request, and keeps the first cells;
* `finish_eq`: a draft that was written everywhere becomes an array of what was written.
-/

namespace AnchoredArrays.Draft

open Element Call Anchored

variable {α σ : Type} [Element α] {supply : Supply} {lower upper : Int64} {n : Nat}

/-! ### Allocating -/

/-- The number of slots between bounds, if there can be a draft over them. -/
def allocation (α : Type) [Element α] (lower upper : Int64) : Except Reason Nat :=
  if lower = Position.least ∧ upper = Position.greatest then .error .wholeSpace
  else if upper.toInt < lower.toInt - 1 then .error .crossedBounds
  else if maxLength α < (upper.toInt - lower.toInt + 1).toNat then .error .noMemory
  else .ok (upper.toInt - lower.toInt + 1).toNat

/-- The slots between bounds find a place, and end at the upper one. -/
lemma allocation_room (h : allocation α lower upper = .ok n) :
    Room α lower n ∧ upper.toInt = lower.toInt + n - 1 := by
  have hl := upper.le_toInt
  have hg := upper.toInt_lt
  rw [allocation] at h
  split_ifs at h with hwhole hcrossed hlong
  cases h
  refine ⟨⟨Nat.not_lt.1 hlong, ?_, ?_⟩, by omega⟩
  · rw [Position.toInt_greatest]
    omega
  · intro hz hlower
    rw [hlower, Position.toInt_least] at hz hcrossed
    omega

/-- Fresh slots between bounds make up a draft over these bounds. -/
lemma allocation_laid (h : allocation α lower upper = .ok n) :
    (laid lower (List.replicate n Cell.fresh) : Draft α).WellFormed
      ∧ (laid lower (List.replicate n Cell.fresh) : Draft α).upper = upper := by
  obtain ⟨hroom, hupper⟩ := allocation_room h
  have hcells : Room (Cell α) lower (List.replicate n (Cell.fresh (α := α))).length := by
    rw [List.length_replicate]
    exact hroom.cells
  refine ⟨hcells.wellFormed, Int64.toInt_inj.1 ?_⟩
  rw [laid, hcells.toInt_upper, List.length_replicate, hupper]

/-- Allocating a draft is one request. -/
lemma allocate_eq (lower upper : Int64) :
    (allocate lower upper : Call σ α (Draft α)) = (do
      trace .allocate [.position lower, .position upper]
      let n ← checked .allocate (allocation α lower upper)
      obtain .allocate n
      pure (laid lower (List.replicate n Cell.fresh))) := by
  have hl := lower.le_toInt
  have hg := lower.toInt_lt
  have hl' := upper.le_toInt
  have hg' := upper.toInt_lt
  rw [allocate]
  simp only [belowPred_eq, pure_bind]
  congr 1
  funext _
  by_cases hwhole : lower = Position.least ∧ upper = Position.greatest
  · rw [allocation, if_pos hwhole, if_pos hwhole]
    rfl
  by_cases hcrossed : upper.toInt < lower.toInt - 1
  · rw [allocation, if_neg hwhole, if_neg hwhole, if_pos (by simpa using hcrossed), if_pos hcrossed]
    rfl
  obtain ⟨n, hn⟩ : ∃ n, n = (upper.toInt - lower.toInt + 1).toNat := ⟨_, rfl⟩
  have hword : n < 0x10000000000000000 := by
    by_contra hlong
    refine hwhole ⟨Int64.toInt_inj.1 ?_, Int64.toInt_inj.1 ?_⟩
    · rw [Position.toInt_least]
      omega
    · rw [Position.toInt_greatest]
      omega
  rw [if_neg hwhole, if_neg (by simpa using hcrossed), countOf_of_le (n := n) (by omega) hword,
    pure_bind]
  by_cases hlong : maxLength α < n
  · rw [allocation, if_neg hwhole, if_neg hcrossed, ← hn, if_pos hlong, if_pos hlong]
    rfl
  · have hok : allocation α lower upper = .ok n := by
      rw [allocation, if_neg hwhole, if_neg hcrossed, ← hn, if_neg hlong]
    obtain ⟨hroom, hupper⟩ := allocation_room hok
    have hslots : (Slots.repeated n Cell.fresh : Slots (Cell α))
        = .ofList (List.replicate n Cell.fresh) := Slots.eq_ofList (by simp)
    have hcells : Room (Cell α) lower (List.replicate n (Cell.fresh (α := α))).length := by
      rw [List.length_replicate]
      exact hroom.cells
    rw [if_neg hlong, hok, checked_ok, pure_bind, hslots,
      hcells.mk_eq_laid (by rw [List.length_replicate, hupper])]

/-- Allocating a draft goes through exactly when there can be a draft and its request is granted. -/
lemma allocate_apply (lower upper : Int64) (f : Frame σ α) :
    allocate lower upper supply f
      = match allocation α lower upper with
        | .error reason => fail .allocate reason supply
            (f.leaving (.trace .allocate [.position lower, .position upper]))
        | .ok n =>
          let g := (f.leaving (.trace .allocate [.position lower, .position upper])).asking supply n
          if f.grants supply n then (.ok (laid lower (List.replicate n Cell.fresh)), g)
          else fail .allocate .noMemory supply g := by
  rw [allocate_eq, trace_bind]
  cases allocation α lower upper with
  | error reason => rfl
  | ok n =>
    rw [checked_ok, pure_bind, bind_apply, obtain_apply, Frame.leaving_grants]
    dsimp only
    split_ifs <;> rfl

/-- A draft that is allocated is well-formed, has the given bounds and is unwritten. -/
lemma allocate_allOrNothing (lower upper : Int64) {f : Frame σ α} :
    AllOrNothing (allocate lower upper)
      (fun d s => (d.WellFormed ∧ d.lower = lower ∧ d.upper = upper
        ∧ d.toList = List.replicate d.toList.length Cell.fresh) ∧ s = f.held) supply f := by
  rw [allocate_eq]
  refine .trace (.bind (.checked .allocate _) ?_)
  intro n g hn hg
  refine .bind (.obtain .allocate n) fun _ g' _ hg' => .pure ⟨?_, hg'.trans hg⟩
  obtain ⟨hwell, hupper⟩ := allocation_laid hn
  exact ⟨hwell, rfl, hupper, by simp⟩

/-! ### Resizing -/

variable {f : Frame (Draft α) α} {d : Draft α}

/-- The plan for giving a draft exactly `n` slots. -/
def resizing (d : Draft α) (n : Nat) : Except Reason (Plan (Draft α) Unit) :=
  if n = 0 ∧ d.lower = Position.least then .error .noEmptyAnchor
  else if maxLength α < n ∨ Position.greatest.toInt < d.lower.toInt + n - 1 then .error .noMemory
  else
    .ok ⟨[n], laid d.lower (d.toList.take n
      ++ List.replicate (n - d.toList.length) Cell.fresh), ()⟩

lemma length_resized (cells : List (Cell α)) (n : Nat) :
    (cells.take n ++ List.replicate (n - cells.length) Cell.fresh).length = n := by
  simp only [List.length_append, List.length_take, List.length_replicate]
  omega

/-- A resized draft finds a place. -/
lemma resizing_room {p : Plan (Draft α) Unit} (hp : resizing d n = .ok p) :
    Room α d.lower n ∧ p = ⟨[n], laid d.lower (d.toList.take n
      ++ List.replicate (n - d.toList.length) Cell.fresh), ()⟩ := by
  rw [resizing] at hp
  split_ifs at hp with hnone hlong
  cases hp
  obtain ⟨hfits, hends⟩ := not_or.1 hlong
  exact ⟨⟨Nat.not_lt.1 hfits, Int.not_lt.1 hends, fun hz hlower => hnone ⟨hz, hlower⟩⟩, rfl⟩

/-- **Resizing a draft** carries out its plan. -/
lemma resize_eq (n : Nat) :
    resize n supply f = (do
      trace .resize [f.held.bounds, .length n]
      carryOut .resize (resizing f.held n)) supply f := by
  rw [resize, held_bind, trace_bind, trace_bind, resizing]
  by_cases hnone : n = 0 ∧ f.held.lower = Position.least
  · rw [checked_emptyAt_least _ _ hnone, if_pos hnone, carryOut_error]
  rw [checked_emptyAt _ _ hnone, if_neg hnone, exceeds_eq, pure_bind, renew_eq]
  simp only [decide_eq_true_eq]
  by_cases hlong : maxLength α < n
      ∨ Position.greatest.toInt < f.held.lower.toInt + n - 1
  · rw [if_pos hlong, if_pos hlong, carryOut_error]
  · have hok : resizing f.held n = .ok ⟨[n], laid f.held.lower (f.held.toList.take n
        ++ List.replicate (n - f.held.toList.length) Cell.fresh), ()⟩ := by
      rw [resizing, if_neg hnone, if_neg hlong]
    have hslots : Buffer.resize f.held.slots n = .ofList (f.held.toList.take n
        ++ List.replicate (n - f.held.toList.length) Cell.fresh) := by
      apply Slots.eq_ofList
      rw [Buffer.toList_resize, length_toList]
      rfl
    rw [if_neg hlong, if_neg hlong, carryOut_cons]
    refine obtain_bind_congr ?_
    intro g _
    rw [(resizing_room hok).1.maxOf, pure_bind, hslots, laid, length_resized]
    rfl

/-- Resizing a draft goes through exactly when there is a plan for it and its request is granted. -/
lemma resize_apply (n : Nat) (f : Frame (Draft α) α) :
    resize n supply f
      = match resizing f.held n with
        | .error reason => fail .resize reason supply
            (f.leaving (.trace .resize [f.held.bounds, .length n]))
        | .ok p =>
          let g := (f.leaving (.trace .resize [f.held.bounds, .length n])).asking supply n
          if f.grants supply n then (.ok (), { g with held := p.after })
          else fail .resize .noMemory supply g := by
  rw [resize_eq, trace_bind]
  cases hplan : resizing f.held n with
  | error reason => rfl
  | ok p =>
    rw [(resizing_room hplan).2, carryOut_cons, bind_apply, obtain_apply, Frame.leaving_grants]
    dsimp only
    split_ifs <;> rfl

/-- Resizing a draft leaves a well-formed draft. -/
lemma resize_allOrNothing (n : Nat) :
    AllOrNothing (resize n)
      (fun _ d => d.WellFormed ∧ d.lower = f.held.lower ∧ d.toList = f.held.toList.take n
        ++ List.replicate (n - f.held.toList.length) Cell.fresh) supply f := by
  refine .of_eq (resize_eq n) (.trace (carryOut_allOrNothing _ ?_))
  intro p hp
  obtain ⟨hroom, rfl⟩ := resizing_room hp
  refine ⟨Room.wellFormed ?_, rfl, laid_toList ..⟩
  rw [length_resized]
  exact hroom.cells

/-! ### Writing and finishing -/

/-- The draft is written everywhere, with the given elements. -/
structure Filled (d : Draft α) (items : List α) : Prop where
  wellFormed : d.WellFormed
  written : d.toList = items.map Cell.written

/-- Cells that give back elements were all written with them. -/
lemma toList_of_settled? {s : Slots (Cell α)} {t : Slots α} (h : s.settled? = some t) :
    s.toList = t.toList.map Cell.written := by
  cases s with
  | listed hs cells =>
    rw [Slots.settled?, Option.map_eq_some_iff] at h
    obtain ⟨items, hitems, rfl⟩ := h
    change cells = items.map Cell.written
    induction cells generalizing items with
    | nil =>
      cases hitems
      rfl
    | cons c cells ih =>
      rw [List.mapM_cons] at hitems
      obtain ⟨x, hx, hitems⟩ := Option.bind_eq_some_iff.1 hitems
      obtain ⟨rest, hrest, hitems⟩ := Option.bind_eq_some_iff.1 hitems
      cases hitems
      rw [List.map_cons, ← ih rest hrest]
      congr 1
      exact Cell.ext hx
  | counted hs n =>
    cases h
    rw [← Slots.toList_cells]
    rfl

namespace Filled

variable {items : List α}

lemma length_eq (h : Filled d items) : d.toList.length = items.length := by
  rw [h.written, List.length_map]

lemma room (h : Filled d items) : Room α d.lower items.length := by
  have hroom := h.wellFormed.room
  rw [h.length_eq] at hroom
  exact ⟨hroom.fits, hroom.ends, hroom.starts⟩

/-- A draft that was written everywhere becomes an array of what was written. -/
lemma finish_eq (h : Filled d items) :
    (finish d : Call σ α (Anchored α)) = pure (laid d.lower items) := by
  have hsettle : (Buffer.settle d.slots : Call σ α (Slots α)) = pure (.ofList items) :=
    Buffer.settle_of_toList (by rw [Slots.toList_ofList]; exact h.written)
  have hupper : d.upper = Position.maxOfCount d.lower (UInt64.ofNat items.length) := by
    rw [← h.length_eq]
    exact congrArg Anchored.upper h.wellFormed.eq_laid
  rw [finish, hsettle, pure_bind, laid, hupper]

end Filled

/-- Writing over some cells of a draft. -/
lemma writeFrom_apply (supply : Supply) (h : f.held.WellFormed) {front old back : List (Cell α)}
    {new : Slots α}
    (hcells : f.held.toList = front ++ old ++ back) (hnew : new.length = old.length) :
    writeFrom front.length new supply f
      = (.ok (), { f with
          held := laid f.held.lower (front ++ new.toList.map Cell.written ++ back) }) := by
  have hlength : (front ++ new.toList.map Cell.written ++ back).length
      = f.held.toList.length := by
    rw [hcells]
    simp [Slots.length_toList, hnew]
  have hcount : new.cells.length = old.length := by
    rw [← hnew, ← Slots.length_toList, Slots.toList_cells, List.length_map, Slots.length_toList]
  have hupper : f.held.upper
      = Position.maxOfCount f.held.lower (UInt64.ofNat f.held.toList.length) :=
    congrArg Anchored.upper h.eq_laid
  rw [writeFrom, held_bind, Buffer.write_gap hcells hcount, pure_bind, hold_apply, laid, hlength,
    ← hupper, Slots.toList_cells]

end AnchoredArrays.Draft
