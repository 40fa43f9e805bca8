import AnchoredArrays.Element.Instances
import AnchoredArrays.Proofs.Call.Granted
import AnchoredArrays.Proofs.Session.Calls

/-!
Allocating and resizing drafts on any supply, against a list. A draft is allocated with the bounds
that were asked for, or there is a reason not to; resizing takes from the list or adds to it, or
leaves it alone, however often it is done and whatever was refused in between.

* `Supply.Refuses`, `OutOfMemory`: when there is no memory for a number of slots;
* `Allocates`, `allocate_allocates`: **allocating a draft**, case by case;
* `Resizes`, `resize_resizes`, `Regrowth.call_resizes`: **resizing a draft**, and filling it where
  it grew;
* `Regrowth.contents`, `Resizes.contents`: what one resizing makes of the cells, and that it does;
* `drafts_resized`: all of this, and **any number of resizings** as a fold.
-/

namespace AnchoredArrays

open Element Call Anchored

/-- The supply refuses the request of a call for a buffer of `n` slots, the first that it makes. A
buffer without bytes is not asked for. -/
def Supply.Refuses (α : Type) [Element α] (supply : Supply) (n : Nat) : Prop :=
  n * size α ≠ 0 ∧ supply.grants 0 (n * size α) = false

namespace Session

variable {α σ : Type} [Element α] {supply : Supply} {lower upper : Int64} {d : Draft α} {n : Nat}

instance : Decidable (supply.Refuses α n) := inferInstanceAs (Decidable (_ ∧ _))

/-- A call is granted its first buffer unless that is too long or refused. -/
lemma grants_start (held : σ) : (⟨held, supply.copies, .blank⟩ : Frame σ α).grants supply n = true
    ↔ ¬ (maxLength α < n ∨ supply.Refuses α n) := by
  rw [Frame.grants, Supply.Refuses, not_or, Nat.not_lt, not_and, Bool.not_eq_false,
    Bool.and_eq_true, Bool.or_eq_true, decide_eq_true_eq, beq_iff_eq, or_iff_not_imp_left]
  rfl

/-! ### Allocating -/

/-- What is promised of allocating a draft. The whole space of positions is too much memory, and
bounds that are crossed by more than one are no range; beyond that, there is no memory if the slots
are too many for a buffer or their request is refused. Otherwise the draft has exactly these bounds,
and nothing is written into it. -/
def Allocates (lower upper : Int64) (supply : Supply) (out : Except Halt (Draft α)) : Prop :=
  if lower = Position.least ∧ upper = Position.greatest then
    Fails out .memory .allocate .wholeSpace
  else if upper.toInt < lower.toInt - 1 then
    Fails out .range .allocate .crossedBounds
  else if (maxLength α : Int) < upper.toInt - lower.toInt + 1
      ∨ supply.Refuses α (upper.toInt - lower.toInt + 1).toNat then
    Fails out .memory .allocate .noMemory
  else
    ∃ d : Draft α, out = .ok d ∧ d.WellFormed ∧ d.lower = lower ∧ d.upper = upper
      ∧ d.toList = List.replicate (upper.toInt - lower.toInt + 1).toNat Cell.fresh

/-- Allocating a draft keeps the promise. -/
lemma allocate_allocates (lower upper : Int64) (supply : Supply) (held : σ) :
    Allocates lower upper supply
      ((Draft.allocate lower upper : Call σ α (Draft α)).run supply held).1 := by
  rw [Call.run, Draft.allocate_apply, Allocates, Draft.allocation]
  by_cases hwhole : lower = Position.least ∧ upper = Position.greatest
  · rw [if_pos hwhole, if_pos hwhole]
    exact ⟨rfl, rfl⟩
  by_cases hcrossed : upper.toInt < lower.toInt - 1
  · rw [if_neg hwhole, if_neg hwhole, if_pos hcrossed, if_pos hcrossed]
    exact ⟨rfl, rfl⟩
  obtain ⟨n, hn⟩ : ∃ n, n = (upper.toInt - lower.toInt + 1).toNat := ⟨_, rfl⟩
  have hmany : (maxLength α : Int) < upper.toInt - lower.toInt + 1 ↔ maxLength α < n := by omega
  rw [if_neg hwhole, if_neg hwhole, if_neg hcrossed, if_neg hcrossed, ← hn,
    if_congr (or_congr_left hmany) rfl rfl]
  by_cases hlong : maxLength α < n
  · rw [if_pos hlong, if_pos (.inl hlong)]
    exact ⟨rfl, rfl⟩
  rw [if_neg hlong]
  dsimp only
  by_cases hrefused : supply.Refuses α n
  · rw [if_pos (.inr hrefused), if_neg fun hgrant => (grants_start held).1 hgrant (.inr hrefused)]
    exact ⟨rfl, rfl⟩
  · have hmemory := not_or.2 ⟨hlong, hrefused⟩
    rw [if_neg hmemory, if_pos ((grants_start held).2 hmemory)]
    have hallocation : Draft.allocation α lower upper = .ok n := by
      rw [Draft.allocation, if_neg hwhole, if_neg hcrossed, ← hn, if_neg hlong]
    obtain ⟨hwell, hupper⟩ := Draft.allocation_laid hallocation
    exact ⟨_, rfl, hwell, rfl, hupper, laid_toList ..⟩

/-! ### Resizing -/

/-- There is no memory for a draft of `n` slots at an anchor: they are too many for a buffer, they
end beyond the greatest position, or their request is refused. -/
def OutOfMemory (α : Type) [Element α] (lower : Int64) (supply : Supply) (n : Nat) : Prop :=
  maxLength α < n ∨ Position.greatest.toInt < lower.toInt + n - 1 ∨ supply.Refuses α n

instance : Decidable (OutOfMemory α lower supply n) := inferInstanceAs (Decidable (_ ∨ _ ∨ _))

/-- What is promised of giving a draft `n` slots, where new ones are all `c`. Slots cannot all be
taken from a draft at the smallest position, and there has to be memory; otherwise the draft is left
as it was. If it goes through, the anchor is the same, and so are the first cells. -/
def Resizes (d : Draft α) (n : Nat) (c : Cell α) (supply : Supply)
    (out : Except Halt Unit × Frame (Draft α) α) : Prop :=
  if n = 0 ∧ d.lower = Position.least then
    Fails out.1 .range .resize .noEmptyAnchor ∧ out.2.held = d
  else if OutOfMemory α d.lower supply n then
    Fails out.1 .memory .resize .noMemory ∧ out.2.held = d
  else
    out.1 = .ok () ∧ out.2.held.WellFormed ∧ out.2.held.lower = d.lower
      ∧ out.2.held.toList = d.toList.take n ++ List.replicate (n - d.toList.length) c

/-- Resizing a draft keeps the promise, with fresh cells. -/
lemma resize_resizes (d : Draft α) (n : Nat) (supply : Supply) :
    Resizes d n .fresh supply ((Draft.resize n).run supply d) := by
  rw [Call.run, Draft.resize_apply, Resizes, Draft.resizing]
  by_cases hnone : n = 0 ∧ d.lower = Position.least
  · rw [if_pos hnone, if_pos hnone]
    exact ⟨⟨rfl, rfl⟩, rfl⟩
  rw [if_neg hnone, if_neg hnone]
  by_cases hlong : maxLength α < n ∨ Position.greatest.toInt < d.lower.toInt + n - 1
  · have hmemory : OutOfMemory α d.lower supply n := hlong.imp_right .inl
    rw [if_pos hlong, if_pos hmemory]
    exact ⟨⟨rfl, rfl⟩, rfl⟩
  have hplan : Draft.resizing d n = .ok ⟨[n], laid d.lower (d.toList.take n
      ++ List.replicate (n - d.toList.length) Cell.fresh), ()⟩ := by
    rw [Draft.resizing, if_neg hnone, if_neg hlong]
  obtain ⟨hshort, hends⟩ := not_or.1 hlong
  rw [if_neg hlong]
  dsimp only
  by_cases hrefused : supply.Refuses α n
  · have hmemory : OutOfMemory α d.lower supply n := .inr (.inr hrefused)
    rw [if_pos hmemory, if_neg fun hgrant => (grants_start d).1 hgrant (.inr hrefused)]
    exact ⟨⟨rfl, rfl⟩, Frame.asking_held n⟩
  · have hmemory : ¬ OutOfMemory α d.lower supply n := not_or.2 ⟨hshort, not_or.2 ⟨hends, hrefused⟩⟩
    rw [if_neg hmemory, if_pos ((grants_start d).2 (not_or.2 ⟨hshort, hrefused⟩))]
    refine ⟨rfl, Room.wellFormed ?_, rfl, laid_toList ..⟩
    rw [Draft.length_resized]
    exact (Draft.resizing_room hplan).1.cells

/-- After a draft was resized, its fresh slots may be written. -/
lemma Resizes.next {c : Cell α} {resize : Call (Draft α) α Unit}
    {next : Unit → Call (Draft α) α Unit}
    (hresize : Resizes d n .fresh supply (resize.run supply d))
    (hnext : ∀ g : Frame (Draft α) α, g.held.WellFormed →
      g.held.toList = d.toList.take n ++ List.replicate (n - d.toList.length) Cell.fresh →
        ∃ g', next () supply g = (.ok (), g') ∧ g'.held.WellFormed ∧ g'.held.lower = g.held.lower
          ∧ g'.held.toList = d.toList.take n ++ List.replicate (n - d.toList.length) c) :
    Resizes d n c supply ((resize >>= next).run supply d) := by
  rw [Resizes, Call.run] at hresize ⊢
  rw [bind_apply]
  rcases hrun : resize supply ⟨d, supply.copies, .blank⟩ with ⟨e | ⟨⟩, g⟩
  · rw [hrun] at hresize
    dsimp only at hresize ⊢
    split_ifs at hresize ⊢
    · exact ⟨⟨hresize.1.1, hresize.1.2⟩, hresize.2⟩
    · exact ⟨⟨hresize.1.1, hresize.1.2⟩, hresize.2⟩
    · cases hresize.1
  · rw [hrun] at hresize
    dsimp only at hresize ⊢
    split_ifs at hresize ⊢
    · cases hresize.1.1
    · cases hresize.1.1
    · obtain ⟨-, hwell, hlower, hcells⟩ := hresize
      obtain ⟨g', hnext', hwell', hlower', hcells'⟩ := hnext g hwell hcells
      rw [hnext']
      exact ⟨rfl, hwell', hlower'.trans hlower, hcells'⟩

/-- A draft that is resized and filled where it grew keeps the promise, with written cells. -/
lemma Regrowth.call_resizes (h : d.WellFormed) (r : Regrowth α) :
    Resizes d r.length (.written r.fill) r.supply (r.call.run r.supply d) := by
  rw [Regrowth.call, Call.run, held_bind]
  refine (resize_resizes d r.length r.supply).next fun g hwell hcells => ?_
  have hfront : min d.length r.length = (d.toList.take r.length).length := by
    rw [List.length_take, h.length_eq', Nat.min_comm]
  rw [hfront]
  refine ⟨_, fillFrom_fresh r.supply (f := g.leaking _) hwell hcells r.fill, Room.wellFormed ?_,
    rfl, laid_toList ..⟩
  refine hwell.room_of_length ?_
  rw [hcells]
  simp only [List.length_append, List.length_replicate]

/-! ### Any number of resizings -/

/-- What one resizing makes of the cells of a draft at an anchor: the first cells are kept, and new
ones are written; or all of them are kept if there can be no draft of that length. -/
def Regrowth.contents (lower : Int64) (cells : List (Cell α)) (r : Regrowth α) : List (Cell α) :=
  if (r.length = 0 ∧ lower = Position.least) ∨ OutOfMemory α lower r.supply r.length then cells
  else cells.take r.length ++ List.replicate (r.length - cells.length) (.written r.fill)

/-- Whether a resizing goes through or not, it makes of the cells what it has to. -/
lemma Resizes.contents (h : d.WellFormed) {r : Regrowth α}
    {out : Except Halt Unit × Frame (Draft α) α}
    (hout : Resizes d r.length (.written r.fill) r.supply out) :
    out.2.held.WellFormed ∧ out.2.held.lower = d.lower
      ∧ out.2.held.toList = r.contents d.lower d.toList := by
  rw [Resizes] at hout
  rw [Regrowth.contents]
  split_ifs at hout with hnone hmemory
  · rw [hout.2, if_pos (.inl hnone)]
    exact ⟨h, rfl, rfl⟩
  · rw [hout.2, if_pos (.inr hmemory)]
    exact ⟨h, rfl, rfl⟩
  · rw [if_neg (not_or.2 ⟨hnone, hmemory⟩)]
    exact hout.2

/-- A resizing whose failure is ignored goes first. -/
lemma regrow_cons {r : Regrowth α} (hgoes : r.goesOn = true) (rest : List (Regrowth α)) :
    (regrow d (r :: rest)).1 = (regrow (r.call.run r.supply d).2.held rest).1 := by
  rw [regrow]
  rcases r.call.run r.supply d with ⟨e | ⟨⟩, g⟩
  · dsimp only
    rw [if_pos hgoes]
  · rfl

/-- Any number of resizings whose failures are ignored leaves the fold over all of them. -/
lemma regrow_contents (h : d.WellFormed) {regrowths : List (Regrowth α)}
    (hgoes : ∀ r ∈ regrowths, r.goesOn = true) :
    ∃ e, (regrow d regrowths).1 = .ok e ∧ e.WellFormed ∧ e.lower = d.lower
      ∧ e.toList = regrowths.foldl (Regrowth.contents d.lower) d.toList := by
  induction regrowths generalizing d with
  | nil => exact ⟨d, rfl, h, rfl, rfl⟩
  | cons r rest ih =>
    obtain ⟨hr, hrest⟩ := List.forall_mem_cons.1 hgoes
    obtain ⟨hwell, hlower, hcells⟩ := (r.call_resizes h).contents h
    obtain ⟨e, hregrow, hwell', hlower', hcells'⟩ := ih hwell hrest
    rw [regrow_cons hr, List.foldl_cons, ← hcells, ← hlower]
    exact ⟨e, hregrow, hwell', hlower', hcells'⟩

/-- **Drafts on any supply.** Allocating one and giving one any number of slots go through or fail
case by case, for every element size. After any number of resizings on any supplies, whose failures
are ignored, the cells are what the fold of the resizings makes of them: each one keeps the first
cells and writes its value into the slots that it adds, or leaves everything alone; and the anchor
is the same throughout. -/
theorem drafts_resized :
    (∀ (lower upper : Int64) (supply : Supply) (held : σ), Allocates lower upper supply
        ((Draft.allocate lower upper : Call σ α (Draft α)).run supply held).1)
      ∧ (∀ (d : Draft α) (n : Nat) (supply : Supply),
        Resizes d n .fresh supply ((Draft.resize n).run supply d))
      ∧ ∀ d : Draft α, d.WellFormed →
        (∀ r : Regrowth α, Resizes d r.length (.written r.fill) r.supply (r.call.run r.supply d))
          ∧ ∀ regrowths : List (Regrowth α), (∀ r ∈ regrowths, r.goesOn = true) →
            ∃ e, (regrow d regrowths).1 = .ok e ∧ e.WellFormed ∧ e.lower = d.lower
              ∧ e.toList = regrowths.foldl (Regrowth.contents d.lower) d.toList :=
  ⟨allocate_allocates, resize_resizes, fun _ h =>
    ⟨Regrowth.call_resizes h, fun _ hgoes => regrow_contents h hgoes⟩⟩

/-- A draft of two written slots, the first of them at the smallest position. -/
def lowestDraft : Draft Traced := laid Position.least [.written ⟨10, 0⟩, .written ⟨20, 0⟩]

/-- Two slots at the smallest position can neither all be taken away nor, where the request for four
of them is refused, become more; after two more resizings there are three. -/
theorem drafts_resized_lowest :
    lowestDraft.WellFormed
      ∧ ∃ e, (regrow lowestDraft [⟨0, ⟨7, 0⟩, .ample, true⟩,
          ⟨4, ⟨8, 0⟩, .limited 64 none none, true⟩, ⟨1, ⟨9, 0⟩, .ample, true⟩,
          ⟨3, ⟨9, 0⟩, .ample, true⟩]).1 = .ok e
        ∧ e.lower = Position.least
        ∧ e.toList = [.written ⟨10, 0⟩, .written ⟨9, 0⟩, .written ⟨9, 0⟩] := by
  have hwell : lowestDraft.WellFormed := Room.wellFormed ⟨by decide, by decide, by decide⟩
  obtain ⟨-, -, hresized⟩ := drafts_resized (σ := Unit) (α := Traced)
  obtain ⟨e, hregrow, -, hlower, hcells⟩ := (hresized _ hwell).2
    [⟨0, ⟨7, 0⟩, .ample, true⟩, ⟨4, ⟨8, 0⟩, .limited 64 none none, true⟩,
      ⟨1, ⟨9, 0⟩, .ample, true⟩, ⟨3, ⟨9, 0⟩, .ample, true⟩] (by simp)
  exact ⟨hwell, e, hregrow, hlower, hcells.trans rfl⟩

end Session

end AnchoredArrays
