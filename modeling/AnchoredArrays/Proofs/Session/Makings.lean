import AnchoredArrays.Proofs.Session.Accounts

/-!
The elements that are made. Whatever way an array is made, the elements it was made from and those
that came into being meanwhile are in it, or dropped; only what is written into a draft may be left
behind, since nobody drops what is in the slots that are cut off.

* `drafted`: the elements in a draft; `fillFrom_account`, `Regrowth.call_account`, `regrow_account`:
  filling a draft, resizing it, and resizing it often;
* `draftArray_account`: an array that a draft becomes;
* `Making.run_account`: **making an array**, in any way.
-/

namespace AnchoredArrays.Session

open Element Anchored Call

variable {α : Type} [Element α] {supply : Supply} {pick : α → Bool}

/-! ### Drafts -/

/-- How many elements that are written into a draft are picked. -/
def drafted (pick : α → Bool) (d : Draft α) : Nat := (d.toList.filterMap Cell.content).countP pick

lemma drafted_laid (lower : Int64) (cells : List (Cell α)) :
    drafted pick (laid lower cells) = (cells.filterMap Cell.content).countP pick := by
  rw [drafted, laid_toList]

lemma amount_contents (d : Draft α) : d.slots.contents.amount pick = drafted pick d := by
  rw [Slots.amount, Slots.toList_contents, drafted, toList]

/-- The elements in the first cells and those in the others are all elements of a draft. -/
lemma drafted_split (pick : α → Bool) (d : Draft α) (n : Nat) :
    ((d.toList.take n).filterMap Cell.content).countP pick
      + ((d.toList.drop n).filterMap Cell.content).countP pick = drafted pick d := by
  rw [← List.countP_append, ← List.filterMap_append, List.take_append_drop, drafted]

/-- What comes into being when a draft is filled is what is in its new cells. -/
lemma fillFrom_account (pick : α → Bool) (supply : Supply) {f : Frame (Draft α) α}
    (h : f.held.WellFormed) (front : List (Cell α)) {m : Nat}
    (hcells : f.held.toList = front ++ List.replicate m Cell.fresh) (x : α) :
    (fillFrom front.length x supply f).2.account pick (drafted pick)
      = (front.filterMap Cell.content).countP pick + f.tally.account pick := by
  have hnew : (List.replicate m (Cell.written x)).filterMap Cell.content = List.replicate m x := by
    rw [← List.map_replicate]
    exact Cell.filterMap_content _
  have htally := f.receiving_account pick (.ofList (List.replicate m x))
  rw [Slots.amount_ofList] at htally
  rw [fillFrom_fresh supply h hcells x, Frame.account]
  dsimp only
  rw [htally, drafted_laid, List.filterMap_append, List.countP_append, hnew]
  omega

/-- Resizing a draft and filling it where it grew loses nothing; what is cut off is left behind. -/
lemma Regrowth.call_account (pick : α → Bool) (supply : Supply) {f : Frame (Draft α) α}
    (h : f.held.WellFormed) (r : Regrowth α) :
    (r.call supply f).2.account pick (drafted pick) = f.account pick (drafted pick) := by
  rw [Regrowth.call, held_bind, bind_apply, Draft.resize_eq, trace_bind]
  obtain ⟨p, g, hp, hrun, halike⟩ | ⟨e, g, hrun, halike⟩ := carryOut_cases supply .resize
    (Draft.resizing f.held r.length)
    (f.leaving (.trace .resize [f.held.bounds, .length r.length]))
  · obtain ⟨hroom, rfl⟩ := Draft.resizing_room hp
    have hheld : g.held = laid f.held.lower (f.held.toList.take r.length
        ++ List.replicate (r.length - f.held.toList.length) Cell.fresh) := halike.held
    have hwell : g.held.WellFormed := by
      rw [hheld]
      refine Room.wellFormed ?_
      rw [Draft.length_resized]
      exact hroom.cells
    have hcells : g.held.toList = f.held.toList.take r.length
        ++ List.replicate (r.length - f.held.toList.length) Cell.fresh := by
      rw [hheld, laid_toList]
    have hfront : min f.held.length r.length = (f.held.toList.take r.length).length := by
      rw [List.length_take, h.length_eq', Nat.min_comm]
    have hcut : (Slots.contents (f.held.slots.drop r.length)).amount pick
        = ((f.held.toList.drop r.length).filterMap Cell.content).countP pick := by
      rw [Slots.amount, Slots.toList_contents, Slots.toList_drop, toList]
    have htally : g.tally.account pick = f.tally.account pick := halike.tally_account
    have hsplit := drafted_split pick f.held r.length
    rw [hrun]
    dsimp only
    rw [leak_bind, hfront, fillFrom_account pick supply (f := g.leaking _) hwell _ hcells r.fill,
      Frame.leaking_account, hcut, htally, Frame.account]
    omega
  · rw [hrun]
    exact halike.account (drafted pick)

/-- What a draft that is given up leaves behind is what was written into it. -/
lemma abandoned_account (d : Draft α) : (abandoned d).account pick = drafted pick d := by
  simp only [abandoned, Tally.account, Tally.copies, Tally.blank, Slots.amount_nil,
    Slots.amount_map_nil, amount_contents]
  omega

/-- How many of the elements that a call results in are picked, if it does. -/
def yielded (own : ρ → Nat) : Except Halt ρ → Nat
  | .ok r => own r
  | .error _ => 0

/-- However often a draft is resized, what came into being is in it or left behind. -/
lemma regrow_account (pick : α → Bool) {d : Draft α} {items : List α} (h : Draft.Filled d items)
    (regrowths : List (Regrowth α)) :
    (yielded (drafted pick) (regrow d regrowths).1 : Int) + (regrow d regrowths).2.account pick
      = drafted pick d := by
  induction regrowths generalizing d items with
  | nil => exact congrArg (_ + ·) Tally.account_blank
  | cons r rest ih =>
    have hcall : AllOrNothing r.call (fun _ d => ∃ items, Draft.Filled d items) r.supply
        ⟨d, r.supply.copies, .blank⟩ := Regrowth.call_allOrNothing h r
    have haccount := Regrowth.call_account pick r.supply
      (f := ⟨d, r.supply.copies, .blank⟩) h.wellFormed r
    simp only [Frame.account, Tally.account_blank] at haccount
    rw [regrow, Call.run]
    obtain ⟨u, g, hrun, items', hfilled⟩ | ⟨e, g, hrun, hheld, -⟩ := hcall.cases
    · have hrest := ih hfilled
      rw [hrun] at haccount ⊢
      dsimp only at haccount ⊢
      rw [Tally.account_join]
      omega
    · have hrest := ih (d := g.held) (by rwa [hheld])
      rw [hrun] at haccount ⊢
      dsimp only at haccount ⊢
      split_ifs
      · dsimp only
        rw [Tally.account_join]
        omega
      · dsimp only
        rw [Tally.account_join, abandoned_account, yielded]
        omega

/-- What came into being to make an array out of a draft is in the array or left behind. -/
lemma draftArray_account (lower upper : Int64) (fill : α) (regrowths : List (Regrowth α)) :
    (yielded (Anchored.owned pick) (draftArray supply lower upper fill regrowths).1 : Int)
      + (draftArray supply lower upper fill regrowths).2.account pick = 0 := by
  have hlight : Light (Draft.allocate lower upper : Call Unit α (Draft α)) supply
    ⟨(), supply.copies, .blank⟩ := allocate_light lower upper
  have hallocated : (Draft.allocate lower upper supply ⟨(), supply.copies, .blank⟩
      : Except Halt (Draft α) × Frame Unit α).2.tally.account pick = 0 :=
    hlight.alike.tally_account.trans Tally.account_blank
  have hdraft : AllOrNothing (Draft.allocate lower upper : Call Unit α (Draft α)) _ supply
    ⟨(), supply.copies, .blank⟩ := Draft.allocate_allOrNothing lower upper
  rw [draftArray, Call.run]
  obtain ⟨d, g, hrun, ⟨hwell, -, -, hcells⟩, -⟩ | ⟨e, g, hrun, -, -⟩ := hdraft.cases
  · have hnone : d.toList
        = ([] : List α).map Cell.written ++ List.replicate d.toList.length Cell.fresh := hcells
    obtain ⟨g', hfill, hfilled⟩ :=
      fillFrom_apply supply (f := ⟨d, supply.copies, .blank⟩) hwell hnone fill
    have hfirst := fillFrom_account pick supply (f := ⟨d, supply.copies, .blank⟩) hwell []
      hcells fill
    have hregrow := regrow_account pick hfilled regrowths
    have hmade := regrow_filled hfilled regrowths
    rw [List.length_nil] at hfill hfirst
    rw [hfill] at hfirst
    simp only [Frame.account, Tally.account_blank, List.filterMap_nil, List.countP_nil] at hfirst
    rw [hrun] at hallocated ⊢
    dsimp only at hallocated ⊢
    rw [Call.run, hfill]
    dsimp only
    generalize regrow g'.held regrowths = out at *
    obtain ⟨e | d', tally⟩ := out
    · dsimp only [yielded] at hregrow ⊢
      rw [Tally.account_join, Tally.account_join]
      omega
    · obtain ⟨items, hd'⟩ := hmade
      have hitems : drafted pick d' = items.countP pick := by
        rw [drafted, hd'.written, Cell.filterMap_content]
      have hfinish : (Draft.finish d' : Call Unit α (Anchored α)).run supply ()
          = (.ok (laid d'.lower items), ⟨(), supply.copies, .blank⟩) := by
        rw [hd'.finish_eq]
        rfl
      dsimp only at hregrow ⊢
      rw [hfinish]
      simp only [yielded, Tally.account_join, Tally.account_blank, owned_laid] at hregrow ⊢
      omega
  · rw [hrun] at hallocated ⊢
    dsimp only [yielded] at hallocated ⊢
    omega

/-! ### Making arrays -/

lemma perform_account {c : Call Unit α (Anchored α)} {n : Nat}
    (hc : Balanced pick false c (fun _ => 0) (Anchored.owned pick) n n supply
      ⟨(), supply.copies, .blank⟩) :
    (yielded (Anchored.owned pick) (Making.perform supply c).1 : Int)
        + (Making.perform supply c).2.account pick = n
      ∧ (Making.perform supply c).2.leaked.amount pick = 0 := by
  rw [Making.perform, Call.run]
  rcases hrun : c supply ⟨(), supply.copies, .blank⟩ with ⟨e | a, f⟩
  · obtain ⟨hbalance, hleaked⟩ := hc.error_from_blank hrun
    rw [if_neg fun h => Bool.false_ne_true h.1] at hleaked
    dsimp only [yielded]
    omega
  · obtain ⟨hbalance, hleaked⟩ := hc.ok_from_blank hrun
    dsimp only [yielded]
    omega

/-- **Making an array** takes what it is given, and what comes into being meanwhile, into the array,
or drops it; only drafts leave something behind. -/
lemma Making.run_account (pick : α → Bool) (supply : Supply) (making : Making α) :
    (yielded (Anchored.owned pick) (making.run supply).1 : Int)
        + (making.run supply).2.account pick = making.given.countP pick
      ∧ ((Action.make making : Action α).drafts = false →
        (making.run supply).2.leaked.amount pick = 0) := by
  have of_perform : ∀ {c : Call Unit α (Anchored α)} {n : Nat},
      Balanced pick false c (fun _ => 0) (Anchored.owned pick) n n supply
        ⟨(), supply.copies, .blank⟩ →
      making.run supply = Making.perform supply c → making.given.countP pick = n →
      (yielded (Anchored.owned pick) (making.run supply).1 : Int)
          + (making.run supply).2.account pick = making.given.countP pick
        ∧ ((Action.make making : Action α).drafts = false →
          (making.run supply).2.leaked.amount pick = 0) := by
    intro c n hc hrun hn
    obtain ⟨haccount, hleaked⟩ := perform_account hc
    rw [hrun, hn]
    exact ⟨haccount, fun _ => hleaked⟩
  cases making with
  | empty lower => exact of_perform (emptyFor_balanced lower) rfl rfl
  | ofList lower items => exact of_perform (ofList_balanced lower items) rfl rfl
  | ofFn lower upper g => exact of_perform (.map (ofFn_balanced _ _)) rfl rfl
  | replicate lower upper x => exact of_perform (replicate_balanced lower upper x) rfl rfl
  | singleton x => exact of_perform (obtain_balanced 1 1 1 [x]) rfl rfl
  | singletonAt start x => exact of_perform (obtain_balanced 1 start start [x]) rfl rfl
  | pair x y => exact of_perform (obtain_balanced 2 1 2 [x, y]) rfl rfl
  | draft lower upper fill regrowths =>
    exact ⟨draftArray_account lower upper fill regrowths, nofun⟩

end AnchoredArrays.Session
