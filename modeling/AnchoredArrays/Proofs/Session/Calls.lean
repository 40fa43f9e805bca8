import AnchoredArrays.Proofs.Anchored.Growth
import AnchoredArrays.Proofs.Anchored.InPlace
import AnchoredArrays.Proofs.Anchored.Making
import AnchoredArrays.Proofs.Anchored.Moves
import AnchoredArrays.Proofs.Session.Registers

/-!
The calls of sessions. Every call that an action makes on well-formed arrays is all or nothing, and
leaves well-formed arrays behind; a draft that is filled, resized and filled again is written
everywhere at any time.

* `Change.call_allOrNothing`, `Joining.call_allOrNothing`, `Selection.copied_allOrNothing`,
  `Selection.moved_allOrNothing`: the calls on arrays;
* `fillFrom_fresh`, `fillFrom_apply`, `Regrowth.call_allOrNothing`, `regrow_filled`: the drafts of a
  making;
* `Making.run_made`: **making an array** results in a well-formed one or in no fault;
* `outcomeOn_cases`: the two ways in which such a call ends.
-/

namespace AnchoredArrays

open Call

variable {α σ ρ : Type} [Element α] {supply : Supply}

namespace Session

variable {f : Frame (Anchored α) α} {a b : Anchored α}

/-! ### Calls on arrays -/

/-- An array that is changed is well-formed afterwards, and so is what is taken out of it. -/
lemma Change.call_allOrNothing (h : f.held.WellFormed) (change : Change α) :
    AllOrNothing change.call (fun r c => r.WellFormed ∧ c.WellFormed) supply f := by
  cases change with
  | set i x =>
    exact .map ((Anchored.set?_allOrNothing h i x).mono fun _ _ hc => ⟨trivial, hc.2.2⟩)
  | replace i x =>
    exact .map ((Anchored.replace_allOrNothing h i x).mono fun _ _ hc => ⟨trivial, hc.2.2⟩)
  | update g =>
    exact .map ((Anchored.update_allOrNothing h g).mono fun _ _ hc => ⟨trivial, hc.2⟩)
  | push x => exact .map ((Anchored.push_allOrNothing h x).mono fun _ _ hc => ⟨trivial, hc⟩)
  | insert i x =>
    exact .map ((Anchored.insert_allOrNothing h i x).mono fun _ _ hc => ⟨trivial, hc⟩)
  | insertSelf i =>
    exact .map ((Anchored.insertSelf_allOrNothing h i).mono fun _ _ hc => ⟨trivial, hc⟩)
  | reanchor start =>
    exact .map ((Anchored.reanchor_allOrNothing start h).mono fun _ _ hc => ⟨trivial, hc.2⟩)
  | remove i => exact .map ((Anchored.remove_allOrNothing h i).mono fun _ _ hc => ⟨trivial, hc⟩)
  | swapRemove i =>
    exact .map ((Anchored.swapRemove_allOrNothing h i).mono fun _ _ hc => ⟨trivial, hc⟩)
  | removeRun i n => exact .map (Anchored.removeRun_allOrNothing h i n)
  | sort direction traced compare =>
    exact .map ((Anchored.sort_allOrNothing h direction (remembering traced compare)
      ⟨0, []⟩).mono fun _ _ hc => ⟨trivial, hc.2⟩)

/-- An array that another one is put into is well-formed afterwards. -/
lemma Joining.call_allOrNothing (h : f.held.WellFormed) (hb : b.WellFormed) (joining : Joining) :
    AllOrNothing (joining.call b) (fun _ c => c.WellFormed) supply f := by
  cases joining with
  | append => exact Anchored.append_allOrNothing h hb
  | insertCopy i => exact Anchored.insertCopy_allOrNothing h i hb
  | insertMoved i => exact Anchored.insertMoved_allOrNothing h i hb

/-- A copied slice is well-formed. -/
lemma Selection.copied_allOrNothing (h : a.WellFormed) (selection : Selection) {f : Frame σ α} :
    AllOrNothing (selection.copied a) (fun c s => c.WellFormed ∧ s = f.held) supply f := by
  cases selection with
  | head stop =>
    rw [copied, Anchored.copyHead_eq h]
    exact Anchored.sliced_allOrNothing (fun _ hp => Anchored.headPart_within h hp) _
  | tail start =>
    rw [copied, Anchored.copyTail_eq h]
    exact Anchored.sliced_allOrNothing (fun _ hp => Anchored.tailPart_within h hp) _
  | range start stop =>
    rw [copied, Anchored.copyRange_eq h]
    exact Anchored.sliced_allOrNothing (fun _ hp => Anchored.rangePart_within h hp) _
  | run start n =>
    rw [copied, Anchored.copyRun_eq h]
    exact Anchored.sliced_allOrNothing (fun _ hp => Anchored.runPart_within h hp) _

/-- A moved slice is well-formed, and so is what stays in the slot. -/
lemma Selection.moved_allOrNothing {f : Frame (Option (Anchored α)) α}
    (h : ∀ a, f.held = some a → a.WellFormed) (selection : Selection) :
    AllOrNothing selection.moved
      (fun b slot => b.WellFormed ∧ ∀ c, slot = some c → c.WellFormed) supply f := by
  cases hslot : f.held with
  | none =>
    cases selection <;> exact Anchored.inspect_none hslot
  | some a =>
    cases selection with
    | head stop => exact Anchored.moveHead_allOrNothing hslot (h a hslot) stop
    | tail start => exact Anchored.moveTail_allOrNothing hslot (h a hslot) start
    | range start stop => exact Anchored.moveRange_allOrNothing hslot (h a hslot) start stop
    | run start n => exact Anchored.moveRun_allOrNothing hslot (h a hslot) start n

/-! ### The drafts of a making -/

section Drafts

variable {f : Frame (Draft α) α} {d : Draft α}

/-- Filling a draft from its first fresh cell on leaves the cells in front of it as they are. -/
lemma fillFrom_fresh (supply : Supply) (h : f.held.WellFormed) {front : List (Cell α)} {m : Nat}
    (hcells : f.held.toList = front ++ List.replicate m Cell.fresh) (x : α) :
    fillFrom front.length x supply f
      = (.ok (), { f.receiving (.ofList (List.replicate m x)) with
          held := Anchored.laid f.held.lower (front ++ List.replicate m (Cell.written x)) }) := by
  have hlength : f.held.toList.length = front.length + m := by
    rw [hcells, List.length_append, List.length_replicate]
  have hm : f.held.length - front.length = m := by
    rw [h.length_eq', hlength, Nat.add_sub_cancel_left]
  have hsplit : f.held.toList = front ++ List.replicate m Cell.fresh ++ [] := by
    rw [hcells, List.append_nil]
  have hrepeated : Slots.repeated m x = .ofList (List.replicate m x) :=
    Slots.eq_ofList (Slots.toList_repeated m x)
  have hnew : (Slots.ofList (List.replicate m x)).length
      = (List.replicate m (Cell.fresh (α := α))).length := by
    rw [Slots.length_ofList, List.length_replicate, List.length_replicate]
  rw [fillFrom, held_bind, hm, hrepeated]
  dsimp only
  rw [receive_bind, Draft.writeFrom_apply (f := f.receiving _) supply h hsplit hnew,
    Slots.toList_ofList, List.append_nil, List.map_replicate]
  rfl

/-- Filling a draft from its first fresh cell on writes it everywhere. -/
lemma fillFrom_apply (supply : Supply) (h : f.held.WellFormed) {front : List α} {m : Nat}
    (hcells : f.held.toList = front.map Cell.written ++ List.replicate m Cell.fresh) (x : α) :
    ∃ g, fillFrom front.length x supply f = (.ok (), g)
      ∧ Draft.Filled g.held (front ++ List.replicate m x) := by
  have hfill := fillFrom_fresh supply h hcells x
  rw [List.length_map, ← List.map_replicate, ← List.map_append] at hfill
  refine ⟨_, hfill, Room.wellFormed (h.room_of_length ?_), Anchored.laid_toList ..⟩
  rw [hcells, List.length_map, List.length_append, List.length_append, List.length_map,
    List.length_replicate, List.length_replicate]

/-- A draft that was written everywhere still is after it was resized and filled where it grew. -/
lemma Regrowth.call_allOrNothing {items : List α} (h : Draft.Filled f.held items)
    (r : Regrowth α) :
    AllOrNothing r.call (fun _ d => ∃ items, Draft.Filled d items) supply f := by
  have hlength : f.held.length = items.length := by
    rw [h.wellFormed.length_eq', h.length_eq]
  rw [Regrowth.call]
  refine .held (.andThen (Draft.resize_allOrNothing r.length) ?_)
  intro _ g hg
  obtain ⟨hwell, -, hcells⟩ := hg
  rw [h.written, ← List.map_take, List.length_map] at hcells
  have hfront : min f.held.length r.length = (items.take r.length).length := by
    rw [List.length_take, hlength, Nat.min_comm]
  obtain ⟨g', hfill, hfilled⟩ := fillFrom_apply supply (f := g.leaking _) hwell hcells r.fill
  rw [hfront]
  exact ⟨(), g', hfill, _, hfilled⟩

/-- A draft stays written everywhere however often it is resized. -/
lemma regrow_filled {items : List α} (h : Draft.Filled d items) (regrowths : List (Regrowth α)) :
    match (regrow d regrowths).1 with
    | .ok d => ∃ items, Draft.Filled d items
    | .error e => ∀ x, e ≠ .fault x := by
  induction regrowths generalizing d items with
  | nil => exact ⟨items, h⟩
  | cons r rest ih =>
    have hcall : AllOrNothing r.call (fun _ d => ∃ items, Draft.Filled d items) r.supply
        ⟨d, r.supply.copies, .blank⟩ := Regrowth.call_allOrNothing h r
    rw [regrow, Call.run]
    obtain ⟨u, g, hrun, items', hfilled⟩ | ⟨e, g, hrun, hheld, hexact⟩ := hcall.cases
    · rw [hrun]
      exact ih hfilled
    · rw [hrun]
      dsimp only at hheld ⊢
      split_ifs
      · rw [hheld]
        exact ih h
      · exact hexact

end Drafts

/-! ### Making arrays -/

/-- An array that is made is well-formed, and nothing faults when it is not. -/
def Made (out : Except Halt (Anchored α)) : Prop :=
  match out with
  | .ok a => a.WellFormed
  | .error e => ∀ x, e ≠ .fault x

lemma perform_made {c : Call Unit α (Anchored α)} {P : Anchored α → Prop}
    (hc : ∀ f, AllOrNothing c (fun a s => P a ∧ s = f.held) supply f)
    (hP : ∀ a, P a → a.WellFormed) : Made (Making.perform supply c).1 := by
  rw [Making.perform, Call.run]
  obtain ⟨a, g, hrun, ha, -⟩ | ⟨e, g, hrun, -, hexact⟩ :=
    (hc ⟨(), supply.copies, .blank⟩).cases
  · rw [hrun]
    exact hP a ha
  · rw [hrun]
    exact hexact

/-- The array of a draft is made. -/
lemma draftArray_made (supply : Supply) (lower upper : Int64) (fill : α)
    (regrowths : List (Regrowth α)) : Made (draftArray supply lower upper fill regrowths).1 := by
  have hdraft : AllOrNothing (Draft.allocate lower upper : Call Unit α (Draft α)) _ supply
    ⟨(), supply.copies, .blank⟩ := Draft.allocate_allOrNothing lower upper
  rw [draftArray, Call.run]
  obtain ⟨d, g, hrun, ⟨hwell, -, -, hcells⟩, -⟩ | ⟨e, g, hrun, -, hexact⟩ := hdraft.cases
  · have hnone : d.toList
        = ([] : List α).map Cell.written ++ List.replicate d.toList.length Cell.fresh := hcells
    obtain ⟨g', hfill, hfilled⟩ :=
      fillFrom_apply supply (f := ⟨d, supply.copies, .blank⟩) hwell hnone fill
    have hregrow := regrow_filled hfilled regrowths
    rw [List.length_nil] at hfill
    rw [hrun]
    dsimp only
    rw [Call.run, hfill]
    dsimp only
    generalize regrow g'.held regrowths = out at *
    obtain ⟨e | d', log⟩ := out
    · exact hregrow
    · obtain ⟨items, hd'⟩ := hregrow
      dsimp only
      rw [hd'.finish_eq]
      exact hd'.room.wellFormed
  · rw [hrun]
    exact hexact

/-- **Making an array** results in a well-formed one or in no fault. -/
lemma Making.run_made (supply : Supply) (making : Making α) : Made (making.run supply).1 := by
  cases making with
  | empty lower =>
    exact perform_made (fun _ => Anchored.empty_allOrNothing lower) fun _ ha => ha
  | ofList lower items =>
    exact perform_made (fun _ => Anchored.ofList_allOrNothing lower items) fun _ ha => ha.2
  | ofFn lower upper g =>
    refine perform_made (P := Anchored.WellFormed) (fun f => .map ?_) fun _ ha => ha
    exact (Anchored.ofFn_allOrNothing lower upper (fun k i => (g k i, k + 1)) 0).mono
      fun _ _ hr => ⟨hr.1.1, hr.2⟩
  | replicate lower upper x =>
    exact perform_made (fun _ => Anchored.replicate_allOrNothing lower upper x) fun _ ha => ha.1
  | singleton x =>
    exact perform_made (fun _ => Anchored.singletonAt_allOrNothing 1 x) fun _ ha => ha.2
  | singletonAt start x =>
    exact perform_made (fun _ => Anchored.singletonAt_allOrNothing start x) fun _ ha => ha.2
  | pair x y => exact perform_made (fun _ => Anchored.pair_allOrNothing x y) fun _ ha => ha.2
  | draft lower upper fill regrowths => exact draftArray_made supply lower upper fill regrowths

/-! ### Outcomes -/

/-- A call that is all or nothing goes through, or it halts and nothing happened to what it
held. -/
lemma outcomeOn_cases {c : Call σ α ρ} {post : ρ → σ → Prop} {a : σ} (result : ρ → Result α)
    (h : AllOrNothing c post supply ⟨a, supply.copies, .blank⟩) :
    (∃ r b t, outcomeOn supply a c result = (.ok (result r), b, t) ∧ post r b)
      ∨ ∃ e t, outcomeOn supply a c result = (.error e, a, t) ∧ ∀ x, e ≠ .fault x := by
  rw [outcomeOn, Call.run]
  obtain ⟨r, g, hrun, hpost⟩ | ⟨e, g, hrun, hheld, hexact⟩ := h.cases
  · rw [hrun]
    exact .inl ⟨r, g.held, g.tally, rfl, hpost⟩
  · cases (show g.held = a from hheld)
    rw [hrun]
    exact .inr ⟨e, g.tally, rfl, hexact⟩

end Session

end AnchoredArrays
