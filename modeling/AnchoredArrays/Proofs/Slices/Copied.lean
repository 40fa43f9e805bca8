import AnchoredArrays.Proofs.Call.Granted
import AnchoredArrays.Proofs.Slices.Target

/-!
Copying slices on a generous supply: what they result in, what they copy, and when they fail.

* `copyPart_apply`: a part that finds a place is copied, each element once;
* `Selection.copied_run`: a copying slice copies the elements at the positions it selects;
* `slices_copied`: **the four copying slices**, case by case.
-/

namespace AnchoredArrays.Session

open Element Anchored Call

variable {α σ : Type} [Element α] {supply : Supply} {operation : Operation} {a : Anchored α}
  {f : Frame σ α}

/-- A part that finds a place is copied, each element once. -/
lemma copyPart_apply (operation : Operation) {p : Part} {t : Target} (h : Placed a p t)
    (hgenerous : supply.Generous)
    (hcopies : ∀ left, f.copiesLeft = some left → p.count ≤ left) :
    ∃ b g, copyPart operation a p supply f = (.ok b, g)
      ∧ b.Holds t.anchor.toInt ((p.elements a).map Element.copy)
      ∧ g.tally.copied.toList = p.elements a ++ f.tally.copied.toList := by
  rw [copyPart]
  split_ifs with hnone
  · have hnothing : p.elements a = [] := by rw [Part.elements, hnone, List.take_zero]
    have hplace : a.lower ≠ Position.least := h.anchor_empty hnone ▸ h.room.starts hnone
    rw [emptyFor_eq, if_neg hplace, checked_ok, hnothing, h.anchor_empty hnone]
    exact ⟨_, _, rfl, laid_holds (.zero hplace), rfl⟩
  · have hlength := h.within.length_elements
    have hroom := h.room
    rw [h.anchor_eq hnone] at hroom ⊢
    rw [copySlots_eq h.within.le hroom, bind_apply, obtain_generous hgenerous _ hroom.fits,
      ← Part.elements]
    obtain ⟨g, hcopy, -, -, hcopied⟩ := copyAll_apply supply
      (f := f.asking supply p.count) (s := .ofList (p.elements a))
      (by rwa [Slots.length_ofList, hlength, f.asking_copiesLeft])
    have hcopies : (Slots.ofList (p.elements a)).map Element.copy
        = .ofList ((p.elements a).map Element.copy) := Slots.eq_ofList (by simp)
    refine ⟨laid p.anchor ((p.elements a).map Element.copy), g, ?_, laid_holds ?_, ?_⟩
    · dsimp only
      rw [bind_apply, hcopy, hcopies, laid, List.length_map, hlength]
      rfl
    · rwa [List.length_map, hlength]
    · rw [hcopied, Slots.toList_append, Slots.toList_ofList, f.asking_copied]

/-! ### Copying slices -/

/-- The call results in an array of copies of these elements at the anchor, for which it copies each
of them once and nothing else. -/
def Copies (out : Except Halt (Anchored α) × Frame σ α) (items : List α) (anchor : Int64) : Prop :=
  ∃ b, out.1 = .ok b ∧ b.Holds anchor.toInt (items.map Element.copy)
    ∧ out.2.tally.copied.toList = items

/-- The call fails, and copies nothing. -/
def Declines (out : Except Halt (Anchored α) × Frame σ α) (kind : Kind) (operation : Operation)
    (reason : Reason) : Prop :=
  Fails out.1 kind operation reason ∧ out.2.tally.copied.toList = []

/-- The call copies the elements at the positions of a target, or fails if there is none. -/
def Copying (a : Anchored α) (operation : Operation)
    (out : Except Halt (Anchored α) × Frame σ α) : Except Reason Target → Prop
  | .error reason => Declines out reason.kind operation reason
  | .ok t => Copies out (a.between t.first t.last) t.anchor

namespace Selection

/-- The label of the copying slice. -/
def copyOperation : Selection → Operation
  | .head _ => .copyHead
  | .tail _ => .copyTail
  | .range .. => .copyRange
  | .run .. => .copyRun

/-- The trace of a slice says the bounds of the array and the arguments. -/
def arguments (a : Anchored α) : Selection → List Argument
  | .head stop => [a.bounds, .position stop]
  | .tail start => [a.bounds, .position start]
  | .range start stop => [a.bounds, .position start, .position stop]
  | .run start n => [a.bounds, .position start, .position n]

/-- A copying slice copies its part. -/
lemma copied_eq (h : a.WellFormed) (selection : Selection) :
    (selection.copied a : Call σ α (Anchored α)) = (do
      trace selection.copyOperation (selection.arguments a)
      let p ← checked selection.copyOperation (selection.part a)
      copyPart selection.copyOperation a p) := by
  cases selection with
  | head stop => exact copyHead_eq h stop
  | tail start => exact copyTail_eq h start
  | range start stop => exact copyRange_eq h start stop
  | run start n => exact copyRun_eq h start n

/-- A copying slice does what its target says. -/
lemma copied_run (h : a.WellFormed) (selection : Selection) (held : σ)
    (hgenerous : supply.Generous) (hcopies : supply.Lets a.toList.length) :
    Copying a selection.copyOperation ((selection.copied a).run supply held)
      (selection.target a) := by
  rw [Call.run, copied_eq h, trace_bind]
  have hreaches := selection.part_reaches h
  generalize selection.part a = part at *
  generalize selection.target a = target at *
  cases hreaches with
  | refused reason => exact ⟨⟨rfl, rfl⟩, Slots.toList_nil⟩
  | @unplaced p hnone hleast =>
    rw [checked_ok, pure_bind, copyPart, if_pos hnone, emptyFor_eq, if_pos hleast]
    exact ⟨⟨rfl, rfl⟩, Slots.toList_nil⟩
  | @placed p t hplaced =>
    have hcount : p.count ≤ a.toList.length :=
      Nat.le_trans (Nat.le_add_left ..) hplaced.within.le
    obtain ⟨b, g, hrun, hholds, hcopied⟩ := copyPart_apply selection.copyOperation
      (f := Frame.leaving ⟨held, supply.copies, .blank⟩
        (.trace selection.copyOperation (selection.arguments a)))
      hplaced hgenerous (hcopies.of_le hcount)
    rw [checked_ok, pure_bind, hrun, Copying, hplaced.selected]
    refine ⟨b, rfl, hholds, ?_⟩
    calc g.tally.copied.toList = p.elements a ++ Slots.nil.toList := hcopied
      _ = p.elements a := by rw [Slots.toList_nil, List.append_nil]

end Selection

/-- **The copying slices** on a generous supply, for all arguments. What is selected is cut short at
the upper bound; a slice fails exactly when it starts or ends too low, or selects nothing from an
array that is anchored at the smallest position. -/
theorem slices_copied (h : a.WellFormed) (held : σ) (hgenerous : supply.Generous)
    (hcopies : supply.Lets a.toList.length) :
    (∀ stop : Int64,
      if stop.toInt < a.lower.toInt - 1 then
        Declines ((a.copyHead stop).run supply held) .index .copyHead .stopTooLow
      else
        Copies ((a.copyHead stop).run supply held)
          (a.between a.lower.toInt (min stop.toInt a.upper.toInt)) a.lower)
      ∧ (∀ start : Int64,
        if start.toInt < a.lower.toInt then
          Declines ((a.copyTail start).run supply held) .index .copyTail .startTooLow
        else if a.upper.toInt < start.toInt ∧ a.lower = Position.least then
          Declines ((a.copyTail start).run supply held) .range .copyTail .noEmptyAnchor
        else if a.upper.toInt < start.toInt then
          Copies ((a.copyTail start).run supply held) [] a.lower
        else
          Copies ((a.copyTail start).run supply held) (a.between start.toInt a.upper.toInt) start)
      ∧ (∀ start stop : Int64,
        if start.toInt < a.lower.toInt then
          Declines ((a.copyRange start stop).run supply held) .index .copyRange .startTooLow
        else if min stop.toInt a.upper.toInt < start.toInt - 1 then
          Declines ((a.copyRange start stop).run supply held) .index .copyRange .stopBeforeStart
        else if min stop.toInt a.upper.toInt = start.toInt - 1 ∧ a.lower = Position.least then
          Declines ((a.copyRange start stop).run supply held) .range .copyRange .noEmptyAnchor
        else
          Copies ((a.copyRange start stop).run supply held)
            (a.between start.toInt (min stop.toInt a.upper.toInt)) a.lower)
      ∧ ∀ start n : Int64,
        if start.toInt < a.lower.toInt ∨ n.toInt < 0 then
          Declines ((a.copyRun start n).run supply held) .index .copyRun .badRun
        else if (n.toInt = 0 ∨ a.upper.toInt < start.toInt) ∧ a.lower = Position.least then
          Declines ((a.copyRun start n).run supply held) .range .copyRun .noEmptyAnchor
        else
          Copies ((a.copyRun start n).run supply held)
            (a.between start.toInt (min (start.toInt + n.toInt - 1) a.upper.toInt)) a.lower := by
  have key := fun selection : Selection => selection.copied_run h held hgenerous hcopies
  refine ⟨fun stop => ?_, fun start => ?_, fun start stop => ?_, fun start n => ?_⟩
  · have hrun := key (.head stop)
    rw [Selection.target] at hrun
    split_ifs at hrun ⊢ <;> exact hrun
  · have hrun := key (.tail start)
    rw [Selection.target] at hrun
    split_ifs at hrun ⊢ with hlow hleast hbehind
    · exact hrun
    · exact hrun
    · rwa [Copying, between_of_lt hbehind] at hrun
    · exact hrun
  · have hrun := key (.range start stop)
    rw [Selection.target] at hrun
    split_ifs at hrun ⊢ <;> exact hrun
  · have hrun := key (.run start n)
    rw [Selection.target] at hrun
    split_ifs at hrun ⊢ <;> exact hrun

/-- At the smallest position nothing can be selected, and a range may end anywhere. -/
theorem slices_copied_lowest :
    lowestThree.WellFormed ∧ Supply.ample.Generous ∧ Supply.ample.Lets lowestThree.toList.length
      ∧ Declines ((lowestThree.copyRun Position.least 0).run .ample ()) .range .copyRun
        .noEmptyAnchor
      ∧ Copies ((lowestThree.copyRange (Position.least + 1) Position.greatest).run .ample ())
        [⟨20, 0⟩, ⟨30, 0⟩] Position.least := by
  obtain ⟨-, -, hrange, hrun⟩ := slices_copied lowestThree_wellFormed () Supply.ample_generous
    (Supply.ample_lets _)
  refine ⟨lowestThree_wellFormed, Supply.ample_generous, Supply.ample_lets _, ?_, ?_⟩
  · have hnone := hrun Position.least 0
    rwa [if_neg (by decide), if_pos (by decide)] at hnone
  · have hsome := hrange (Position.least + 1) Position.greatest
    rwa [if_neg (by decide), if_neg (by decide), if_neg (by decide)] at hsome

end AnchoredArrays.Session
