import AnchoredArrays.Proofs.Session.Calls

/-!
The steps of a session. A step from well-formed arrays leaves well-formed arrays; no call of it
faults; and if it ends without a result, every register is as it was but for those that the action
uses up in any case.

* `Action.consumed`: the registers that an action uses up;
* `call_ending`: a step that makes a call which is all or nothing ends as promised;
* `step_ending`: **every step** ends as promised.
-/

namespace AnchoredArrays.Session

open Call

variable {α σ ρ : Type} [Element α] {s : Session α}

/-- The registers that an action uses up, whether it has a result or not. -/
def Action.consumed : Action α → List Name
  | .join _ b joining => if joining.consumes then [b] else []
  | .concat a b => [a, b]
  | .extend a _ => [a]
  | .drain a _ => [a]
  | _ => []

/-- A step ends as promised that makes a call which is all or nothing and puts what it leaves into
the session. -/
lemma call_ending (step : Step α) {consumed : List Name} {c : Call σ α ρ} {post : ρ → σ → Prop}
    {a : σ} (result : ρ → Result α) (next : σ → Session α)
    (hc : AllOrNothing c post step.supply ⟨a, step.supply.copies, .blank⟩)
    (hok : ∀ r b, post r b → (next b).WellFormed ∧ (result r).WellFormed)
    (hsame : (next a).WellFormed)
    (hkept : ∀ name, name ∉ consumed → (next a).find? name = s.find? name) :
    Ending s consumed
      ((next (outcomeOn step.supply a c result).2.1).conclude step
        (outcomeOn step.supply a c result).1 (outcomeOn step.supply a c result).2.2) := by
  obtain ⟨r, b, t, hrun, hpost⟩ | ⟨e, t, hrun, hexact⟩ := outcomeOn_cases result hc
  · rw [hrun]
    exact conclude_ok (hok r b hpost).1 (hok r b hpost).2
  · rw [hrun]
    exact conclude_error hsame hexact hkept

/-! ### Actions that leave the registers alone -/

/-- Making an array ends as promised. -/
lemma make_ending (h : s.WellFormed) (making : Making α) (into : Option Name) (supply : Supply) :
    Ending s [] (s.step ⟨.make making, into, supply⟩) := by
  have hmade := making.run_made supply
  rw [step]
  dsimp only
  generalize making.run supply = out at *
  obtain ⟨e | a, t⟩ := out
  · exact conclude_error h hmade fun _ _ => rfl
  · exact conclude_ok h hmade

/-- Looking at an array ends as promised. -/
lemma view_ending (h : s.WellFormed) (a : Name) (g : Anchored α → View α) (into : Option Name)
    (supply : Supply) : Ending s [] (s.step ⟨.view a g, into, supply⟩) := by
  rw [step]
  dsimp only
  cases s.find? a with
  | none => exact missing_ending h a
  | some x => exact conclude_ok h trivial

/-- Reading an element ends as promised. -/
lemma read_ending (h : s.WellFormed) (a : Name) (i : Int64) (into : Option Name)
    (supply : Supply) : Ending s [] (s.step ⟨.read a i, into, supply⟩) := by
  rw [step]
  dsimp only
  cases s.find? a with
  | none => exact missing_ending h a
  | some x =>
    exact call_ending ⟨_, into, supply⟩ .seen (fun _ => s) (Anchored.read_allOrNothing x i)
      (fun _ _ _ => ⟨h, trivial⟩) h fun _ _ => rfl

/-- Comparing two arrays ends as promised. -/
lemma equal_ending (h : s.WellFormed) (a b : Name) (same : Anchored α → Anchored α → Bool)
    (into : Option Name) (supply : Supply) :
    Ending s [] (s.step ⟨.equal a b same, into, supply⟩) := by
  rw [step]
  dsimp only
  cases s.find? b with
  | none => exact missing_ending h b
  | some y =>
    cases s.find? a with
    | none => exact missing_ending h a
    | some x => exact conclude_ok h trivial

/-- Copying an array ends as promised. -/
lemma copy_ending (h : s.WellFormed) (a : Name) (into : Option Name) (supply : Supply) :
    Ending s [] (s.step ⟨.copy a, into, supply⟩) := by
  rw [step]
  dsimp only
  cases ha : s.find? a with
  | none => exact missing_ending h a
  | some x =>
    exact call_ending ⟨_, into, supply⟩ .array (fun _ => s)
      (Anchored.copy_allOrNothing (h.find? ha)) (fun _ _ hc => ⟨h, hc.1⟩) h fun _ _ => rfl

/-- Copying a slice ends as promised. -/
lemma copySlice_ending (h : s.WellFormed) (a : Name) (selection : Selection) (into : Option Name)
    (supply : Supply) : Ending s [] (s.step ⟨.copySlice a selection, into, supply⟩) := by
  rw [step]
  dsimp only
  cases ha : s.find? a with
  | none => exact missing_ending h a
  | some x =>
    exact call_ending ⟨_, into, supply⟩ .array (fun _ => s)
      (selection.copied_allOrNothing (h.find? ha)) (fun _ _ hc => ⟨h, hc.1⟩) h fun _ _ => rfl

/-! ### Actions that change registers -/

/-- A slice that is moved out of a register ends as promised. -/
lemma moveSlice_ending (h : s.WellFormed) (a : Name) (selection : Selection) (into : Option Name)
    (supply : Supply) : Ending s [] (s.step ⟨.moveSlice a selection, into, supply⟩) := by
  have hslot : ∀ x, s.find? a = some x → x.WellFormed := fun _ hx => h.find? hx
  rw [step]
  dsimp only
  refine call_ending ⟨_, into, supply⟩ .array (s.putSlot a) (selection.moved_allOrNothing hslot)
    (fun b slot hpost => ?_) (h.putSlot a hslot) fun name _ => find?_putSlot_self s a name
  exact ⟨h.putSlot a hpost.2, hpost.1⟩

/-- A change of an array in a register ends as promised. -/
lemma change_ending (h : s.WellFormed) (a : Name) (change : Change α) (into : Option Name)
    (supply : Supply) : Ending s [] (s.step ⟨.change a change, into, supply⟩) := by
  rw [step]
  dsimp only
  cases ha : s.find? a with
  | none => exact missing_ending h a
  | some x =>
    have hx := h.find? ha
    dsimp only
    exact call_ending ⟨_, into, supply⟩ id (s.put a) (change.call_allOrNothing hx)
      (fun r b hpost => ⟨h.put a hpost.2, hpost.1⟩) (h.put a hx)
      fun name _ => find?_put_self ha name

/-- Putting an array into another one ends as promised. -/
lemma join_ending (h : s.WellFormed) (a b : Name) (joining : Joining) (into : Option Name)
    (supply : Supply) :
    Ending s (Action.join (α := α) a b joining).consumed
      (s.step ⟨.join a b joining, into, supply⟩) := by
  rw [step, Action.consumed]
  dsimp only
  cases hb : s.find? b with
  | none => exact missing_ending h b
  | some y =>
    obtain ⟨rest, hrest⟩ : ∃ rest, rest = if joining.consumes then s.clear b else s := ⟨_, rfl⟩
    have hwell : rest.WellFormed := by
      rw [hrest]
      split_ifs
      · exact h.clear b
      · exact h
    have hkept : ∀ name, name ∉ (if joining.consumes then [b] else []) →
        rest.find? name = s.find? name := by
      intro name hname
      rw [hrest]
      split_ifs at hname ⊢ with hconsumes
      · rw [find?_clear, if_neg fun hn => hname (List.mem_singleton.2 hn)]
      · rfl
    rw [← hrest]
    cases ha : rest.find? a with
    | none => exact missing_ending h a
    | some x =>
      have hx := hwell.find? ha
      dsimp only
      refine call_ending ⟨_, into, supply⟩ (fun _ => .nothing) (rest.put a)
        (joining.call_allOrNothing hx (h.find? hb)) (fun _ c hc => ⟨hwell.put a hc, trivial⟩)
        (hwell.put a hx) ?_
      intro name hname
      calc (rest.put a x).find? name = rest.find? name := find?_put_self ha name
        _ = s.find? name := hkept name hname

/-- Joining two arrays to one ends as promised. -/
lemma concat_ending (h : s.WellFormed) (a b : Name) (into : Option Name) (supply : Supply) :
    Ending s [a, b] (s.step ⟨.concat a b, into, supply⟩) := by
  rw [step]
  dsimp only
  cases hb : s.find? b with
  | none => exact missing_ending h b
  | some y =>
    cases ha : (s.clear b).find? a with
    | none => exact missing_ending h a
    | some x =>
      have hwell := (h.clear b).clear a
      refine call_ending ⟨_, into, supply⟩ .array (fun _ => (s.clear b).clear a)
        (Anchored.concat_allOrNothing ((h.clear b).find? ha) (h.find? hb))
        (fun c _ hc => ⟨hwell, hc.1⟩) hwell ?_
      intro name hname
      rw [List.mem_cons, not_or, List.mem_singleton] at hname
      rw [find?_clear, find?_clear, if_neg hname.1, if_neg hname.2]

/-- Adding an element to an array that is used up ends as promised. -/
lemma extend_ending (h : s.WellFormed) (a : Name) (x : α) (into : Option Name)
    (supply : Supply) : Ending s [a] (s.step ⟨.extend a x, into, supply⟩) := by
  rw [step]
  dsimp only
  cases ha : s.find? a with
  | none => exact missing_ending h a
  | some y =>
    refine call_ending ⟨_, into, supply⟩ .array (fun _ => s.clear a)
      (Anchored.extend_allOrNothing (h.find? ha) x) (fun _ _ hc => ⟨h.clear a, hc.1⟩)
      (h.clear a) ?_
    intro name hname
    rw [find?_clear, if_neg fun hn => hname (List.mem_singleton.2 hn)]

/-- Draining an array ends as promised. -/
lemma drain_ending (h : s.WellFormed) (a : Name) (n : Nat) (into : Option Name)
    (supply : Supply) : Ending s [a] (s.step ⟨.drain a n, into, supply⟩) := by
  rw [step]
  dsimp only
  cases ha : s.find? a with
  | none => exact missing_ending h a
  | some x =>
    refine call_ending ⟨_, into, supply⟩ (fun r => .drained r.1 r.2) (fun _ => s.clear a)
      (Drain.take_allOrNothing n (Drain.ofArray_consistent (h.find? ha)))
      (fun _ _ _ => ⟨h.clear a, trivial⟩) (h.clear a) ?_
    intro name hname
    rw [find?_clear, if_neg fun hn => hname (List.mem_singleton.2 hn)]

/-! ### Every action -/

/-- **Every step** from well-formed arrays ends as promised. -/
lemma step_ending (h : s.WellFormed) (t : Step α) : Ending s t.action.consumed (s.step t) := by
  obtain ⟨action, into, supply⟩ := t
  cases action with
  | make making => exact make_ending h making into supply
  | view a g => exact view_ending h a g into supply
  | read a i => exact read_ending h a i into supply
  | equal a b same => exact equal_ending h a b same into supply
  | copy a => exact copy_ending h a into supply
  | copySlice a selection => exact copySlice_ending h a selection into supply
  | moveSlice a selection => exact moveSlice_ending h a selection into supply
  | change a change => exact change_ending h a change into supply
  | join a b joining => exact join_ending h a b joining into supply
  | concat a b => exact concat_ending h a b into supply
  | extend a x => exact extend_ending h a x into supply
  | drain a n => exact drain_ending h a n into supply

end AnchoredArrays.Session
