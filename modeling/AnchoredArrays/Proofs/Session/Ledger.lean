import AnchoredArrays.Proofs.Session.Makings
import AnchoredArrays.Proofs.Session.Steps
import AnchoredArrays.Element.Instances

/-!
The ledger of a session. As many elements exist as the arrays in the registers have, and besides
them only copies that were lost because a later one did not go through, and what was written into
slots of a draft that no array came out of.

* `step_settled`, `run_settled`: what every step and every run do to the ledger and the registers;
* `panic_kept`, `replicate_dropped`: a step that breaks off;
* `ledger_balances`: **after every run** the ledger is what the registers and the losses add up to,
  and every step of it conserves elements.
-/

namespace AnchoredArrays.Session

open Element Anchored Call

variable {α σ ρ : Type} [Element α] {s t : Session α}

/-! ### Every step -/

/-- Making an array is settled. -/
lemma make_settled (hd : s.Distinct) (making : Making α) (into : Option Name) (supply : Supply) :
    Settled s ⟨.make making, into, supply⟩ (s.step ⟨.make making, into, supply⟩) := by
  have hmade := fun pick => making.run_account pick supply
  have hleaks : (Action.make making : Action α).leaks = false := rfl
  rw [step]
  dsimp only
  generalize making.run supply = out at *
  obtain ⟨e | a, tally⟩ := out
  · simp only [yielded, Int.natCast_zero, Int.zero_add] at hmade
    refine settled_halted hd rfl (fun pick => ?_) (fun pick => ?_) fun hdrafts pick => ?_
    · rw [(hmade pick).1]
      rfl
    · rw [(hmade pick).1, countP_handed]
      rfl
    · rw [(hmade pick).2 hdrafts, hleaks, if_neg fun h => Bool.false_ne_true h.1]
  · simp only [yielded] at hmade
    refine settled_ok hd rfl (fun pick => ?_) fun hdrafts pick => (hmade pick).2 hdrafts
    rw [Int.add_assoc]
    exact congrArg _ (hmade pick).1

/-- A step that only looks at registers is settled. -/
lemma looked_settled (hd : s.Distinct) {step : Step α} {result : Result α}
    (hsame : s.rewritten step.action = s) (hgiven : step.action.given = [])
    (hresult : result.elements = []) :
    Settled s step (s.conclude step (.ok result) .blank) := by
  refine settled_ok hd rfl (fun pick => ?_) fun _ _ => Slots.amount_nil
  rw [hsame, hgiven, hresult, Tally.account_blank]
  rfl

/-- Looking at an array is settled. -/
lemma view_settled (hd : s.Distinct) (a : Name) (g : Anchored α → View α) (into : Option Name)
    (supply : Supply) : Settled s ⟨.view a g, into, supply⟩ (s.step ⟨.view a g, into, supply⟩) := by
  rw [step]
  dsimp only
  cases s.find? a with
  | none => exact missing_settled hd rfl a
  | some x => exact looked_settled hd rfl rfl rfl

/-- Reading an element is settled. -/
lemma read_settled (hd : s.Distinct) (a : Name) (i : Int64) (into : Option Name)
    (supply : Supply) : Settled s ⟨.read a i, into, supply⟩ (s.step ⟨.read a i, into, supply⟩) := by
  rw [step]
  dsimp only
  cases s.find? a with
  | none => exact missing_settled hd rfl a
  | some x =>
    exact call_settled ⟨_, into, supply⟩ .seen (fun _ => s) rfl (fun _ => read_balanced x i)
      (read_allOrNothing x i) (fun _ => rfl) fun _ => ⟨hd, rfl, fun _ => rfl⟩

/-- Comparing two arrays is settled. -/
lemma equal_settled (hd : s.Distinct) (a b : Name) (same : Anchored α → Anchored α → Bool)
    (into : Option Name) (supply : Supply) :
    Settled s ⟨.equal a b same, into, supply⟩ (s.step ⟨.equal a b same, into, supply⟩) := by
  rw [step]
  dsimp only
  cases s.find? b with
  | none => exact missing_settled hd rfl b
  | some y =>
    cases s.find? a with
    | none => exact missing_settled hd rfl a
    | some x => exact looked_settled hd rfl rfl rfl

/-- Copying an array is settled. -/
lemma copy_settled (h : s.WellFormed) (hd : s.Distinct) (a : Name) (into : Option Name)
    (supply : Supply) : Settled s ⟨.copy a, into, supply⟩ (s.step ⟨.copy a, into, supply⟩) := by
  rw [step]
  dsimp only
  cases ha : s.find? a with
  | none => exact missing_settled hd rfl a
  | some x =>
    exact call_settled ⟨_, into, supply⟩ .array (fun _ => s) rfl
      (fun _ => copy_balanced (h.find? ha)) (copy_allOrNothing (h.find? ha)) (fun _ => rfl)
      fun _ => ⟨hd, rfl, fun _ => rfl⟩

/-- Copying a slice is settled. -/
lemma copySlice_settled (h : s.WellFormed) (hd : s.Distinct) (a : Name) (selection : Selection)
    (into : Option Name) (supply : Supply) :
    Settled s ⟨.copySlice a selection, into, supply⟩
      (s.step ⟨.copySlice a selection, into, supply⟩) := by
  rw [step]
  dsimp only
  cases ha : s.find? a with
  | none => exact missing_settled hd rfl a
  | some x =>
    exact call_settled ⟨_, into, supply⟩ .array (fun _ => s) rfl
      (fun _ => selection.copied_balanced (h.find? ha))
      (selection.copied_allOrNothing (h.find? ha)) (fun _ => rfl) fun _ => ⟨hd, rfl, fun _ => rfl⟩

/-- A slice that is moved out of a register is settled. -/
lemma moveSlice_settled (h : s.WellFormed) (hd : s.Distinct) (a : Name) (selection : Selection)
    (into : Option Name) (supply : Supply) :
    Settled s ⟨.moveSlice a selection, into, supply⟩
      (s.step ⟨.moveSlice a selection, into, supply⟩) := by
  have hwell : ∀ x, s.find? a = some x → x.WellFormed := fun _ hx => h.find? hx
  rw [step]
  dsimp only
  refine call_settled ⟨_, into, supply⟩ .array (s.putSlot a) rfl
    (fun _ => selection.moved_balanced hwell) (selection.moved_allOrNothing hwell) (fun _ => rfl)
    fun slot => ⟨hd.putSlot a slot, ?_, fun pick => hd.countP_putSlot pick a slot⟩
  cases slot <;> rfl

/-- A change of an array in a register is settled. -/
lemma change_settled (h : s.WellFormed) (hd : s.Distinct) (a : Name) (change : Change α)
    (into : Option Name) (supply : Supply) :
    Settled s ⟨.change a change, into, supply⟩ (s.step ⟨.change a change, into, supply⟩) := by
  rw [step]
  dsimp only
  cases ha : s.find? a with
  | none =>
    refine missing_settled hd ?_ a
    cases change <;> simp only [rewritten, ha]
  | some x =>
    by_cases hplain : ∀ g, change ≠ .update g
    · have hsame : s.rewritten (.change a change) = s := by
        cases change with
        | update g => exact absurd rfl (hplain g)
        | _ => rfl
      refine call_settled ⟨_, into, supply⟩ id (s.put a) hsame
        (fun _ => change.call_balanced (h.find? ha) a hplain)
        (change.call_allOrNothing (h.find? ha)) (fun pick => ?_)
        fun b => ⟨hd.put a b, rfl, fun pick => ?_⟩
      · rw [countP_handed]
        rfl
      · have hput := hd.countP_put pick a b
        rw [ha, ownedIn_some] at hput
        change _ + change.given.countP pick + _ = _ + change.given.countP pick + _
        omega
    · -- every element is another one afterwards, so there is no balance to keep
      obtain ⟨g, rfl⟩ := not_forall_not.1 hplain
      refine settled_ok (hd.put a (x.map g)) rfl (fun pick => ?_) fun _ _ => Slots.amount_nil
      have hchanged : s.rewritten (.change a (.update g)) = s.put a (x.map g) := by
        simp only [rewritten, ha]
      have htally : (outcomeOn supply x (Change.update g).call id).2.2 = .blank := rfl
      rw [hchanged, htally, Tally.account_blank, Int.add_zero]
      rfl

/-- Putting an array into another one is settled. -/
lemma join_settled (h : s.WellFormed) (hd : s.Distinct) (a b : Name) (joining : Joining)
    (into : Option Name) (supply : Supply) :
    Settled s ⟨.join a b joining, into, supply⟩ (s.step ⟨.join a b joining, into, supply⟩) := by
  rw [step]
  dsimp only
  cases hb : s.find? b with
  | none => exact missing_settled hd rfl b
  | some y =>
    obtain ⟨rest, hrest⟩ : ∃ rest, rest = if joining.consumes then s.clear b else s := ⟨_, rfl⟩
    have hbegin : rest.WellFormed ∧ rest.Distinct ∧ rest.live = s.live ∧ ∀ pick,
        rest.elements.countP pick + (if joining.consumes then y.owned pick else 0)
          = s.elements.countP pick := by
      rw [hrest]
      split_ifs
      · refine ⟨h.clear b, hd.clear b, rfl, fun pick => ?_⟩
        have hclear := hd.countP_clear pick b
        rwa [hb, ownedIn_some] at hclear
      · exact ⟨h, hd, rfl, fun _ => rfl⟩
    obtain ⟨hwell, hdistinct, hlive, hcount⟩ := hbegin
    rw [← hrest]
    cases ha : rest.find? a with
    | none => exact missing_settled hd rfl a
    | some x =>
      refine call_settled ⟨_, into, supply⟩ (fun _ => .nothing) (rest.put a) rfl
        (fun _ => joining.call_balanced (hwell.find? ha) (h.find? hb) a b)
        (joining.call_allOrNothing (hwell.find? ha) (h.find? hb)) (fun pick => ?_)
        fun c => ⟨hdistinct.put a c, hlive, fun pick => ?_⟩
      · rw [countP_handed, Action.consumed]
        cases joining.consumes with
        | true => simp [Action.given, hb]
        | false => simp [Action.given]
      · have hput := hdistinct.countP_put pick a c
        have hrest := hcount pick
        rw [ha, ownedIn_some] at hput
        change _ = s.elements.countP pick + 0 + _
        omega

/-- Joining two arrays to one is settled. -/
lemma concat_settled (h : s.WellFormed) (hd : s.Distinct) (a b : Name) (into : Option Name)
    (supply : Supply) :
    Settled s ⟨.concat a b, into, supply⟩ (s.step ⟨.concat a b, into, supply⟩) := by
  rw [step]
  dsimp only
  cases hb : s.find? b with
  | none => exact missing_settled hd rfl b
  | some y =>
    cases ha : (s.clear b).find? a with
    | none => exact missing_settled hd rfl a
    | some x =>
      have hboth := hd.clear b
      have hwell := (h.clear b).find? ha
      refine call_settled ⟨_, into, supply⟩ .array (fun _ => (s.clear b).clear a) rfl
        (fun _ => concat_balanced hwell (h.find? hb)) (concat_allOrNothing hwell (h.find? hb))
        (fun pick => ?_) fun _ => ⟨hboth.clear a, rfl, fun pick => ?_⟩
      · have hfirst : s.find? a = some x := by
          rw [find?_clear] at ha
          split_ifs at ha
          exact ha
        rw [countP_handed, Action.consumed]
        simp [Action.given, hfirst, hb]
      · have hsecond := hboth.countP_clear pick a
        have hfirst := hd.countP_clear pick b
        rw [ha, ownedIn_some] at hsecond
        rw [hb, ownedIn_some] at hfirst
        change _ = s.elements.countP pick + 0 + 0
        omega

/-- Adding an element to an array that is used up is settled. -/
lemma extend_settled (h : s.WellFormed) (hd : s.Distinct) (a : Name) (x : α) (into : Option Name)
    (supply : Supply) :
    Settled s ⟨.extend a x, into, supply⟩ (s.step ⟨.extend a x, into, supply⟩) := by
  rw [step]
  dsimp only
  cases ha : s.find? a with
  | none => exact missing_settled hd rfl a
  | some y =>
    refine call_settled ⟨_, into, supply⟩ .array (fun _ => s.clear a) rfl
      (fun _ => extend_balanced (h.find? ha) x) (extend_allOrNothing (h.find? ha) x)
      (fun pick => ?_) fun _ => ⟨hd.clear a, rfl, fun pick => ?_⟩
    · rw [countP_handed, Action.consumed, Nat.add_comm]
      simp [Action.given, ha]
    · have hclear := hd.countP_clear pick a
      rw [ha, ownedIn_some] at hclear
      rw [Action.given]
      omega

/-- Draining an array is settled. -/
lemma drain_settled (h : s.WellFormed) (hd : s.Distinct) (a : Name) (n : Nat)
    (into : Option Name) (supply : Supply) :
    Settled s ⟨.drain a n, into, supply⟩ (s.step ⟨.drain a n, into, supply⟩) := by
  rw [step]
  dsimp only
  cases ha : s.find? a with
  | none => exact missing_settled hd rfl a
  | some x =>
    have hconsistent := Drain.ofArray_consistent (h.find? ha)
    have hleft := Drain.ofArray_left x
    refine call_settled ⟨_, into, supply⟩ (fun r : List (Option α) × List Nat => .drained r.1 r.2)
      (fun _ => s.clear a) rfl (fun _ => take_balanced n hconsistent)
      (Drain.take_allOrNothing n hconsistent) (fun pick => ?_)
      fun _ => ⟨hd.clear a, rfl, fun pick => ?_⟩
    · rw [countP_handed, Action.consumed]
      simp [Action.given, ha, hleft, Anchored.owned]
    · have hclear := hd.countP_clear pick a
      rw [ha, ownedIn_some, Anchored.owned] at hclear
      rw [hleft]
      change _ = s.elements.countP pick + 0 + 0
      omega

/-- **Every step** from well-formed arrays in registers of distinct names is settled. -/
lemma step_settled (h : s.WellFormed) (hd : s.Distinct) (t : Step α) :
    Settled s t (s.step t) := by
  obtain ⟨action, into, supply⟩ := t
  cases action with
  | make making => exact make_settled hd making into supply
  | view a g => exact view_settled hd a g into supply
  | read a i => exact read_settled hd a i into supply
  | equal a b same => exact equal_settled hd a b same into supply
  | copy a => exact copy_settled h hd a into supply
  | copySlice a selection => exact copySlice_settled h hd a selection into supply
  | moveSlice a selection => exact moveSlice_settled h hd a selection into supply
  | change a change => exact change_settled h hd a change into supply
  | join a b joining => exact join_settled h hd a b joining into supply
  | concat a b => exact concat_settled h hd a b into supply
  | extend a x => exact extend_settled h hd a x into supply
  | drain a n => exact drain_settled h hd a n into supply

/-! ### Runs -/

/-- What was left behind are copies that were lost, or it was in the slots of a draft. -/
lemma Conserves.leaked_length {step : Step α} {out : Session α × Report α}
    (h : Conserves s step out) :
    out.2.tally.leaked.length = lost step out.2 + strays step out.2 := by
  rw [lost, strays]
  cases hdrafts : step.action.drafts with
  | true =>
    have hkept : step.action.leaks = false := by
      obtain ⟨action, into, supply⟩ := step
      cases action with
      | make making => rfl
      | _ => cases hdrafts
    rw [hkept, Bool.false_and, if_neg Bool.false_ne_true, if_pos rfl, Nat.zero_add]
  | false =>
    have hlength := (h.leaked hdrafts).length_eq
    rw [Slots.length_toList] at hlength
    rw [hlength, apply_ite List.length, Slots.length_toList, Tally.length_copies,
      if_neg Bool.false_ne_true]
    rfl

/-- As many elements are in registers before an action that changes all of them as after it. -/
lemma Distinct.length_rewritten (hd : s.Distinct) (action : Action α) :
    (s.rewritten action).elements.length = s.elements.length := by
  rw [rewritten.eq_def]
  split
  · rename_i a f
    cases ha : s.find? a with
    | none => rfl
    | some x =>
      have hput := hd.countP_put (fun _ => true) a (x.map f)
      have hmap : (x.map f).toList = x.toList.map f := Slots.toList_map f _
      simp only [ha, ownedIn_some, Anchored.owned, hmap, List.countP_true, List.length_map] at hput
      exact Nat.add_right_cancel hput
  · rfl

/-- A step changes what exists outside of the registers by what it leaves behind. -/
lemma Settled.excess {step : Step α} {out : Session α × Report α} (hd : s.Distinct)
    (h : Settled s step out) :
    out.1.live - out.1.elements.length
      = s.live - s.elements.length + (lost step out.2 + strays step out.2 : Nat) := by
  have hlive := h.live
  have hlength := h.elements.length_eq
  simp only [List.length_append, Slots.length_toList, hd.length_rewritten, Tally.length_copies,
    h.leaked_length] at hlength
  omega

/-- A run changes what exists outside of the registers by what its steps leave behind. -/
lemma run_settled (h : s.WellFormed) (hd : s.Distinct) (steps : List (Step α)) :
    (s.run steps).1.WellFormed ∧ (s.run steps).1.Distinct
      ∧ (s.run steps).1.live - (s.run steps).1.elements.length = s.live - s.elements.length
        + ((List.zipWith lost steps (s.run steps).2).sum
          + (List.zipWith strays steps (s.run steps).2).sum : Nat) := by
  induction steps generalizing s with
  | nil => exact ⟨h, hd, (Int.add_zero _).symm⟩
  | cons t rest ih =>
    have ht := step_settled h hd t
    have hexcess := ht.excess hd
    obtain ⟨hwell, hdistinct, hrest⟩ := ih (step_ending h t).wellFormed ht.distinct
    refine ⟨hwell, hdistinct, ?_⟩
    rw [run]
    dsimp only
    rw [List.zipWith_cons_cons, List.zipWith_cons_cons, List.sum_cons, List.sum_cons]
    omega

/-! ### Panics -/

/-- A step whose call goes through or fails does not break off. -/
lemma call_steady (step : Step α) {c : Call σ α ρ} {a : σ} (result : ρ → Result α)
    (hc : Unbroken c step.supply ⟨a, step.supply.copies, .blank⟩) (p : Panic) :
    (t.conclude step (outcomeOn step.supply a c result).1
      (outcomeOn step.supply a c result).2.2).2.outcome ≠ .error (.halted (.panic p)) := by
  rw [outcomeOn, Call.run]
  rcases hrun : c step.supply ⟨a, step.supply.copies, .blank⟩ with ⟨e | r, f⟩
  · obtain ⟨x, rfl⟩ := hc e (by rw [hrun])
    rintro ⟨⟩
  · rintro ⟨⟩

/-- An action that uses up what is in a register does not break off. -/
lemma consuming_steady (h : s.WellFormed) (t : Step α) (hused : t.action.consumed ≠ [])
    (p : Panic) : (s.step t).2.outcome ≠ .error (.halted (.panic p)) := by
  obtain ⟨action, into, supply⟩ := t
  cases action with
  | join a b joining =>
    rw [step]
    dsimp only
    cases hb : s.find? b with
    | none => rintro ⟨⟩
    | some y =>
      have hconsumes : joining.consumes = true := by
        by_contra hkept
        exact hused (if_neg hkept)
      rw [if_pos hconsumes]
      cases ha : (s.clear b).find? a with
      | none => rintro ⟨⟩
      | some x =>
        exact call_steady ⟨_, into, supply⟩ _
          (joining.call_unbroken hconsumes ((h.clear b).find? ha) (h.find? hb)) p
  | concat a b =>
    rw [step]
    dsimp only
    cases hb : s.find? b with
    | none => rintro ⟨⟩
    | some y =>
      cases ha : (s.clear b).find? a with
      | none => rintro ⟨⟩
      | some x =>
        exact call_steady ⟨_, into, supply⟩ _
          (concat_unbroken ((h.clear b).find? ha) (h.find? hb)) p
  | extend a x =>
    rw [step]
    dsimp only
    cases ha : s.find? a with
    | none => rintro ⟨⟩
    | some y => exact call_steady ⟨_, into, supply⟩ _ (extend_unbroken (h.find? ha) x) p
  | drain a n =>
    rw [step]
    dsimp only
    cases ha : s.find? a with
    | none => rintro ⟨⟩
    | some x =>
      obtain ⟨r, d, htake, -⟩ := Drain.take_apply supply n
        (f := ⟨Drain.ofArray x, supply.copies, .blank⟩) (Drain.ofArray_consistent (h.find? ha))
      exact call_steady ⟨_, into, supply⟩ _ (.of_ok htake) p
  | _ => exact absurd rfl hused

/-- A step that breaks off leaves every register as it was. -/
lemma panic_kept (h : s.WellFormed) (t : Step α) {p : Panic}
    (hpanic : (s.step t).2.outcome = .error (.halted (.panic p))) (name : Name) :
    (s.step t).1.find? name = s.find? name := by
  refine (step_ending h t).kept _ hpanic name ?_
  rw [not_not.1 fun hused => consuming_steady h t hused p hpanic]
  exact List.not_mem_nil

/-- If an element cannot be put into every slot, all copies of it and the element itself are
dropped. -/
lemma replicate_dropped (s : Session α) (t : Step α) {lower upper : Int64} {x : α}
    (ht : t.action = .make (.replicate lower upper x)) {e : Trouble}
    (he : (s.step t).2.outcome = .error e) :
    (s.step t).2.tally.dropped.toList
      = x :: (s.step t).2.tally.copied.toList.map Element.copy := by
  obtain ⟨action, into, supply⟩ := t
  cases ht
  rw [step] at he ⊢
  dsimp only [Making.run] at he ⊢
  rw [Making.perform, Call.run] at he ⊢
  rcases hrun : Anchored.replicate lower upper x supply ⟨(), supply.copies, .blank⟩ with ⟨e' | a, f⟩
  · obtain ⟨made, hcopied, hdropped⟩ := Anchored.replicate_dropped hrun
    have hblank : (Tally.blank : Tally α).copied.toList = [] := Slots.toList_nil
    have hblank' : (Tally.blank : Tally α).dropped.toList = [] := Slots.toList_nil
    rw [hblank, List.append_nil] at hcopied
    rw [hblank', List.append_nil] at hdropped
    exact hdropped.trans (by rw [← hcopied]; rfl)
  · rw [hrun] at he
    cases he

/-- **After every run**, whatever its arguments are, whatever is refused and however few copies go
through, as many elements exist as the arrays in registers have, and besides only those copies that
were lost since a later one of the same step did not go through, and what was in the slots of a
draft when they were cut off or the draft was given up, of which there is nothing if no array is
made out of a draft. At any step of it no element is lost from sight or there twice: each is in a
register, or was dropped or left behind, and a call that fails or breaks off has dropped what it was
given. A step that breaks off leaves every register as it was; if it was to put one element into
every slot, it has dropped that element and every copy it made of it. -/
theorem ledger_balances (steps : List (Step α)) :
    ((start : Session α).run steps).1.live = (start.run steps).1.total
        + (List.zipWith lost steps (start.run steps).2).sum
        + (List.zipWith strays steps (start.run steps).2).sum
      ∧ ∀ t : Step α, Conserves (start.run steps).1 t ((start.run steps).1.step t)
        ∧ ∀ p : Panic, ((start.run steps).1.step t).2.outcome = .error (.halted (.panic p)) →
          (∀ name, ((start.run steps).1.step t).1.find? name = (start.run steps).1.find? name)
            ∧ ∀ lower upper x, t.action = .make (.replicate lower upper x) →
              ((start.run steps).1.step t).2.tally.dropped.toList
                = x :: ((start.run steps).1.step t).2.tally.copied.toList.map Element.copy := by
  obtain ⟨hwell, hdistinct, hexcess⟩ := run_settled (α := α) start_wellFormed Distinct.start steps
  refine ⟨?_, fun t => ⟨(step_settled hwell hdistinct t).toConserves, fun p hpanic =>
    ⟨panic_kept hwell t hpanic, fun lower upper x ht => replicate_dropped _ t ht hpanic⟩⟩⟩
  have hstart : (start : Session α).live - (start : Session α).elements.length = 0 := rfl
  rw [hstart] at hexcess
  rw [hwell.total_eq]
  omega

/-- Three values are made, and copied with a supply that lets two copies through; then a draft of
three slots is filled and cut off behind the first. -/
def leakingSteps : List (Step Traced) :=
  [⟨.make (.ofList 1 [⟨10, 0⟩, ⟨20, 0⟩, ⟨30, 0⟩]), some "three", .ample⟩,
    ⟨.copySlice "three" (.head 5), none, .limited 1000 none (some 2)⟩,
    ⟨.make (.draft 1 3 ⟨7, 0⟩ [⟨1, ⟨8, 0⟩, .ample, false⟩]), none, .ample⟩]

/-- A value is to be put into three slots with a supply that lets one copy through. -/
def fillingStep : Step Traced :=
  ⟨.make (.replicate 1 3 ⟨7, 0⟩), some "three", .limited 1000 none (some 1)⟩

/-- A value is to be put behind an array that is used up, but every buffer is refused. -/
def refusedStep : Step Traced := ⟨.extend "three" ⟨40, 0⟩, none, .limited 0 none none⟩

/-- Two copies are lost and two slots of a draft, but none of the copies that were made to fill an
array, and nothing that was handed over to a call that fails. -/
theorem ledger_balances_leaking :
    (start.run leakingSteps).1.live = 3 + 2 + 2
      ∧ ((start.run leakingSteps).1.step fillingStep).2.outcome
        = .error (.halted (.panic .copiesExhausted))
      ∧ ((start.run leakingSteps).1.step fillingStep).2.tally.dropped.toList
        = [⟨7, 0⟩, Element.copy ⟨7, 0⟩]
      ∧ ((start.run leakingSteps).1.step refusedStep).2.outcome
        = .error (.halted (.failure ⟨.extend, .noMemory⟩))
      ∧ ((start.run leakingSteps).1.step refusedStep).2.tally.dropped.toList.Perm
        [⟨40, 0⟩, ⟨10, 0⟩, ⟨20, 0⟩, ⟨30, 0⟩] := by
  obtain ⟨hlive, hsteps⟩ := ledger_balances leakingSteps
  have hfilling := (hsteps fillingStep).2 .copiesExhausted (by rfl)
  have hrefused := (hsteps refusedStep).1.halted (.failure ⟨.extend, .noMemory⟩) (by rfl)
  exact ⟨hlive.trans (by rfl), by rfl, (hfilling.2 1 3 ⟨7, 0⟩ rfl).trans (by rfl), by rfl, hrefused⟩

end AnchoredArrays.Session
