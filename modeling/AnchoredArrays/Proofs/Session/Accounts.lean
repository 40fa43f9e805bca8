import AnchoredArrays.Proofs.Anchored.Accounts
import AnchoredArrays.Proofs.Session.Steps
import AnchoredArrays.Proofs.Slices.Moved
import Mathlib

/-!
The elements that a session answers for. What an action was given, what came into being and what
was copied is in a register in the end, or dropped, or left behind, and nothing else is; a call that
halts has dropped what it was given.

* `elements`, `handed`: the elements in registers, and those that are handed over to an action;
  `Distinct.countP_put` and its companions: what the registers do to them;
* `Conserves`, `Settled`: what is promised of a step; `conserves_ok`, `conserves_halted`,
  `call_settled`: **a step** whose call keeps the balance does as promised;
* `Selection.moved_balanced`, `Selection.copied_balanced`, `Change.call_balanced`,
  `Joining.call_balanced`: the calls that actions make.
-/

namespace AnchoredArrays.Session

open Element Anchored Call

variable {α σ ρ : Type} [Element α] {supply : Supply} {s t : Session α} {name : Name}
  {pick : α → Bool}

/-! ### The elements in registers -/

/-- The number of elements of all arrays in registers. -/
def total (s : Session α) : Nat := (s.registers.map fun r => r.2.length).sum

/-- The elements of all arrays in registers. -/
def elements (s : Session α) : List α := s.registers.flatMap fun r => r.2.toList

/-- No two arrays are in registers of one name. -/
def Distinct (s : Session α) : Prop := (s.registers.map (·.1)).Nodup

lemma WellFormed.total_eq (h : s.WellFormed) : s.total = s.elements.length := by
  rw [total, elements, List.length_flatMap]
  congr 1
  exact List.map_congr_left fun r hr => (h r hr).length_eq'

namespace Distinct

lemma start : (start : Session α).Distinct := List.nodup_nil

lemma counted (h : s.Distinct) (n : Int) : (s.counted n).Distinct := h

lemma clear (h : s.Distinct) (name : Name) : (s.clear name).Distinct :=
  h.sublist (List.filter_sublist.map _)

lemma put (h : s.Distinct) (name : Name) (a : Anchored α) : (s.put name a).Distinct := by
  refine List.nodup_cons.2 ⟨fun hmem => ?_, h.clear name⟩
  obtain ⟨r, hr, hname⟩ := List.mem_map.1 hmem
  simpa [hname] using (List.mem_filter.1 hr).2

lemma putSlot (h : s.Distinct) (name : Name) (slot : Option (Anchored α)) :
    (s.putSlot name slot).Distinct := by
  cases slot with
  | none => exact h.clear name
  | some a => exact h.put name a

lemma store (h : s.Distinct) (into : Option Name) (result : Result α) :
    (s.store into result).Distinct := by
  cases into with
  | none => exact h
  | some name =>
    cases result with
    | array a => exact h.put name a
    | _ => exact h

/-- What was in a register is not in one any more after the register was emptied. -/
lemma countP_clear (h : s.Distinct) (pick : α → Bool) (name : Name) :
    (s.clear name).elements.countP pick + ownedIn pick (s.find? name)
      = s.elements.countP pick := by
  obtain ⟨registers, live⟩ := s
  induction registers with
  | nil => rfl
  | cons r registers ih =>
    obtain ⟨hr, hrest⟩ := List.nodup_cons.1 h
    have ih := ih hrest
    change ((registers.filter (·.1 != name)).flatMap fun r => r.2.toList).countP pick
      + ownedIn pick (find? ⟨registers, live⟩ name)
        = (registers.flatMap fun r => r.2.toList).countP pick at ih
    change (((r :: registers).filter (·.1 != name)).flatMap fun r => r.2.toList).countP pick
      + ownedIn pick (find? ⟨r :: registers, live⟩ name)
        = ((r :: registers).flatMap fun r => r.2.toList).countP pick
    rw [find?_cons, List.filter_cons, List.flatMap_cons, List.countP_append]
    by_cases hname : r.1 = name
    · -- there is no other array in a register of that name
      have hnone : find? ⟨registers, live⟩ name = none := by
        rw [find?, Option.map_eq_none_iff, List.find?_eq_none]
        intro q hq hqname
        exact hr (List.mem_map.2 ⟨q, hq, (eq_of_beq hqname).trans hname.symm⟩)
      rw [hnone] at ih
      rw [if_neg (by simpa using hname), if_pos hname, ownedIn_some, Nat.add_comm]
      exact congrArg _ ih
    · rw [if_pos (by simpa using hname), if_neg hname, List.flatMap_cons, List.countP_append, ← ih,
        Nat.add_assoc]

lemma countP_put (h : s.Distinct) (pick : α → Bool) (name : Name) (a : Anchored α) :
    (s.put name a).elements.countP pick + ownedIn pick (s.find? name)
      = s.elements.countP pick + a.owned pick := by
  have hclear := h.countP_clear pick name
  have hput : (s.put name a).elements = a.toList ++ (s.clear name).elements := List.flatMap_cons
  rw [hput, List.countP_append, Anchored.owned]
  omega

lemma countP_putSlot (h : s.Distinct) (pick : α → Bool) (name : Name)
    (slot : Option (Anchored α)) :
    (s.putSlot name slot).elements.countP pick + ownedIn pick (s.find? name)
      = s.elements.countP pick + ownedIn pick slot := by
  cases slot with
  | none => exact h.countP_clear pick name
  | some a => exact h.countP_put pick name a

end Distinct

/-- The elements that an action results in. -/
def Result.elements : Result α → List α
  | .array a => a.toList
  | .taken x => [x]
  | .drained xs _ => xs.filterMap id
  | _ => []

/-- A result is stored or dropped, and so is what gives way to it. -/
lemma Distinct.countP_store (h : s.Distinct) (pick : α → Bool) (into : Option Name)
    (result : Result α) :
    (s.store into result).elements.countP pick + (s.released into result).amount pick
      = s.elements.countP pick + result.elements.countP pick := by
  cases result with
  | array a =>
    cases into with
    | none => rfl
    | some name =>
      have hfound : (s.released (some name) (.array a)).amount pick
          = ownedIn pick (s.find? name) := by
        rw [released]
        cases s.find? name with
        | none => exact Slots.amount_nil
        | some b => rfl
      rw [hfound]
      exact h.countP_put pick name a
  | taken x =>
    cases into <;> exact congrArg _ (Slots.amount_single x)
  | drained xs left =>
    cases into <;> exact congrArg _ (Slots.amount_ofList _)
  | _ => cases into <;> exact congrArg _ Slots.amount_nil

/-- Counting elements makes no difference to what is stored. -/
lemma counted_store (s : Session α) (n : Int) (into : Option Name) (result : Result α) :
    (s.counted n).store into result = (s.store into result).counted n := by
  cases into <;> cases result <;> rfl

lemma counted_released (s : Session α) (n : Int) (into : Option Name) (result : Result α) :
    (s.counted n).released into result = s.released into result := by
  cases result <;> rfl

lemma store_live (s : Session α) (into : Option Name) (result : Result α) :
    (s.store into result).live = s.live := by
  cases into <;> cases result <;> rfl

/-! ### Steps -/

/-- Whether the copies that an action has made are left behind if one does not go through. -/
def Action.leaks : Action α → Bool
  | .copy _ | .copySlice .. | .change _ (.insertSelf _) | .join _ _ (.insertCopy _) => true
  | _ => false

/-- Whether an action makes an array out of a draft. -/
def Action.drafts : Action α → Bool
  | .make (.draft ..) => true
  | _ => false

/-- Whether a step broke off since a copy did not go through. -/
def Report.exhausted (report : Report α) : Bool :=
  match report.outcome with
  | .error (.halted (.panic .copiesExhausted)) => true
  | _ => false

/-- The number of copies that were lost in a step. -/
def lost (step : Step α) (report : Report α) : Nat :=
  if step.action.leaks && report.exhausted then report.tally.copied.length else 0

/-- The number of elements that were left behind in the slots of a draft. -/
def strays (step : Step α) (report : Report α) : Nat :=
  if step.action.drafts then report.tally.leaked.length else 0

/-- The elements that are handed over to an action: those that it is given, and those of the arrays
that it uses up. -/
def handed (s : Session α) (action : Action α) : List α :=
  action.given ++ action.consumed.flatMap fun name => ((s.find? name).map Anchored.toList).getD []

lemma countP_handed (s : Session α) (action : Action α) :
    (s.handed action).countP pick = action.given.countP pick
      + (action.consumed.map fun name => ownedIn pick (s.find? name)).sum := by
  have hcontents : ∀ slot : Option (Anchored α),
      ((slot.map Anchored.toList).getD []).countP pick = ownedIn pick slot := fun slot => by
    cases slot <;> rfl
  rw [handed, List.countP_append, List.countP_flatMap]
  simp only [Function.comp_def, hcontents]

/-- The session before an action, but with all elements changed if it is what the action does. -/
def rewritten (s : Session α) : Action α → Session α
  | .change a (.update f) =>
    match s.find? a with
    | some x => s.put a (x.map f)
    | none => s
  | _ => s

/-- What is promised of a step from the session `s`. Every element that was in a register, that the
action was given, that came into being or that was copied is afterwards in a register, or was
dropped, or left behind, once; and the ledger says so. If its call halts, exactly the elements that
were handed over to it are dropped, with those that came into being or were copied meanwhile, or
left behind. None is left behind but copies, if one did not go through, and what was in the slots of
a draft. -/
structure Conserves (s : Session α) (step : Step α) (out : Session α × Report α) : Prop where
  elements : (out.1.elements ++ out.2.released.toList ++ out.2.tally.dropped.toList
    ++ out.2.tally.leaked.toList).Perm ((s.rewritten step.action).elements ++ step.action.given
      ++ out.2.tally.received.toList ++ out.2.tally.copies.toList)
  live : out.1.live + out.2.released.length + out.2.tally.dropped.length
    = s.live + step.action.given.length + out.2.tally.received.length + out.2.tally.copied.length
  halted : ∀ e, out.2.outcome = .error (.halted e) →
    (out.2.tally.dropped.toList ++ out.2.tally.leaked.toList).Perm
      (s.handed step.action ++ out.2.tally.received.toList ++ out.2.tally.copies.toList)
  leaked : step.action.drafts = false → out.2.tally.leaked.toList.Perm
    (if step.action.leaks && out.2.exhausted then out.2.tally.copies.toList else [])

/-- What is promised of the end of a step, and of the names of registers. -/
structure Settled (s : Session α) (step : Step α) (out : Session α × Report α) : Prop
    extends Conserves s step out where
  distinct : out.1.Distinct

/-- The session after a call that results in something. -/
lemma conclude_ok_eq (t : Session α) (step : Step α) (result : Result α) (tally : Tally α) :
    (t.conclude step (.ok result) tally).1
        = (t.store step.into result).counted (step.action.given.length + tally.received.length
          + tally.copied.length - tally.dropped.length - (t.released step.into result).length)
      ∧ (t.conclude step (.ok result) tally).2.released = t.released step.into result := by
  refine ⟨?_, counted_released ..⟩
  simp only [conclude, report, settle, counted_store, counted_released]
  simp only [counted, Int.add_assoc, Int.sub_eq_add_neg]

/-- A step whose call results in something. -/
lemma settled_ok {step : Step α} {tally : Tally α} {result : Result α} (ht : t.Distinct)
    (hlive : t.live = s.live)
    (hcount : ∀ pick : α → Bool, (t.elements.countP pick + result.elements.countP pick : Int)
        + tally.account pick
      = (s.rewritten step.action).elements.countP pick + step.action.given.countP pick)
    (hleaked : step.action.drafts = false → ∀ pick : α → Bool, tally.leaked.amount pick = 0) :
    Settled s step (t.conclude step (.ok result) tally) := by
  obtain ⟨hsession, hreleased⟩ := conclude_ok_eq t step result tally
  have htally : (t.conclude step (.ok result) tally).2.tally = tally := rfl
  refine ⟨⟨perm_of_countP fun pick => ?_, ?_, nofun,
    fun hdrafts => perm_of_countP fun pick => ?_⟩, ?_⟩
  · have hstore := ht.countP_store pick step.into result
    have hpick := hcount pick
    rw [hsession, hreleased, htally]
    simp only [Tally.account, Slots.amount] at hpick hstore
    simp only [List.countP_append]
    change (t.store step.into result).elements.countP pick + _ + _ + _ = _
    omega
  · rw [hsession, hreleased, htally, counted, store_live, hlive]
    dsimp only
    omega
  · have hexhausted : (t.conclude step (.ok result) tally).2.exhausted = false := rfl
    rw [hexhausted, Bool.and_false, if_neg Bool.false_ne_true, htally]
    exact hleaked hdrafts pick
  · rw [hsession]
    exact (ht.store step.into result).counted _

/-- A step whose call halts. -/
lemma settled_halted {step : Step α} {tally : Tally α} {e : Halt} (ht : t.Distinct)
    (hlive : t.live = s.live)
    (hcount : ∀ pick : α → Bool, (t.elements.countP pick : Int) + tally.account pick
      = (s.rewritten step.action).elements.countP pick + step.action.given.countP pick)
    (hhanded : ∀ pick : α → Bool, tally.account pick = (s.handed step.action).countP pick)
    (hleaked : step.action.drafts = false → ∀ pick : α → Bool, tally.leaked.amount pick
      = if step.action.leaks ∧ e = .panic .copiesExhausted then tally.copies.amount pick else 0) :
    Settled s step (t.conclude step (.error e) tally) := by
  have hreleased : (t.conclude step (.error e) tally).2.released = .nil := rfl
  have htally : (t.conclude step (.error e) tally).2.tally = tally := rfl
  refine ⟨⟨perm_of_countP fun pick => ?_, ?_, fun _ _ => perm_of_countP fun pick => ?_,
    fun hdrafts => perm_of_countP fun pick => ?_⟩, ht.counted _⟩
  · have hpick := hcount pick
    rw [hreleased, htally, Slots.toList_nil, List.append_nil]
    simp only [Tally.account, Slots.amount] at hpick
    simp only [List.countP_append]
    change t.elements.countP pick + _ + _ = _
    omega
  · rw [hreleased, htally, Slots.length_nil]
    change t.live + _ + _ + _ = _
    omega
  · have hpick := hhanded pick
    rw [htally]
    simp only [Tally.account, Slots.amount] at hpick
    simp only [List.countP_append]
    omega
  · have hpick := hleaked hdrafts pick
    have hexhausted : (t.conclude step (.error e) tally).2.exhausted = true
        ↔ e = .panic .copiesExhausted := by
      rcases e with e | p | e
      · simp [Report.exhausted, conclude, report]
      · cases p <;> simp [Report.exhausted, conclude, report]
      · simp [Report.exhausted, conclude, report]
    rw [htally, apply_ite (List.countP pick)]
    simp only [Bool.and_eq_true, hexhausted]
    exact hpick

/-- A step that finds no array. -/
lemma missing_settled (hs : s.Distinct) {step : Step α}
    (hsame : s.rewritten step.action = s) (name : Name) :
    Settled s step (s.missing step name) := by
  have hreport : (s.missing step name).2.tally = .blank
      ∧ (s.missing step name).2.released = .ofList step.action.given
      ∧ (s.missing step name).2.exhausted = false := ⟨rfl, rfl, rfl⟩
  obtain ⟨htally, hreleased, hexhausted⟩ := hreport
  refine ⟨⟨?_, ?_, nofun, fun _ => ?_⟩, hs⟩
  · rw [htally, hreleased, hsame]
    simp only [Tally.blank, Tally.copies, Slots.toList_map, Slots.toList_nil, Slots.toList_ofList,
      List.map_nil, List.append_nil]
    exact .refl _
  · rw [htally, hreleased, Slots.length_ofList]
    simp only [Tally.blank, Slots.length_nil, Int.natCast_zero, Int.add_zero]
    rfl
  · rw [htally, hexhausted, Bool.and_false, if_neg Bool.false_ne_true]
    exact .of_eq Slots.toList_nil

/-- **A step** whose call keeps the balance is settled, if the session in which it ends makes up for
what was handed over to the call and for what it holds before and after. -/
lemma call_settled (step : Step α) {c : Call σ α ρ} {own : (α → Bool) → σ → Nat}
    {used : (α → Bool) → Nat} {post : ρ → σ → Prop} {a : σ} (result : ρ → Result α)
    (next : σ → Session α) (hsame : s.rewritten step.action = s)
    (hc : ∀ pick : α → Bool, Balanced pick step.action.leaks c (own pick)
      (fun r => (result r).elements.countP pick) (used pick) (used pick) step.supply
      ⟨a, step.supply.copies, .blank⟩)
    (hkept : AllOrNothing c post step.supply ⟨a, step.supply.copies, .blank⟩)
    (hused : ∀ pick, used pick = (s.handed step.action).countP pick)
    (hnext : ∀ b, (next b).Distinct ∧ (next b).live = s.live ∧ ∀ pick,
      (next b).elements.countP pick + used pick + own pick a
        = s.elements.countP pick + step.action.given.countP pick + own pick b) :
    Settled s step
      ((next (outcomeOn step.supply a c result).2.1).conclude step
        (outcomeOn step.supply a c result).1 (outcomeOn step.supply a c result).2.2) := by
  rw [outcomeOn, Call.run]
  rcases hrun : c step.supply ⟨a, step.supply.copies, .blank⟩ with ⟨e | r, f⟩
  · have hheld : f.held = a := hkept.held_of_error hrun
    obtain ⟨hdistinct, hlive, hnext⟩ := hnext f.held
    have haccount := fun pick => (hc pick).error_from_blank hrun
    dsimp only
    rw [hheld] at hdistinct hlive hnext haccount ⊢
    refine settled_halted hdistinct hlive (fun pick => ?_) (fun pick => ?_) fun _ pick =>
      (haccount pick).2
    · have hbalance := (haccount pick).1
      have hpick := hnext pick
      rw [hsame]
      omega
    · have hbalance := (haccount pick).1
      rw [← hused]
      omega
  · obtain ⟨hdistinct, hlive, hnext⟩ := hnext f.held
    have haccount := fun pick => (hc pick).ok_from_blank hrun
    dsimp only
    refine settled_ok hdistinct hlive (fun pick => ?_) fun _ pick => (haccount pick).2
    have hbalance := (haccount pick).1
    have hpick := hnext pick
    rw [hsame]
    omega

/-! ### The calls of actions -/

/-- What a moving slice takes out of a slot is in its result. -/
lemma Selection.movePlan_owned {a : Anchored α} (selection : Selection)
    {q : Plan (Option (Anchored α)) (Anchored α)} (hq : selection.movePlan a = .ok q) :
    ownedIn pick q.after + q.result.owned pick = a.owned pick := by
  have of_part : ∀ {part : Except Reason Part} {buffers : Part → List Nat} {kept : Int64},
      ∀ q, (part >>= fun p => moving a p (buffers p) kept) = .ok q →
        ownedIn pick q.after + q.result.owned pick = a.owned pick :=
    plan_of_part fun _ _ _ hq => moving_owned hq
  cases selection with
  | head stop => exact of_part q hq
  | tail start =>
    rw [movePlan, tailMove] at hq
    split_ifs at hq
    · cases hq
      exact Nat.zero_add _
    · exact of_part q hq
  | range start stop => exact of_part q hq
  | run start n => exact of_part q hq

lemma Selection.moved_balanced {f : Frame (Option (Anchored α)) α} {leaks : Bool}
    (h : ∀ a, f.held = some a → a.WellFormed) (selection : Selection) :
    Balanced pick leaks selection.moved (ownedIn pick) (Anchored.owned pick) 0 0 supply f := by
  cases hslot : f.held with
  | none =>
    have hconsumed : selection.moved supply f
        = (.error (.panic (.consumed selection.moveOperation)), f) := by
      obtain ⟨slot, copies, tally⟩ := f
      cases hslot
      cases selection <;> rfl
    exact .of_panic hconsumed (by simp)
  | some a =>
    refine .of_eq (selection.moved_eq hslot (h a hslot)) (planned_balanced _ _ fun q hq => ?_)
    rw [hslot]
    exact selection.movePlan_owned hq

lemma Selection.copied_balanced {a : Anchored α} (h : a.WellFormed) (selection : Selection)
    {f : Frame σ α} : Balanced pick true (selection.copied a) (fun _ => 0) (Anchored.owned pick) 0 0
      supply f := by
  rw [selection.copied_eq h]
  exact sliced_balanced (fun _ => selection.part_within h) _

/-- A change other than one of every element. -/
lemma Change.call_balanced {f : Frame (Anchored α) α} (h : f.held.WellFormed) (name : Name)
    {change : Change α} (hplain : ∀ g, change ≠ .update g) :
    Balanced pick (Action.change name change).leaks change.call (Anchored.owned pick)
      (fun r => r.elements.countP pick) (change.given.countP pick) (change.given.countP pick)
      supply f := by
  cases change with
  | set i x => exact .map (set?_balanced h i x)
  | replace i x => exact .map (replace_balanced h i x)
  | update g => exact absurd rfl (hplain g)
  | push x => exact .map (push_balanced h x)
  | insert i x => exact .map (insert_balanced h i x)
  | insertSelf i => exact .map (insertSelf_balanced h i)
  | reanchor start => exact .map (reanchor_balanced h start)
  | remove i => exact .map (remove_balanced h i)
  | swapRemove i => exact .map (swapRemove_balanced h i)
  | removeRun i n => exact .map (removeRun_balanced h i n)
  | sort direction traced compare => exact .map (sort_balanced direction _ _)

lemma Joining.call_balanced {f : Frame (Anchored α) α} {b : Anchored α} (h : f.held.WellFormed)
    (hb : b.WellFormed) (x y : Name) (joining : Joining) :
    Balanced pick (Action.join (α := α) x y joining).leaks (joining.call b) (Anchored.owned pick)
      (fun _ => 0) (if joining.consumes then b.owned pick else 0)
      (if joining.consumes then b.owned pick else 0) supply f := by
  cases joining with
  | append => exact append_balanced h hb
  | insertCopy i => exact insertCopy_balanced h i hb
  | insertMoved i => exact insertMoved_balanced h i hb

lemma Joining.call_unbroken {f : Frame (Anchored α) α} {b : Anchored α} (joining : Joining)
    (hconsumes : joining.consumes = true) (h : f.held.WellFormed) (hb : b.WellFormed) :
    Unbroken (joining.call b) supply f := by
  cases joining with
  | append => exact append_unbroken h hb
  | insertCopy i => cases hconsumes
  | insertMoved i => exact insertMoved_unbroken h i hb

end AnchoredArrays.Session
