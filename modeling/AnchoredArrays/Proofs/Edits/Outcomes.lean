import AnchoredArrays.Proofs.Anchored.Growth
import AnchoredArrays.Proofs.Anchored.Making
import AnchoredArrays.Proofs.Anchored.Removal
import AnchoredArrays.Proofs.Call.Granted

/-!
How edits end on a generous supply: with a result and a value that is held, or with the reason for
which they halt. What is recorded, dropped or asked for on the way makes no difference.

* `ends`, `left`, `decided`: how a call ends, what it leaves, and how carrying out a plan ends if
  nothing is refused;
* `planned_ends`, `owning_ends`: **a planned call** ends as its plan decides;
* `insertMoved_ends`, `removeRun_ends` and their companions: so does every edit, from any frame.
-/

namespace AnchoredArrays

open Element

namespace Call

variable {σ α ρ : Type} [Element α] {supply : Supply} {f : Frame σ α} {operation : Operation}
  {plan : Except Reason (Plan σ ρ)}

/-- How a call ends: with its result and the value that it then holds, or with the reason for which
it halts. -/
def ends (out : Except Halt ρ × Frame σ α) : Except Halt (ρ × σ) :=
  out.1.map fun r => (r, out.2.held)

/-- How carrying out a plan ends if nothing is refused. -/
def decided (operation : Operation) : Except Reason (Plan σ ρ) → Except Halt (ρ × σ)
  | .error reason => .error (.failure ⟨operation, reason⟩)
  | .ok p => .ok (p.result, p.after)

lemma ends_ok_iff {out : Except Halt ρ × Frame σ α} {r : ρ} {s : σ} :
    ends out = .ok (r, s) ↔ out.1 = .ok r ∧ out.2.held = s := by
  obtain ⟨e | r', g⟩ := out
  · exact ⟨fun he => (nomatch he), fun he => nomatch he.1⟩
  · constructor
    · rintro ⟨⟩
      exact ⟨rfl, rfl⟩
    · rintro ⟨⟨⟩, rfl⟩
      rfl

lemma decided_ok_iff {r : ρ} {s : σ} :
    decided operation plan = .ok (r, s) ↔ ∃ buffers, plan = .ok ⟨buffers, s, r⟩ := by
  cases plan with
  | error reason => exact ⟨fun he => (nomatch he), fun ⟨_, he⟩ => nomatch he⟩
  | ok p =>
    constructor
    · rintro ⟨⟩
      exact ⟨p.buffers, rfl⟩
    · rintro ⟨buffers, ⟨⟩⟩
      rfl

/-- What a call leaves: the value that it holds if it goes through. -/
def left (out : Except Halt ρ × Frame σ α) : Except Halt σ := out.1.map fun _ => out.2.held

lemma left_eq {out : Except Halt ρ × Frame σ α} {outcome : Except Halt (ρ × σ)}
    (h : ends out = outcome) : left out = outcome.map Prod.snd := by
  subst h
  obtain ⟨_ | _, _⟩ := out <;> rfl

/-- What a call results in, beside the value that it then holds. -/
lemma result_eq {out : Except Halt ρ × Frame σ α} {outcome : Except Halt (ρ × σ)}
    (h : ends out = outcome) : out.1 = outcome.map Prod.fst := by
  subst h
  obtain ⟨_ | _, _⟩ := out <;> rfl

/-- A call whose first part goes through ends as the rest does. -/
lemma ends_bind {π : Type} {c : Call σ α ρ} {next : ρ → Call σ α π} {r : ρ} {s : σ}
    {outcome : Except Halt (π × σ)} (hc : ends (c supply f) = .ok (r, s))
    (hnext : ∀ g : Frame σ α, g.held = s → ends (next r supply g) = outcome) :
    ends ((c >>= next) supply f) = outcome := by
  obtain ⟨hr, hs⟩ := ends_ok_iff.1 hc
  have hrun : c supply f = (.ok r, (c supply f).2) := Prod.ext hr rfl
  rw [bind_apply, hrun]
  exact hnext _ hs

/-- Carrying out a plan ends as it decides. -/
lemma carryOut_ends (h : supply.Generous) (operation : Operation)
    (hfits : ∀ p, plan = .ok p → ∀ n ∈ p.buffers, n ≤ maxLength α) :
    ends ((carryOut operation plan : Call σ α ρ) supply f) = decided operation plan := by
  cases plan with
  | error reason => rfl
  | ok p =>
    rw [carryOut_generous h operation (hfits p rfl)]
    rfl

/-- Elements given to a call make no difference to how it ends. -/
lemma given_ends (s : Slots α) (c : Call σ α ρ) :
    ends (given s c supply f) = ends (c supply f) := by
  obtain ⟨dropped, hgiven⟩ := given_apply supply f s c
  rw [hgiven]
  rfl

/-- **A planned call** ends as its plan decides, whatever it records and drops. -/
lemma planned_ends (h : supply.Generous) (operation : Operation) (arguments : List Argument)
    (s : Slots α) (hfits : ∀ p, plan = .ok p → ∀ n ∈ p.buffers, n ≤ maxLength α) :
    ends (given s (do trace operation arguments; carryOut operation plan : Call σ α ρ) supply f)
      = decided operation plan := by
  rw [given_ends]
  exact carryOut_ends (f := f.leaving _) h operation hfits

end Call

namespace Anchored

open Call

variable {α σ : Type} [Element α] {supply : Supply} {operation : Operation} {a b : Anchored α}
  {f : Frame (Anchored α) α} {start : Nat}

/-! ### Growing -/

lemma push_ends (h : f.held.WellFormed) (hgenerous : supply.Generous) (x : α) :
    ends (push x supply f)
      = decided .push (growth f.held f.held.toList.length [x]) := by
  rw [push_eq h]
  exact planned_ends hgenerous .push _ _ fun _ => growth_fits

lemma append_ends (h : f.held.WellFormed) (hgenerous : supply.Generous) (hb : b.WellFormed) :
    ends (append b supply f)
      = decided .append (growth f.held f.held.toList.length b.toList) := by
  rw [append_eq h hb]
  exact planned_ends hgenerous .append _ _ fun _ => growth_fits

lemma insert_ends (h : f.held.WellFormed) (hgenerous : supply.Generous) (i : Int64) (x : α) :
    ends (insert i x supply f) = decided .insert (insertion f.held i [x]) := by
  rw [insert_eq h]
  exact planned_ends hgenerous .insert _ _ fun _ => insertion_fits

lemma insertMoved_ends (h : f.held.WellFormed) (hgenerous : supply.Generous) (i : Int64)
    (hb : b.WellFormed) :
    ends (insertMoved i b supply f) = decided .insertMoved (insertion f.held i b.toList) := by
  rw [insertMoved_eq h i hb]
  exact planned_ends hgenerous .insertMoved _ _ fun _ => insertion_fits

/-- A call on an array of its own results in that array, beside what is held. -/
lemma owning_ends {f : Frame σ α} {c : Call (Anchored α) α Unit} :
    ends (owning a c supply f)
      = (ends (c supply ⟨a, f.copiesLeft, f.tally⟩)).map fun r => (r.2, f.held) := by
  rw [owning, bind_apply, on]
  rcases c supply ⟨a, f.copiesLeft, f.tally⟩ with ⟨e | ⟨⟩, g⟩
  · exact given_ends _ _
  · rfl

lemma concat_ends (h : a.WellFormed) (hgenerous : supply.Generous) (hb : b.WellFormed)
    {f : Frame σ α} :
    ends (concat a b supply f)
      = (decided .concat (growth a a.toList.length b.toList)).map fun r => (r.2, f.held) := by
  rw [concat_eq h hb, owning_ends]
  congr 1
  exact planned_ends hgenerous .concat _ _ fun _ => growth_fits

lemma ofList_ends (hgenerous : supply.Generous) (lower : Int64) (items : List α) {f : Frame σ α} :
    ends (ofList lower items supply f) = decided .ofList (placing f.held lower items) := by
  rw [ofList_eq, given_ends]
  refine carryOut_ends hgenerous .ofList fun p hp => ?_
  obtain ⟨hroom, rfl⟩ := placing_room hp
  exact List.forall_mem_singleton.2 hroom.fits

/-- Adding copies at a slot ends as the plan for the copies decides, if they go through. -/
lemma spliceCopies_ends (h : f.held.WellFormed) (hs : start ≤ f.held.toList.length)
    (hgenerous : supply.Generous) (hb : b.WellFormed)
    (hcopies : ∀ left, f.copiesLeft = some left → b.toList.length ≤ left) :
    ends (spliceCopies operation start b supply f)
      = decided operation (growth f.held start (b.toList.map Element.copy)) := by
  have hmap : (b.toList.map Element.copy).length = b.toList.length := List.length_map _
  rw [spliceCopies_eq h hs hb]
  by_cases hnone : b.toList.length = 0
  · rw [if_pos hnone, growth, if_pos (hmap.trans hnone)]
    rfl
  rw [if_neg hnone]
  by_cases hfits : f.held.toList.length + b.toList.length ≤ maxLength α
      ∧ f.held.upper.toInt + b.toList.length ≤ Position.greatest.toInt
  · obtain ⟨g, hcopy, -⟩ := copyAll_apply supply (f := f.asking supply b.toList.length)
      (s := b.slots) (by rwa [Frame.asking_copiesLeft, ← length_toList])
    rw [if_pos hfits, checked_ok, pure_bind, bind_apply,
      obtain_generous hgenerous operation hb.room.fits]
    dsimp only
    rw [bind_apply, hcopy]
    dsimp only
    rw [given_ends, Slots.toList_map]
    exact carryOut_ends hgenerous operation fun _ => growth_fits
  · rw [if_neg hfits, growth, hmap, if_neg hnone, if_neg hfits]
    rfl

/-- Copies at a position end as the plan for the copies decides, if they go through. -/
lemma insertionSlot_ends (h : f.held.WellFormed) (hgenerous : supply.Generous) (i : Int64)
    (hb : b.WellFormed) (hcopies : ∀ left, f.copiesLeft = some left → b.toList.length ≤ left) :
    ends ((do
        let start ← insertionSlot operation f.held i
        spliceCopies operation start b) supply f)
      = decided operation (insertion f.held i (b.toList.map Element.copy)) := by
  rw [insertionSlot_eq h, insertion]
  split_ifs with hin
  · rw [checked_ok, pure_bind]
    exact spliceCopies_ends h hin.2 hgenerous hb hcopies
  · rfl

lemma insertCopy_ends (h : f.held.WellFormed) (hgenerous : supply.Generous) (i : Int64)
    (hb : b.WellFormed) (hcopies : ∀ left, f.copiesLeft = some left → b.toList.length ≤ left) :
    ends (insertCopy i b supply f)
      = decided .insertCopy (insertion f.held i (b.toList.map Element.copy)) := by
  rw [insertCopy, held_bind, trace_bind]
  exact insertionSlot_ends (f := f.leaving _) h hgenerous i hb hcopies

lemma insertSelf_ends (h : f.held.WellFormed) (hgenerous : supply.Generous) (i : Int64)
    (hcopies : ∀ left, f.copiesLeft = some left → f.held.toList.length ≤ left) :
    ends (insertSelf i supply f)
      = decided .insertSelf (insertion f.held i (f.held.toList.map Element.copy)) := by
  rw [insertSelf, held_bind, trace_bind]
  exact insertionSlot_ends (f := f.leaving _) h hgenerous i h hcopies

/-- A copy of a whole array holds copies of its elements, if they go through. -/
lemma copy_ends (h : a.WellFormed) (hgenerous : supply.Generous) {f : Frame σ α}
    (hcopies : ∀ left, f.copiesLeft = some left → a.toList.length ≤ left) :
    ends (copy a supply f) = .ok (laid a.lower (a.toList.map Element.copy), f.held) := by
  obtain ⟨g, hcopy, hheld, -⟩ := copyAll_apply supply (f := f.asking supply a.toList.length)
    (s := a.slots) (by rwa [Frame.asking_copiesLeft, ← length_toList])
  have hrun : copySlots .copy a 0 a.length a.lower supply f = (.ok (a.map Element.copy), g) := by
    rw [h.length_eq', copySlots_whole h, bind_apply,
      obtain_generous hgenerous .copy h.room.fits]
    dsimp only
    rw [bind_apply, hcopy]
    rfl
  rw [copy, hrun, h.laid_map]
  rw [Frame.asking_held] at hheld
  exact ends_ok_iff.2 ⟨rfl, hheld⟩

/-! ### Removing -/

lemma remove_ends (h : f.held.WellFormed) (hgenerous : supply.Generous) (i : Int64) :
    ends (remove i supply f)
      = decided .remove (removal f.held i (f.held.toList.eraseIdx (slotOf f.held.lower i))) := by
  rw [remove_eq h]
  exact carryOut_ends (f := f.leaving _) hgenerous .remove fun _ => removal_fits h

lemma removeRun_ends (h : f.held.WellFormed) (hgenerous : supply.Generous) (i n : Int64) :
    ends (removeRun i n supply f) = decided .removeRun (runRemoval f.held i n) := by
  rw [removeRun_eq h]
  exact carryOut_ends (f := f.leaving _) hgenerous .removeRun fun _ => runRemoval_fits h

end Anchored

end AnchoredArrays
