import AnchoredArrays.Proofs.Edits.Outcomes
import AnchoredArrays.Proofs.Session.Calls
import AnchoredArrays.Proofs.Slices.Moved

/-!
Cutting and splicing undo each other on a generous supply. What was removed can be inserted where it
was, also if it was everything and at either end of the positions; and what was inserted can be
removed.

* `split_between`: the elements at a range of positions, and those around them;
* `insertion_restores`: **what was taken from between others** is put back;
* `moved_restores`: so is what a moving slice took;
* `removal_restores`, `runRemoval_restores`: **what was added between others** is taken again;
* `inverse_edits`: **cutting and splicing** are mutually inverse.
-/

namespace AnchoredArrays.Anchored

open Element Call Session

variable {α : Type} [Element α] {supply supply' : Supply} {a : Anchored α} {i : Int64}

/-! ### Cut, then splice -/

/-- **What was taken from between others** and is inserted there restores the array. -/
lemma insertion_restores (h : a.WellFormed) {xs mid ys : List α}
    (hitems : a.toList = xs ++ mid ++ ys) (hi : i.toInt = a.lower.toInt + xs.length)
    (hrest : (laid a.lower (xs ++ ys)).WellFormed) (operation : Operation) :
    decided operation (insertion (laid a.lower (xs ++ ys)) i mid) = .ok ((), a) := by
  have hroom : Room α a.lower (xs ++ mid ++ ys).length := hitems ▸ h.room
  rw [decided_ok_iff, h.eq_laid, hitems]
  exact insertion_of_room hrest hi hroom

/-- The elements at a range of positions split the array. -/
lemma split_between {first last : Int} (hlow : a.lower.toInt ≤ first)
    (hsome : a.between first last ≠ []) :
    ∃ xs ys, a.toList = xs ++ a.between first last ++ ys ∧ a.outside first last = xs ++ ys
      ∧ first = a.lower.toInt + xs.length := by
  have hle : first ≤ last := Int.not_lt.1 (mt between_of_lt hsome)
  have hslot : (first - a.lower.toInt).toNat < a.toList.length := by
    by_contra hbehind
    rw [between, List.drop_eq_nil_of_le (Nat.not_lt.1 hbehind), List.take_nil] at hsome
    exact hsome rfl
  have hend : (last - a.lower.toInt + 1).toNat
      = (first - a.lower.toInt).toNat + (last - first + 1).toNat := by omega
  refine ⟨_, _, ?_, rfl, ?_⟩
  · rw [between, hend]
    exact split_run a.toList _ _
  · rw [List.length_take_of_le (Nat.le_of_lt hslot)]
    omega

/-- What a range or a run took from an array in a slot is put back. -/
lemma moved_restores (h : a.WellFormed) (hgenerous : supply.Generous)
    (hgenerous' : supply'.Generous) (selection : Selection)
    (hplace : ∀ t, selection.target a = .ok t →
      t.first = i.toInt ∧ a.lower.toInt ≤ i.toInt)
    (hanchor : selection.restAnchor a = a.lower.toInt) {r rest : Anchored α}
    (hmoved : ends (selection.moved.run supply (some a)) = .ok (r, some rest))
    (hsome : r.toList ≠ []) :
    ends ((insertMoved i r).run supply' rest) = .ok ((), a) := by
  obtain ⟨hr, hslot⟩ := ends_ok_iff.1 hmoved
  have hrun : selection.moved supply ⟨some a, supply.copies, .blank⟩
      = (.ok r, (selection.moved.run supply (some a)).2) := Prod.ext hr rfl
  have hwell := (selection.moved_allOrNothing (by rintro _ ⟨⟩; exact h)).post_of_ok hrun
  have hmoving := selection.moved_run h hgenerous
  cases htarget : selection.target a with
  | error reason =>
    rw [htarget] at hmoving
    have hfails := hmoving.1.1.1
    rw [hr] at hfails
    cases hfails
  | ok t =>
    rw [htarget] at hmoving
    obtain ⟨b, hb, hleaves, -⟩ := hmoving
    obtain rfl : b = r := Except.ok.inj (hb.symm.trans hr)
    obtain ⟨hfirst, hlow⟩ := hplace t htarget
    rw [← hfirst] at hlow
    have hitems := hleaves.taken.toList
    rw [hitems] at hsome
    have hrest := hleaves.kept rest hslot hsome
    rw [hanchor] at hrest
    obtain ⟨xs, ys, hsplit, houtside, hstart⟩ := split_between hlow hsome
    have hrestWell : rest.WellFormed := hwell.2 rest hslot
    have hlaid : rest = laid a.lower (xs ++ ys) := by
      rw [hrestWell.eq_laid, Int64.toInt_inj.1 hrest.lower, hrest.toList, houtside]
    rw [Call.run, insertMoved_ends hrestWell hgenerous' i hwell.1, hitems]
    dsimp only
    rw [hlaid] at hrestWell ⊢
    exact insertion_restores h hsplit (hfirst ▸ hstart) hrestWell .insertMoved

/-- A run that was removed is put back. -/
lemma removeRun_undone (h : a.WellFormed) (hgenerous : supply.Generous)
    (hgenerous' : supply'.Generous) {n : Int64} {cut rest : Anchored α}
    (hcut : ends ((removeRun i n).run supply a) = .ok (cut, rest)) :
    ends ((insertMoved i cut).run supply' rest) = .ok ((), a) := by
  rw [Call.run, removeRun_ends h hgenerous, decided_ok_iff] at hcut
  obtain ⟨buffers, hplan⟩ := hcut
  obtain ⟨hcut, hrest⟩ := runRemoval_wellFormed h hplan
  obtain ⟨xs, mid, ys, hitems, hi, -, hafter, hresult⟩ := runRemoval_parts h hplan
  dsimp only at hcut hrest hafter hresult
  subst hafter hresult
  rw [Call.run, insertMoved_ends hrest hgenerous' i hcut, laid_toList]
  exact insertion_restores h hitems hi hrest .insertMoved

/-- An element that was removed is put back. -/
lemma remove_undone (h : a.WellFormed) (hgenerous : supply.Generous)
    (hgenerous' : supply'.Generous) {x : α} {rest : Anchored α}
    (hcut : ends ((remove i).run supply a) = .ok (x, rest)) :
    ends ((insert i x).run supply' rest) = .ok ((), a) := by
  rw [Call.run, remove_ends h hgenerous, decided_ok_iff] at hcut
  obtain ⟨buffers, hplan⟩ := hcut
  have hrest := removal_wellFormed h hplan fun hslot => List.length_eraseIdx_of_lt hslot
  obtain ⟨xs, ys, hitems, hi, hafter⟩ := removal_parts h hplan
  dsimp only at hitems hrest hafter
  subst hafter
  rw [Call.run, insert_ends hrest hgenerous']
  exact insertion_restores h hitems hi hrest .insert

/-! ### Splice, then cut -/

section

variable {xs ys new : List α} {x : α}

/-- **What was added between others** and is removed leaves the array that it was added to. -/
lemma removal_restores (h : a.WellFormed) (hitems : a.toList = xs ++ ys)
    (hroom : Room α a.lower (xs ++ [x] ++ ys).length)
    (hi : i.toInt = a.lower.toInt + xs.length) (hgenerous : supply.Generous) :
    ends ((remove i).run supply (laid a.lower (xs ++ [x] ++ ys))) = .ok (x, a) := by
  have hrest : Room α a.lower (xs ++ ys).length := hitems ▸ h.room
  obtain ⟨buffers, hremoval⟩ := removal_of_room hroom.wellFormed hi hrest
  rw [Call.run, remove_ends hroom.wellFormed hgenerous]
  dsimp only
  rw [laid_toList, laid_lower, hremoval, ← hitems, ← h.eq_laid]
  rfl

/-- Elements that were added between others and are removed again leave the array that they were
added to. -/
lemma runRemoval_restores (h : a.WellFormed) (hitems : a.toList = xs ++ ys)
    (hroom : Room α a.lower (xs ++ new ++ ys).length)
    (hi : i.toInt = a.lower.toInt + xs.length) {n : Int64} (hn : n.toInt = new.length)
    (hsome : new ≠ []) (hgenerous : supply.Generous) :
    ends ((removeRun i n).run supply (laid a.lower (xs ++ new ++ ys)))
      = .ok (laid a.lower new, a) := by
  have hrest : Room α a.lower (xs ++ ys).length := hitems ▸ h.room
  obtain ⟨buffers, hremoval⟩ := runRemoval_of_room hroom.wellFormed hi hn hsome hrest
  rw [Call.run, removeRun_ends hroom.wellFormed hgenerous]
  dsimp only
  rw [hremoval, ← hitems, ← h.eq_laid]
  rfl

end

/-- An array that was inserted is removed again. -/
lemma insertMoved_undone (h : a.WellFormed) (hgenerous : supply.Generous)
    (hgenerous' : supply'.Generous) {b c : Anchored α} (hb : b.WellFormed) (hsome : b.toList ≠ [])
    (hspliced : ends ((insertMoved i b).run supply a) = .ok ((), c)) :
    ∃ cut, ends ((removeRun i (Int64.ofNat b.toList.length)).run supply' c) = .ok (cut, a)
      ∧ cut.Holds a.lower.toInt b.toList := by
  rw [Call.run, insertMoved_ends h hgenerous i hb, decided_ok_iff] at hspliced
  obtain ⟨buffers, hplan⟩ := hspliced
  obtain ⟨xs, ys, hitems, hi, hroom, hafter⟩ := insertion_parts h hplan
  dsimp only at hafter
  subst hafter
  have hpos := List.length_pos_iff.2 hsome
  have hcut : Room α a.lower b.toList.length := by
    refine hroom.of_le ?_ fun hz => absurd hz (Nat.ne_of_gt hpos)
    simp only [List.length_append]
    omega
  have hn : (Int64.ofNat b.toList.length).toInt = b.toList.length := by
    refine Int64.toInt_ofNat_of_lt (Nat.lt_of_le_of_lt hcut.fits ?_)
    exact Nat.lt_of_le_of_lt (maxLength_le α) (by decide)
  exact ⟨_, runRemoval_restores h hitems hroom hi hn hsome hgenerous', laid_holds hcut⟩

/-- An element that was inserted is removed again. -/
lemma insert_undone (h : a.WellFormed) (hgenerous : supply.Generous)
    (hgenerous' : supply'.Generous) {x : α} {c : Anchored α}
    (hspliced : ends ((insert i x).run supply a) = .ok ((), c)) :
    ends ((remove i).run supply' c) = .ok (x, a) := by
  rw [Call.run, insert_ends h hgenerous, decided_ok_iff] at hspliced
  obtain ⟨buffers, hplan⟩ := hspliced
  obtain ⟨xs, ys, hitems, hi, hroom, hafter⟩ := insertion_parts h hplan
  dsimp only at hafter
  subst hafter
  exact removal_restores h hitems hroom hi hgenerous'

/-- An element that was pushed is removed again from the upper bound. -/
lemma push_undone (h : a.WellFormed) (hgenerous : supply.Generous)
    (hgenerous' : supply'.Generous) {x : α} {c : Anchored α}
    (hpushed : ends ((push x).run supply a) = .ok ((), c)) :
    ends ((remove c.upper).run supply' c) = .ok (x, a) := by
  rw [Call.run, push_ends h hgenerous, decided_ok_iff] at hpushed
  obtain ⟨buffers, hplan⟩ := hpushed
  obtain ⟨hroom, hafter⟩ := growth_parts h hplan
  rw [← length_spliced] at hroom
  dsimp only at hafter hroom
  rw [List.take_length, List.drop_length] at hafter hroom
  subst hafter
  have hupper : (laid a.lower (a.toList ++ [x] ++ [])).upper.toInt
      = a.lower.toInt + a.toList.length := by
    rw [(laid_holds hroom).upper, List.append_nil, List.length_append, List.length_singleton]
    omega
  exact removal_restores h (List.append_nil _).symm hroom hupper hgenerous'

/-! ### Both ways -/

/-- **Cutting and splicing** are mutually inverse on generous supplies. What was removed, as a run,
as an element, or by a moving slice that left something behind, and is inserted where it started,
restores the array exactly. What was inserted or pushed is removed from where it starts, in order,
and what is left is exactly the array that it was added to. -/
theorem inverse_edits (h : a.WellFormed) (hgenerous : supply.Generous)
    (hgenerous' : supply'.Generous) :
    (∀ i n cut rest, ends ((removeRun i n).run supply a) = .ok (cut, rest) →
        ends ((insertMoved i cut).run supply' rest) = .ok ((), a))
      ∧ (∀ i x rest, ends ((remove i).run supply a) = .ok (x, rest) →
        ends ((insert i x).run supply' rest) = .ok ((), a))
      ∧ (∀ start stop r rest,
        ends ((moveRange start stop).run supply (some a)) = .ok (r, some rest) → r.toList ≠ [] →
          ends ((insertMoved start r).run supply' rest) = .ok ((), a))
      ∧ (∀ start n r rest,
        ends ((moveRun start n).run supply (some a)) = .ok (r, some rest) → r.toList ≠ [] →
          ends ((insertMoved start r).run supply' rest) = .ok ((), a))
      ∧ (∀ i (b : Anchored α) c, b.WellFormed → b.toList ≠ [] →
        ends ((insertMoved i b).run supply a) = .ok ((), c) →
          ∃ cut, ends ((removeRun i (Int64.ofNat b.toList.length)).run supply' c) = .ok (cut, a)
            ∧ cut.Holds a.lower.toInt b.toList)
      ∧ (∀ i x c, ends ((insert i x).run supply a) = .ok ((), c) →
        ends ((remove i).run supply' c) = .ok (x, a))
      ∧ ∀ x c, ends ((push x).run supply a) = .ok ((), c) →
        ends ((remove c.upper).run supply' c) = .ok (x, a) := by
  refine ⟨fun i n cut rest => removeRun_undone h hgenerous hgenerous',
    fun i x rest => remove_undone h hgenerous hgenerous', ?_, ?_,
    fun i b c => insertMoved_undone h hgenerous hgenerous',
    fun i x c => insert_undone h hgenerous hgenerous',
    fun x c => push_undone h hgenerous hgenerous'⟩
  · intro start stop r rest
    refine moved_restores h hgenerous hgenerous' (.range start stop) (fun t ht => ?_) rfl
    rw [Selection.target] at ht
    split_ifs at ht with hlow
    cases ht
    exact ⟨rfl, Int.not_lt.1 hlow⟩
  · intro start n r rest
    refine moved_restores h hgenerous hgenerous' (.run start n) (fun t ht => ?_) rfl
    rw [Selection.target] at ht
    split_ifs at ht with hbad
    cases ht
    exact ⟨rfl, Int.not_lt.1 (not_or.1 hbad).1⟩

/-- The last two of three values are removed from the smallest position on, and put back. -/
theorem inverse_edits_lowest :
    lowestThree.WellFormed ∧ Supply.ample.Generous
      ∧ ∃ cut rest, ends ((removeRun (Position.least + 1) 5).run .ample lowestThree)
          = .ok (cut, rest) ∧ cut.toList = [⟨20, 0⟩, ⟨30, 0⟩]
        ∧ ends ((insertMoved (Position.least + 1) cut).run .ample rest)
          = .ok ((), lowestThree) := by
  obtain ⟨hrun, -⟩ := inverse_edits lowestThree_wellFormed Supply.ample_generous
    Supply.ample_generous
  have hcut : ends ((removeRun (Position.least + 1) 5).run .ample lowestThree)
      = .ok (laid Position.least [⟨20, 0⟩, ⟨30, 0⟩], laid Position.least [⟨10, 0⟩]) :=
    (removeRun_ends (f := ⟨lowestThree, _, .blank⟩) lowestThree_wellFormed
      Supply.ample_generous _ _).trans rfl
  exact ⟨lowestThree_wellFormed, Supply.ample_generous, _, _, hcut, rfl, hrun _ _ _ _ hcut⟩

end AnchoredArrays.Anchored
