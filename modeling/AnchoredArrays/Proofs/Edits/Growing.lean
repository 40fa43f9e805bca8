import AnchoredArrays.Proofs.Call.Granted
import AnchoredArrays.Proofs.Anchored.Contents
import AnchoredArrays.Proofs.Anchored.Growth
import AnchoredArrays.Proofs.Session.Registers

/-!
Growing calls on any supply: exactly when they fail, and what they leave. All of them obey one law,
which says what becomes of elements that are to be added at a position; adding at the end is adding
at the position after the last one.

* `Splices`, `Grows`: the law, at a slot and at a position;
* `growth_splices`, `spliceCopies_splices`: **adding elements**, and copies of elements, obeys the
  law at a slot;
* `carryOut_grows`, `copies_grow`, `owning_grows`: so do the calls that find the slot first, and
  those on an array of their own;
* `insertCopy_keeps`: copies leave the array that they are made of where it is;
* `growths`: **the eight growing calls** obey the law.
-/

namespace AnchoredArrays.Anchored

open Element Call

variable {α σ : Type} [Element α] {supply : Supply} {operation : Operation} {a b : Anchored α}
  {f : Frame (Anchored α) α} {start : Nat} {p : Int} {added copied : List α}

/-! ### The law -/

/-- What is promised of a call that adds elements at a slot: nothing happens if there are none. It
fails for want of memory exactly if the length or the upper bound cannot be represented, or if a
request of the call is refused; and it breaks off exactly if its copies do not all go through.
Otherwise the elements are in the array from the slot on, and `copied` were copied once each. -/
def Splices (a : Anchored α) (supply : Supply) (operation : Operation) (start : Nat)
    (added copied : List α) (out : Except Halt (Anchored α) × Tally α) : Prop :=
  if added.length = 0 then
    out.1 = .ok a
  else if maxLength α < a.toList.length + added.length
      ∨ Position.greatest.toInt < a.upper.toInt + added.length
      ∨ ∃ r ∈ out.2.requests, r.granted = false then
    Fails out.1 .memory operation .noMemory
  else if ¬ supply.Lets copied.length then
    out.1 = .error (.panic .copiesExhausted)
  else
    ∃ b, out.1 = .ok b
      ∧ b.Holds a.lower.toInt (a.toList.take start ++ added ++ a.toList.drop start)
      ∧ out.2.copied.toList = copied

/-- What is promised of a call that adds elements at a position: it has to be that of an element or
the one after the last. -/
@[irreducible]
def Grows (a : Anchored α) (supply : Supply) (operation : Operation) (p : Int)
    (added copied : List α) (out : Except Halt (Anchored α) × Tally α) : Prop :=
  if p < a.lower.toInt ∨ a.upper.toInt + 1 < p then
    Fails out.1 .index operation .noInsertionPoint
  else
    Splices a supply operation (p - a.lower.toInt).toNat added copied out

/-- The array that a call in place leaves if it goes through, and what it did. -/
def ended (out : Except Halt Unit × Frame (Anchored α) α) : Except Halt (Anchored α) × Tally α :=
  (out.1.map fun _ => out.2.held, out.2.tally)

/-! ### Adding at a slot -/

/-- What the law promises where there are elements to be added and the result can be represented. -/
lemma splices_iff (hnew : added.length ≠ 0) (hlength : a.toList.length + added.length ≤ maxLength α)
    (hupper : a.upper.toInt + added.length ≤ Position.greatest.toInt)
    {out : Except Halt (Anchored α) × Tally α} :
    Splices a supply operation start added copied out
      ↔ if ∃ r ∈ out.2.requests, r.granted = false then Fails out.1 .memory operation .noMemory
        else if ¬ supply.Lets copied.length then out.1 = .error (.panic .copiesExhausted)
        else ∃ b, out.1 = .ok b
          ∧ b.Holds a.lower.toInt (a.toList.take start ++ added ++ a.toList.drop start)
          ∧ out.2.copied.toList = copied := by
  have hrefused : (maxLength α < a.toList.length + added.length
      ∨ Position.greatest.toInt < a.upper.toInt + added.length
      ∨ ∃ r ∈ out.2.requests, r.granted = false) ↔ ∃ r ∈ out.2.requests, r.granted = false := by
    refine ⟨fun hmemory => ?_, fun h => .inr (.inr h)⟩
    obtain h | h | h := hmemory
    · omega
    · omega
    · exact h
  rw [Splices, if_neg hnew, if_congr hrefused rfl rfl]

/-- A call fails for want of memory if the result cannot be represented. -/
lemma splices_fail (hnew : added.length ≠ 0)
    (hfits : ¬ (a.toList.length + added.length ≤ maxLength α
      ∧ a.upper.toInt + added.length ≤ Position.greatest.toInt)) :
    Splices a supply operation start added copied
      (ended ((fail operation .noMemory : Call (Anchored α) α Unit) supply f)) := by
  rw [Splices, if_neg hnew, if_pos (by omega)]
  exact ⟨rfl, rfl⟩

/-- A refused request is the latest one or an earlier one. -/
lemma asking_refused (supply : Supply) {f : Frame σ α} {n : Nat} (hn : n ≤ maxLength α)
    (hnone : ¬ ∃ r ∈ f.tally.requests, r.granted = false) :
    (∃ r ∈ (f.asking supply n).tally.requests, r.granted = false) ↔ f.grants supply n = false := by
  rw [Frame.asking]
  split_ifs with hbytes
  · have hzero : n * size α = 0 := hbytes.resolve_left (Nat.not_lt.2 hn)
    simp [hnone, Frame.grants, hn, hzero]
  · simp only [List.mem_append, or_and_right, exists_or, hnone, false_or]
    simp

/-- **Adding elements** carries out a plan that obeys the law, whatever was copied before. -/
lemma growth_splices (h : f.held.WellFormed) (hcopied : f.tally.copied.toList = copied)
    (hlets : supply.Lets copied.length)
    (hnone : ¬ ∃ r ∈ f.tally.requests, r.granted = false) :
    Splices f.held supply operation start added copied
      (ended (carryOut operation (growth f.held start added) supply f)) := by
  rw [growth]
  by_cases hnew : added.length = 0
  · rw [Splices, if_pos hnew, if_pos hnew]
    rfl
  rw [if_neg hnew]
  by_cases hfits : f.held.toList.length + added.length ≤ maxLength α
      ∧ f.held.upper.toInt + added.length ≤ Position.greatest.toInt
  · rw [if_pos hfits, splices_iff hnew hfits.1 hfits.2, carryOut_cons, bind_apply, obtain_apply]
    have hrefused := asking_refused supply hfits.1 hnone
    by_cases hgrant : f.grants supply (f.held.toList.length + added.length) = true
    · rw [if_pos hgrant]
      rw [if_neg, if_neg (not_not.2 hlets)]
      · refine ⟨_, rfl, laid_holds ?_, ?_⟩
        · rw [length_spliced]
          exact h.room_grown hfits.1 hfits.2
        · exact (congrArg Slots.toList (f.asking_copied _)).trans hcopied
      · exact fun hr => absurd hgrant (Bool.eq_false_iff.1 (hrefused.1 hr))
    · rw [if_neg hgrant, if_pos]
      · exact ⟨rfl, rfl⟩
      · exact hrefused.2 (Bool.eq_false_iff.2 hgrant)
  · rw [if_neg hfits, carryOut_error]
    exact splices_fail hnew hfits

/-- Elements given to a call make no difference to what it leaves. -/
lemma given_splices {s : Slots α} {c : Call (Anchored α) α Unit}
    (hc : Splices a supply operation start added copied (ended (c supply f))) :
    Splices a supply operation start added copied (ended (given s c supply f)) := by
  obtain ⟨dropped, hgiven⟩ := given_apply supply f s c
  rw [hgiven]
  exact hc

/-- Once there is a buffer for them, the copies of the elements of an array are made and added; they
are dropped if they find no place. -/
lemma copies_splice (hheld : f.held = a) (h : a.WellFormed) (hnew : b.toList.length ≠ 0)
    (hlength : a.toList.length + b.toList.length ≤ maxLength α)
    (hupper : a.upper.toInt + b.toList.length ≤ Position.greatest.toInt)
    (hcopied : f.tally.copied = .nil) (hcopies : f.copiesLeft = supply.copies)
    (hnone : ¬ ∃ r ∈ f.tally.requests, r.granted = false) :
    Splices a supply operation start (b.toList.map Element.copy) b.toList
      (ended ((do
        let copies ← copyAll b.slots
        given copies (carryOut operation (growth a start copies.toList))
        : Call (Anchored α) α Unit) supply f)) := by
  have hmap : (b.toList.map Element.copy).length = b.toList.length := List.length_map _
  have hlets : supply.Lets b.toList.length ↔ ∀ left, f.copiesLeft = some left →
      b.slots.length ≤ left := by
    rw [hcopies, ← length_toList]
    rfl
  subst hheld
  rw [bind_apply]
  by_cases hlets' : supply.Lets b.toList.length
  · obtain ⟨g, hcopy, hheld, hrequests, hall⟩ := copyAll_apply supply (hlets.1 hlets')
    rw [hcopy]
    refine given_splices ?_
    rw [Slots.toList_map, ← hheld]
    refine growth_splices (hheld ▸ h) ?_ hlets' (hrequests ▸ hnone)
    rw [hall, hcopied, Slots.toList_append, Slots.toList_nil, List.append_nil]
    rfl
  · obtain ⟨g, hcopy, hrequests⟩ := copyAll_exhausted supply (mt hlets.2 hlets')
    rw [hcopy, splices_iff (hmap ▸ hnew) (hmap ▸ hlength) (hmap ▸ hupper), if_neg, if_pos hlets']
    · rfl
    · rwa [ended, hrequests]

/-- **Adding copies** of the elements of an array obeys the law. -/
lemma spliceCopies_splices (h : f.held.WellFormed) (hs : start ≤ f.held.toList.length)
    (hb : b.WellFormed) (hcopied : f.tally.copied = .nil) (hcopies : f.copiesLeft = supply.copies)
    (hnone : ¬ ∃ r ∈ f.tally.requests, r.granted = false) :
    Splices f.held supply operation start (b.toList.map Element.copy) b.toList
      (ended (spliceCopies operation start b supply f)) := by
  have hmap : (b.toList.map Element.copy).length = b.toList.length := List.length_map _
  rw [spliceCopies_eq h hs hb]
  by_cases hnew : b.toList.length = 0
  · rw [if_pos hnew, Splices, if_pos (hmap.trans hnew)]
    rfl
  rw [if_neg hnew]
  by_cases hfits : f.held.toList.length + b.toList.length ≤ maxLength α
      ∧ f.held.upper.toInt + b.toList.length ≤ Position.greatest.toInt
  · rw [if_pos hfits, checked_ok, pure_bind, bind_apply, obtain_apply]
    have hrefused := asking_refused supply hb.room.fits hnone
    by_cases hgrant : f.grants supply b.toList.length = true
    · have hnone' : ¬ ∃ r ∈ (f.asking supply b.toList.length).tally.requests, r.granted = false :=
        fun hr => absurd hgrant (Bool.eq_false_iff.1 (hrefused.1 hr))
      rw [if_pos hgrant]
      exact copies_splice (f.asking_held _) h hnew hfits.1 hfits.2
        ((f.asking_copied _).trans hcopied) ((f.asking_copiesLeft _).trans hcopies) hnone'
    · rw [if_neg hgrant, splices_iff (hmap ▸ hnew) (hmap ▸ hfits.1) (hmap ▸ hfits.2), if_pos]
      · exact ⟨rfl, rfl⟩
      · exact hrefused.2 (Bool.eq_false_iff.2 hgrant)
  · rw [if_neg hfits, checked_error, fail_bind]
    exact splices_fail (hmap ▸ hnew) (hmap ▸ hfits)

/-! ### Adding at a position -/

/-- Something can be inserted at a position that is not too low and not too high. -/
lemma WellFormed.insertable_iff (h : a.WellFormed) (i : Int64) :
    a.lower.toInt ≤ i.toInt ∧ slotOf a.lower i ≤ a.toList.length
      ↔ ¬ (i.toInt < a.lower.toInt ∨ a.upper.toInt + 1 < i.toInt) := by
  have hu := h.toInt_upper
  simp only [slotOf]
  omega

/-- The plan for a position, by the bounds of the array. -/
lemma insertion_eq (h : a.WellFormed) (i : Int64) (new : List α) :
    insertion a i new
      = if i.toInt < a.lower.toInt ∨ a.upper.toInt + 1 < i.toInt then .error .noInsertionPoint
        else growth a (i.toInt - a.lower.toInt).toNat new := by
  rw [insertion, if_congr (h.insertable_iff i) rfl rfl, ite_not]
  rfl

/-- Adding at the end is adding at the position after the last one. -/
lemma growth_end (h : a.WellFormed) (new : List α) :
    growth a a.toList.length new
      = if a.upper.toInt + 1 < a.lower.toInt ∨ a.upper.toInt + 1 < a.upper.toInt + 1 then
          .error .noInsertionPoint
        else growth a (a.upper.toInt + 1 - a.lower.toInt).toNat new := by
  have hu := h.toInt_upper
  rw [if_neg (by omega)]
  congr 1
  omega

/-- Elements given to a call make no difference to what it leaves. -/
lemma given_grows {s : Slots α} {c : Call (Anchored α) α Unit}
    (hc : Grows a supply operation p added copied (ended (c supply f))) :
    Grows a supply operation p added copied (ended (given s c supply f)) := by
  obtain ⟨dropped, hgiven⟩ := given_apply supply f s c
  rw [Grows] at hc ⊢
  rw [hgiven]
  exact hc

/-- Adding elements that the call was given, after its record was left, obeys the law. -/
lemma carryOut_grows (h : a.WellFormed) {plan : Except Reason (Plan (Anchored α) Unit)}
    (hplan : plan = if p < a.lower.toInt ∨ a.upper.toInt + 1 < p then .error .noInsertionPoint
      else growth a (p - a.lower.toInt).toNat added) {c : Call (Anchored α) α Unit} {s : Slots α}
    {arguments : List Argument}
    (hc : c supply ⟨a, supply.copies, .blank⟩ = given s (do
      trace operation arguments
      carryOut operation plan) supply ⟨a, supply.copies, .blank⟩) :
    Grows a supply operation p added [] (ended (c.run supply a)) := by
  rw [Call.run, hc]
  refine given_grows ?_
  rw [hplan, Grows]
  split_ifs with hout
  · exact ⟨rfl, rfl⟩
  · exact growth_splices (f := Frame.leaving ⟨a, _, .blank⟩ _) h Slots.toList_nil
      (fun left _ => Nat.zero_le left) fun ⟨r, hr, _⟩ => nomatch hr

/-- Adding copies, after a record was left, obeys the law. -/
lemma copies_grow (h : a.WellFormed) (hb : b.WellFormed) (i : Int64) (r : Record) :
    Grows a supply operation i.toInt (b.toList.map Element.copy) b.toList
      (ended ((do
        let start ← insertionSlot operation a i
        spliceCopies operation start b) supply (Frame.leaving ⟨a, supply.copies, .blank⟩ r))) := by
  rw [insertionSlot_eq h, if_congr (h.insertable_iff i) rfl rfl, ite_not, Grows]
  split_ifs with hout
  · exact ⟨rfl, rfl⟩
  · rw [checked_ok, pure_bind]
    exact spliceCopies_splices (f := Frame.leaving ⟨a, supply.copies, .blank⟩ r) h
      ((h.insertable_iff i).2 hout).2 hb rfl rfl fun ⟨r, hr, _⟩ => nomatch hr

/-- Growing an array that is used up obeys the law that growing it in place does. -/
lemma owning_grows {c : Call (Anchored α) α Unit} {d : Call σ α (Anchored α)} {held : σ}
    (hd : d supply ⟨held, supply.copies, .blank⟩
      = owning a c supply ⟨held, supply.copies, .blank⟩)
    (hc : Grows a supply operation p added copied (ended (c.run supply a))) :
    Grows a supply operation p added copied ((d.run supply held).map id Frame.tally) := by
  rw [Grows, Call.run] at *
  rw [hd, owning, bind_apply, on]
  dsimp only
  rcases hrun : c supply ⟨a, supply.copies, .blank⟩ with ⟨e | ⟨⟩, g⟩
  · obtain ⟨dropped, hgiven⟩ := given_apply supply { g with held := held }
      g.held.slots (halt e : Call σ α (Anchored α))
    rw [hrun] at hc
    dsimp only
    rw [hgiven]
    exact hc
  · rw [hrun] at hc
    exact hc

/-- Inserting copies leaves the array that they are made of in its register. -/
lemma insertCopy_keeps (s : Session α) {name source : Session.Name} (hne : source ≠ name)
    (i : Int64) (into : Option Session.Name) (supply : Supply) :
    (s.step ⟨.join name source (.insertCopy i), into, supply⟩).1.find? source = s.find? source := by
  have hput : ∀ x : Anchored α, (s.put name x).find? source = s.find? source := fun x => by
    rw [Session.find?_put, if_neg hne]
  rw [Session.step]
  simp only [Session.Joining.consumes, Bool.false_eq_true, if_false]
  cases hsource : s.find? source with
  | none => exact hsource
  | some y =>
    cases s.find? name with
    | none => exact hsource
    | some x =>
      dsimp only
      rw [Session.outcomeOn]
      rcases (Session.Joining.call y (.insertCopy i)).run supply x with ⟨e | r, f⟩
      · exact (hput f.held).trans hsource
      · refine Eq.trans ?_ ((hput f.held).trans hsource)
        cases into <;> rfl

/-- **Growing calls**, for all arrays, elements and positions and on any supply. Elements that are
moved in are added themselves; of elements that are copied, one copy each, and the array they are in
stays as it is. -/
theorem growths (h : a.WellFormed) (hb : b.WellFormed) (x : α) (i : Int64) (supply : Supply)
    (held : σ) :
    Grows a supply .push (a.upper.toInt + 1) [x] [] (ended ((push x).run supply a))
      ∧ Grows a supply .extend (a.upper.toInt + 1) [x] []
        (((a.extend x).run supply held).map id Frame.tally)
      ∧ Grows a supply .append (a.upper.toInt + 1) b.toList [] (ended ((append b).run supply a))
      ∧ Grows a supply .concat (a.upper.toInt + 1) b.toList []
        (((a.concat b).run supply held).map id Frame.tally)
      ∧ Grows a supply .insert i.toInt [x] [] (ended ((insert i x).run supply a))
      ∧ Grows a supply .insertMoved i.toInt b.toList [] (ended ((insertMoved i b).run supply a))
      ∧ Grows a supply .insertCopy i.toInt (b.toList.map Element.copy) b.toList
        (ended ((insertCopy i b).run supply a))
      ∧ Grows a supply .insertSelf i.toInt (a.toList.map Element.copy) a.toList
        (ended ((insertSelf i).run supply a))
      ∧ ∀ (s : Session α) (name source : Session.Name) (into : Option Session.Name),
        source ≠ name →
          (s.step ⟨.join name source (.insertCopy i), into, supply⟩).1.find? source
            = s.find? source := by
  refine ⟨?_, ?_, ?_, ?_, ?_, ?_, ?_, ?_, ?_⟩
  · exact carryOut_grows h (growth_end h [x]) (push_eq (f := ⟨a, _, _⟩) h x)
  · exact owning_grows (extend_eq h x _) (carryOut_grows h (growth_end h [x]) rfl)
  · exact carryOut_grows h (growth_end h b.toList) (append_eq (f := ⟨a, _, _⟩) h hb)
  · exact owning_grows (concat_eq h hb _) (carryOut_grows h (growth_end h b.toList) rfl)
  · exact carryOut_grows h (insertion_eq h i [x]) (insert_eq (f := ⟨a, _, _⟩) h i x)
  · exact carryOut_grows h (insertion_eq h i b.toList) (insertMoved_eq (f := ⟨a, _, _⟩) h i hb)
  · exact copies_grow h hb i _
  · exact copies_grow h h i _
  · exact fun s name source into hne => insertCopy_keeps s hne i into supply

/-- Where nothing stands in the way, the elements are added. -/
lemma Grows.ok {out : Except Halt (Anchored α) × Tally α}
    (hg : Grows a supply operation p added copied out)
    (hin : ¬ (p < a.lower.toInt ∨ a.upper.toInt + 1 < p)) (hnew : added.length ≠ 0)
    (hfits : a.toList.length + added.length ≤ maxLength α
      ∧ a.upper.toInt + added.length ≤ Position.greatest.toInt)
    (hgranted : ¬ ∃ r ∈ out.2.requests, r.granted = false) (hlets : supply.Lets copied.length) :
    ∃ b, out.1 = .ok b
      ∧ b.Holds a.lower.toInt (a.toList.take (p - a.lower.toInt).toNat ++ added
        ++ a.toList.drop (p - a.lower.toInt).toNat)
      ∧ out.2.copied.toList = copied := by
  rw [Grows, if_neg hin, splices_iff hnew hfits.1 hfits.2, if_neg hgranted,
    if_neg (not_not.2 hlets)] at hg
  exact hg

/-- Copies of three values are inserted between them. -/
theorem growths_lowest :
    lowestThree.WellFormed
      ∧ ∃ c, (ended ((insertSelf (Position.least + 1)).run .ample lowestThree)).1 = .ok c
        ∧ c.Holds Position.least.toInt
          [⟨10, 0⟩, ⟨10, 1⟩, ⟨20, 1⟩, ⟨30, 1⟩, ⟨20, 0⟩, ⟨30, 0⟩]
        ∧ (ended ((insertSelf (Position.least + 1)).run .ample lowestThree)).2.copied.toList
          = [⟨10, 0⟩, ⟨20, 0⟩, ⟨30, 0⟩] := by
  obtain ⟨-, -, -, -, -, -, -, hself, -⟩ := growths lowestThree_wellFormed lowestThree_wellFormed
    ⟨40, 0⟩ (Position.least + 1) .ample ()
  obtain ⟨c, hc, hholds, hcopied⟩ := hself.ok (by decide) (by decide) (by decide) (by decide)
    (Supply.ample_lets _)
  exact ⟨lowestThree_wellFormed, c, hc, hholds, hcopied⟩

end AnchoredArrays.Anchored
