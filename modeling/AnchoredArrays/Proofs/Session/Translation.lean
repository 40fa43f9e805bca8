import AnchoredArrays.Proofs.Anchored.Translated
import AnchoredArrays.Proofs.Slices.Moved

/-!
Calls on an array that was moved. If all positions that a call is given are moved by as much as the
array, it ends as before, with everything that it leaves moved along; only the lengths stay, and the
smallest position, where no array can be empty, is kept clear of.

* `Selection.Shifted`, `Change.Shifted`, `Joining.Shifted`: what is asked of the moved array;
* `Change.Adds`, `Joining.Adds`: how many elements a call is to add;
* `copied_agree`, `moved_agree`, `Change.call_agree`, `Joining.call_agree`: **each call** agrees
  with the one on the moved array;
* `translated_calls`: all of them, in terms of moving the elements to another anchor.
-/

namespace AnchoredArrays.Session

open Element Anchored Call

variable {α σ : Type} [Element α] {supply : Supply} {d : Int} {a a' b b' : Anchored α}

/-! ### What is asked -/

/-- The same selection, `d` positions further. -/
inductive Selection.Shifted (d : Int) : Selection → Selection → Prop where
  | head {stop stop' : Int64} (h : Anchored.Shifted d stop stop') :
    Shifted d (.head stop) (.head stop')
  | tail {start start' : Int64} (h : Anchored.Shifted d start start') :
    Shifted d (.tail start) (.tail start')
  | range {start start' stop stop' : Int64} (hstart : Anchored.Shifted d start start')
    (hstop : Anchored.Shifted d stop stop') : Shifted d (.range start stop) (.range start' stop')
  | run {start start' : Int64} (h : Anchored.Shifted d start start') (n : Int64) :
    Shifted d (.run start n) (.run start' n)

/-- The same change, `d` positions further. -/
inductive Change.Shifted (d : Int) : Change α → Change α → Prop where
  | push (x : α) : Shifted d (.push x) (.push x)
  | insert {i i' : Int64} (h : Anchored.Shifted d i i') (x : α) :
    Shifted d (.insert i x) (.insert i' x)
  | insertSelf {i i' : Int64} (h : Anchored.Shifted d i i') :
    Shifted d (.insertSelf i) (.insertSelf i')
  | remove {i i' : Int64} (h : Anchored.Shifted d i i') : Shifted d (.remove i) (.remove i')
  | swapRemove {i i' : Int64} (h : Anchored.Shifted d i i') :
    Shifted d (.swapRemove i) (.swapRemove i')
  | removeRun {i i' : Int64} (h : Anchored.Shifted d i i') (n : Int64) :
    Shifted d (.removeRun i n) (.removeRun i' n)

/-- The same joining, `d` positions further; the other array is not moved. -/
inductive Joining.Shifted (d : Int) : Joining → Joining → Prop where
  | append : Shifted d .append .append
  | insertCopy {i i' : Int64} (h : Anchored.Shifted d i i') :
    Shifted d (.insertCopy i) (.insertCopy i')
  | insertMoved {i i' : Int64} (h : Anchored.Shifted d i i') :
    Shifted d (.insertMoved i) (.insertMoved i')

/-- The change is to add `n` elements at a position where that is possible. -/
def Change.Adds (a : Anchored α) (n : Nat) : Change α → Prop
  | .push _ => n = 1
  | .insert i _ => a.Inserts i ∧ n = 1
  | .insertSelf i => a.Inserts i ∧ n = a.toList.length
  | _ => False

/-- The joining is to add the `n` elements of another array where that is possible. -/
def Joining.Adds (a other : Anchored α) (n : Nat) : Joining → Prop
  | .append => n = other.toList.length
  | .insertCopy i | .insertMoved i => a.Inserts i ∧ n = other.toList.length

/-- Results of the same kind, with the same element or related arrays. -/
inductive Result.Rel (R : Anchored α → Anchored α → Prop) : Result α → Result α → Prop where
  | nothing : Rel R .nothing .nothing
  | array {a a' : Anchored α} (h : R a a') : Rel R (.array a) (.array a')
  | taken (x : α) : Rel R (.taken x) (.taken x)

/-! ### Slices -/

namespace Selection.Shifted

variable {s s' : Selection}

lemma copyOperation_eq (hs : s.Shifted d s') : s'.copyOperation = s.copyOperation := by
  cases hs <;> rfl

lemma moveOperation_eq (hs : s.Shifted d s') : s'.moveOperation = s.moveOperation := by
  cases hs <;> rfl

lemma part_settle (hs : s.Shifted d s') (h : Translated d a a') :
    Settle (Part.Shifted d) (s.part a) (s'.part a') := by
  cases hs with
  | head hstop => exact headPart_settle h hstop
  | tail hstart => exact tailPart_settle h hstart
  | range hstart hstop => exact rangePart_settle h hstart hstop
  | run hstart n => exact runPart_settle h hstart

lemma movePlan_settle (hs : s.Shifted d s') (h : Clear d a a') :
    Settle (Plan.Alike (Translated d) (Option.Rel (Translated d))) (s.movePlan a)
      (s'.movePlan a') := by
  have hparts := hs.part_settle h.toTranslated
  cases hs with
  | head hstop => exact headMove_settle h hstop
  | tail hstart => exact tailMove_settle h hstart
  | range hstart hstop =>
    exact partMove_settle h hparts (fun _ => rangePart_within h.wellFormed)
      fun _ => rangePart_within h.wellFormed'
  | run hstart n =>
    exact partMove_settle h hparts (fun _ => runPart_within h.wellFormed)
      fun _ => runPart_within h.wellFormed'

/-- **Copying slices** agree. -/
lemma copied_agree (hs : s.Shifted d s') (h : Clear d a a') {S : σ → σ → Prop} {f f' : Frame σ α}
    (hheld : S f.held f'.held) (hbeside : f.Beside f') :
    Agree (Translated d) S (s.copied a supply f) (s'.copied a' supply f') := by
  have hparts := (hs.part_settle h.toTranslated).and (fun _ => s.part_within h.wellFormed)
    fun _ => s'.part_within h.wellFormed'
  rw [copied_eq h.wellFormed, copied_eq h.wellFormed', hs.copyOperation_eq]
  refine .trace hheld hbeside fun g g' hheld hbeside => ?_
  refine (Agree.checked s.copyOperation hparts hheld hbeside).bind ?_
  rintro p p' g g' ⟨hp, hwithin, hwithin'⟩ hheld hbeside
  exact copyPart_agree h hp hwithin hwithin' hheld hbeside

/-- **Moving slices** agree. -/
lemma moved_agree (hs : s.Shifted d s') (h : Clear d a a') {f f' : Frame (Option (Anchored α)) α}
    (hslot : f.held = some a) (hslot' : f'.held = some a') (hbeside : f.Beside f') :
    Agree (Translated d) (Option.Rel (Translated d)) (s.moved supply f) (s'.moved supply f') := by
  have hheld : Option.Rel (Translated d) f.held f'.held := by
    rw [hslot, hslot']
    exact .some h.toTranslated
  rw [moved_eq hslot h.wellFormed, moved_eq hslot' h.wellFormed', hs.moveOperation_eq]
  exact .trace hheld hbeside fun g g' hheld hbeside =>
    carryOut_agree s.moveOperation (hs.movePlan_settle h) hheld hbeside

end Selection.Shifted

/-! ### Changes -/

section

variable {f f' : Frame (Anchored α) α}

/-- **Changes** agree. -/
lemma Change.call_agree {c c' : Change α} (hc : c.Shifted d c') (h : Clear d f.held f'.held)
    (hlast : ∀ n, c.Adds f.held n → SameEnd f.held f'.held n) (hbeside : f.Beside f') :
    Agree (Result.Rel (Translated d)) (Translated d) (c.call supply f) (c'.call supply f') := by
  have hheld := h.toTranslated
  cases hc with
  | push x =>
    exact (push_agree x (hlast 1 rfl) hheld hbeside).bind fun _ _ _ _ _ => .ok .nothing
  | insert hi x =>
    exact (insert_agree hi x (fun hin => hlast 1 ⟨hin, rfl⟩) hheld hbeside).bind
      fun _ _ _ _ _ => .ok .nothing
  | insertSelf hi =>
    exact (insertSelf_agree hi (fun hin => hlast _ ⟨hin, rfl⟩) hheld hbeside).bind
      fun _ _ _ _ _ => .ok .nothing
  | remove hi =>
    refine (remove_agree hi h hbeside).bind ?_
    rintro x _ g g' rfl
    exact .ok (.taken x)
  | swapRemove hi =>
    refine (swapRemove_agree hi h hbeside).bind ?_
    rintro x _ g g' rfl
    exact .ok (.taken x)
  | removeRun hi n =>
    exact (removeRun_agree hi n h hbeside).bind fun _ _ _ _ hr => .ok (.array hr)

/-- **Joinings** agree. -/
lemma Joining.call_agree {j j' : Joining} (hj : j.Shifted d j') (hb : b.WellFormed)
    (hlast : ∀ n, j.Adds f.held b n → SameEnd f.held f'.held n)
    (hheld : Translated d f.held f'.held) (hbeside : f.Beside f') :
    Agree Eq (Translated d) (j.call b supply f) (j'.call b supply f') := by
  cases hj with
  | append => exact append_agree hb (hlast _ rfl) hheld hbeside
  | insertCopy hi => exact insertCopy_agree hi hb (fun hin => hlast _ ⟨hin, rfl⟩) hheld hbeside
  | insertMoved hi => exact insertMoved_agree hi hb (fun hin => hlast _ ⟨hin, rfl⟩) hheld hbeside

end

/-! ### All calls -/

/-- What holds of translated arrays holds of those that moving the elements leads to. -/
lemma rebased_of_translated {a a' : Anchored α} (h : Translated d a a') : Rebased d a a' :=
  (rebased_iff h.wellFormed).2 h

lemma Result.Rel.rebased {r r' : Result α} (h : r.Rel (Translated d) r') :
    r.Rel (Rebased d) r' := by
  cases h with
  | nothing => exact .nothing
  | array h => exact .array (rebased_of_translated h)
  | taken x => exact .taken x

lemma slot_rebased {slot slot' : Option (Anchored α)} (h : Option.Rel (Translated d) slot slot') :
    Option.Rel (Rebased d) slot slot' := by
  cases h with
  | none => exact .none
  | some h => exact .some (rebased_of_translated h)

/-- **Calls do not depend on where an array is.** Its elements are moved to the anchor that is `d`
further, and neither anchor is the smallest position. A call whose positions are moved by as much
then goes through exactly when the one on the array itself does, whatever is granted, and halts for
the same reason otherwise: copying and moving slices, changes and joinings, those that add elements
provided that the last position can be represented for both arrays or for neither. The results and
what the calls leave are the same elements, and arrays that are moved to the anchor that is `d`
further; a slot is empty afterwards in both cases or in neither. -/
theorem translated_calls (h : a.WellFormed) (hclear : a.lower ≠ Position.least)
    (hclear' : a'.lower ≠ Position.least) (hd : Rebased d a a') (supply : Supply) :
    (∀ s s' : Selection, s.Shifted d s' → ∀ held : σ,
      Agree (Rebased d) Eq ((s.copied a).run supply held) ((s'.copied a').run supply held))
    ∧ (∀ s s' : Selection, s.Shifted d s' →
      Agree (Rebased d) (Option.Rel (Rebased d)) (s.moved.run supply (some a))
        (s'.moved.run supply (some a')))
    ∧ (∀ c c' : Change α, c.Shifted d c' → (∀ n, c.Adds a n → SameEnd a a' n) →
      Agree (Result.Rel (Rebased d)) (Rebased d) (c.call.run supply a) (c'.call.run supply a'))
    ∧ ∀ (j j' : Joining) (b : Anchored α), j.Shifted d j' → b.WellFormed →
      (∀ n, j.Adds a b n → SameEnd a a' n) →
      Agree Eq (Rebased d) ((j.call b).run supply a) ((j'.call b).run supply a') := by
  have htranslated : Clear d a a' := ⟨(rebased_iff h).1 hd, hclear, hclear'⟩
  refine ⟨fun s s' hs held => ?_, fun s s' hs => ?_, fun c c' hc hlast => ?_,
    fun j j' b hj hb hlast => ?_⟩
  · exact Agree.mono (hs.copied_agree htranslated rfl (.refl _))
      (fun _ _ => rebased_of_translated) fun _ _ => id
  · exact Agree.mono (hs.moved_agree htranslated rfl rfl (.start supply (some a) (some a')))
      (fun _ _ => rebased_of_translated) fun _ _ => slot_rebased
  · exact Agree.mono (Change.call_agree hc htranslated hlast (.start supply a a'))
      (fun _ _ => Result.Rel.rebased) fun _ _ => rebased_of_translated
  · exact Agree.mono (Joining.call_agree hj hb hlast htranslated.toTranslated (.start supply a a'))
      (fun _ _ => id) fun _ _ => rebased_of_translated

/-- Three values are moved from the smallest position at which an array can be empty to the largest
positions. The second of them is removed, and a tail is moved out, at either place. -/
theorem translated_calls_highest :
    let a : Anchored Traced := laid (Position.least + 1) [⟨10, 0⟩, ⟨20, 0⟩, ⟨30, 0⟩]
    let a' : Anchored Traced := laid (Position.greatest - 2) [⟨10, 0⟩, ⟨20, 0⟩, ⟨30, 0⟩]
    let d : Int := 0xfffffffffffffffc
    a.WellFormed ∧ a.lower ≠ Position.least ∧ a'.lower ≠ Position.least ∧ Rebased d a a'
      ∧ ((remove (Position.least + 2)).run .ample a).1 = .ok ⟨20, 0⟩
      ∧ Agree (Result.Rel (Rebased d)) (Rebased d)
        ((Change.remove (Position.least + 2)).call.run .ample a)
        ((Change.remove (Position.greatest - 1)).call.run .ample a')
      ∧ Agree (Rebased d) (Option.Rel (Rebased d))
        ((moveTail (Position.least + 2)).run .ample (some a))
        ((moveTail (Position.greatest - 1)).run .ample (some a')) := by
  intro a a' d
  have hroom : Room Traced (Position.least + 1) 3 := ⟨by decide, by decide, by decide⟩
  have hroom' : Room Traced (Position.greatest - 2) 3 := ⟨by decide, by decide, by decide⟩
  have hd : Rebased d a a' := rebased_of_translated (translated_laid (by decide) hroom hroom')
  have hwell : a.WellFormed := Room.wellFormed hroom
  have hsecond : Shifted d (Position.least + 2) (Position.greatest - 1) := by decide
  obtain ⟨-, hmoved, hchanged, -⟩ :=
    translated_calls (σ := Unit) hwell (by decide) (by decide) hd .ample
  refine ⟨hwell, by decide, by decide, hd, by decide, ?_, ?_⟩
  · exact hchanged (.remove (Position.least + 2)) (.remove (Position.greatest - 1))
      (.remove hsecond) fun _ hadds => nomatch hadds
  · exact hmoved (.tail (Position.least + 2)) (.tail (Position.greatest - 1)) (.tail hsecond)

end AnchoredArrays.Session
