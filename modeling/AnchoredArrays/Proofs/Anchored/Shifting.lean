import AnchoredArrays.Proofs.Anchored.Laid
import AnchoredArrays.Proofs.Call.Plan
import AnchoredArrays.Anchored.Moving

/-!
Elements that move inside a buffer. A gap is opened in front of the last elements or closed behind
the first ones by one copy whose source and target may overlap; what the gap holds in between does
not matter.

* `Buffer.copyWithin_eq`, `Buffer.copyWithin_up`, `Buffer.copyWithin_down`, `Buffer.write_gap`: a
  stretch is copied over another; a gap is opened, closed and filled;
* `moveOut_eq`: some elements in a buffer of their own;
* `shrinkTo_eq`: **shortening an array** is one request, and nothing is changed if it is refused.
-/

namespace AnchoredArrays

open Element

variable {α σ β : Type} [Element α] [Element β]

namespace Slots

variable {s new : Slots β} {xs mid ys : List β}

lemma slice_mid (h : s.toList = xs ++ mid ++ ys) : s.slice xs.length mid.length = ofList mid := by
  apply eq_ofList
  rw [toList_slice, h, List.append_assoc, List.drop_left, List.take_left]

lemma overwrite_mid (h : s.toList = xs ++ mid ++ ys) (hn : new.length = mid.length) :
    s.overwrite xs.length new = ofList (xs ++ new.toList ++ ys) := by
  apply eq_ofList
  rw [toList_overwrite, hn, h, ← List.length_append, List.drop_left, List.append_assoc,
    List.append_assoc, List.take_left, List.append_assoc]

lemma length_of_toList {items : List β} (h : s.toList = items) : s.length = items.length := by
  rw [← h, length_toList]

end Slots

namespace Buffer

variable {s new : Slots β} {xs mid ys gap pad : List β}

/-- A copy inside a buffer puts the elements of one stretch over those of another as long, which
may overlap with it. -/
lemma copyWithin_eq {xs' old ys' : List β} (h : s.toList = xs ++ mid ++ ys)
    (h' : s.toList = xs' ++ old ++ ys') (hold : old.length = mid.length) :
    (copyWithin s xs.length xs'.length mid.length : Call σ α (Slots β))
      = pure (.ofList (xs' ++ mid ++ ys')) := by
  have hl := Slots.length_of_toList h
  have hl' := Slots.length_of_toList h'
  simp only [List.length_append] at hl hl'
  rw [copyWithin_of_le (by omega) (by omega), Slots.slice_mid h,
    Slots.overwrite_mid h' (by rw [Slots.length_ofList, hold]), Slots.toList_ofList]

/-- Moving `ys` up by the length of what is behind them opens a gap of that length. -/
lemma copyWithin_up (h : s.toList = xs ++ ys ++ pad) :
    ∃ gap, gap.length = pad.length
      ∧ (copyWithin s xs.length (xs.length + pad.length) ys.length : Call σ α (Slots β))
        = pure (.ofList (xs ++ gap ++ ys)) := by
  have hgap : (xs ++ (ys ++ pad).take pad.length).length = xs.length + pad.length := by simp
  have hsplit : s.toList
      = (xs ++ (ys ++ pad).take pad.length) ++ (ys ++ pad).drop pad.length ++ [] := by
    simp [h]
  refine ⟨(ys ++ pad).take pad.length, by simp, ?_⟩
  rw [← hgap, copyWithin_eq h hsplit (by simp), List.append_nil]

/-- Moving `ys` down onto the gap in front of them closes it. -/
lemma copyWithin_down (h : s.toList = xs ++ gap ++ ys) :
    ∃ pad, pad.length = gap.length
      ∧ (copyWithin s (xs.length + gap.length) xs.length ys.length : Call σ α (Slots β))
        = pure (.ofList (xs ++ ys ++ pad)) := by
  have hback : s.toList = (xs ++ gap) ++ ys ++ [] := by simp [h]
  have hsplit : s.toList = xs ++ (gap ++ ys).take ys.length ++ (gap ++ ys).drop ys.length := by
    simp [h]
  refine ⟨(gap ++ ys).drop ys.length, by simp, ?_⟩
  rw [← List.length_append, copyWithin_eq hback hsplit (by simp)]

/-- A gap is filled by what is written over it. -/
lemma write_gap (h : s.toList = xs ++ gap ++ ys) (hn : new.length = gap.length) :
    (write s xs.length new : Call σ α (Slots β)) = pure (.ofList (xs ++ new.toList ++ ys)) := by
  have hl := Slots.length_of_toList h
  simp only [List.length_append] at hl
  rw [write_of_le (by omega), Slots.overwrite_mid h hn]

end Buffer

namespace Anchored

open Call

variable {supply : Supply} {f : Frame (Anchored α) α} {a : Anchored α} {n start : Nat}
  {anchor : Int64} {operation : Operation}

/-- Moving elements out takes one buffer. -/
lemma moveOut_eq (hn : start + n ≤ a.toList.length) (hroom : Room α anchor n) :
    (moveOut operation a start n anchor : Call σ α (Anchored α)) = (do
      obtain operation n
      pure (laid anchor ((a.toList.drop start).take n))) := by
  have hl : ((a.toList.drop start).take n).length = n := by
    rw [List.length_take, List.length_drop]
    omega
  have hs : a.slots.slice start n = .ofList ((a.toList.drop start).take n) :=
    Slots.eq_ofList (Slots.toList_slice ..)
  rw [moveOut, Buffer.readRun_of_le (by rwa [← length_toList]), hs]
  simp only [pure_bind, hroom.maxOf, laid, hl]

/-- **Shortening an array** takes one buffer, and nothing is changed if it is refused. -/
lemma shrinkTo_eq (hn : n ≤ f.held.toList.length) (hroom : Room α f.held.lower n) :
    shrinkTo operation n supply f
      = carryOut operation (.ok ⟨[n], laid f.held.lower (f.held.toList.take n), ()⟩) supply f := by
  have hl : (f.held.toList.take n).length = n := by
    rw [List.length_take]
    omega
  have ht : f.held.slots.take n = .ofList (f.held.toList.take n) :=
    Slots.eq_ofList (Slots.toList_take ..)
  rw [shrinkTo, held_bind, carryOut, checked_ok, pure_bind]
  simp only [obtainAll, bind_assoc, pure_bind, renew_eq]
  rw [Buffer.truncate_of_le (by rwa [← length_toList]), ht]
  simp only [pure_bind, hroom.maxOf, laid, hl]
  rfl

end Anchored

end AnchoredArrays
