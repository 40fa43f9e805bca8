import AnchoredArrays.Proofs.Edits.Outcomes
import AnchoredArrays.Proofs.Session.Calls
import AnchoredArrays.Proofs.Slices.Paths

/-!
Head and tail put an array back together on generous supplies. A head keeps the lower bound and a
tail is anchored where it starts; where one of them has no elements, it is anchored at the lower
bound of the array. Joining them does not look at where the tail is.

* `between_append`: the elements of a range, cut between two positions;
* `CutAt`, `CutAt.target_head`, `CutAt.target_tail`: the positions after which an array can be cut,
  and what a head and a tail select there;
* `concat_of_room`: **joining** two arrays where there is a place for the elements of both;
* `map_beq`: an array of equal elements is equal;
* `head_tail_rebuild`: **the head and the tail** at any cut rebuild the array.
-/

namespace AnchoredArrays.Session

open Element Anchored Call

variable {α σ : Type} [Element α] {supply supply' : Supply} {a b : Anchored α} {k : Int64}

/-! ### Cutting -/

/-- A range is what its part up to a position and its part behind that position make together. -/
lemma between_append {first mid last : Int} (hlow : a.lower.toInt ≤ first)
    (hfirst : first ≤ mid + 1) (hlast : mid ≤ last) :
    a.between first mid ++ a.between (mid + 1) last = a.between first last := by
  have hcount : (last - first + 1).toNat
      = (mid - first + 1).toNat + (last - (mid + 1) + 1).toNat := by omega
  have hstart : (mid + 1 - a.lower.toInt).toNat
      = (first - a.lower.toInt).toNat + (mid - first + 1).toNat := by omega
  simp only [between]
  rw [hcount, List.take_add, List.drop_drop, hstart]

/-- An array can be cut after a position that has elements on both sides; and where one side is
empty, if the array is not anchored at the smallest position and there is a position behind. -/
def CutAt (a : Anchored α) (k : Int64) : Prop :=
  (a.lower.toInt ≤ k.toInt ∧ k.toInt < a.upper.toInt)
    ∨ (Position.least.toInt < a.lower.toInt ∧ a.lower.toInt - 1 ≤ k.toInt
      ∧ k.toInt ≤ a.upper.toInt ∧ k.toInt < Position.greatest.toInt)

namespace CutAt

/-- Cuts are at most one position in front of the array, and not behind it. -/
lemma bounds (hk : CutAt a k) : a.lower.toInt - 1 ≤ k.toInt ∧ k.toInt ≤ a.upper.toInt := by
  obtain ⟨hlow, hhigh⟩ | ⟨-, hlow, hhigh, -⟩ := hk
  · exact ⟨by omega, by omega⟩
  · exact ⟨hlow, hhigh⟩

/-- The position after a cut. -/
lemma toInt_succ (hk : CutAt a k) : (k + 1).toInt = k.toInt + 1 := by
  have hlt : k.toInt < Position.greatest.toInt := by
    obtain ⟨-, hhigh⟩ | ⟨-, -, -, hlt⟩ := hk
    · exact Int.lt_of_lt_of_le hhigh (Int64.toInt_le _)
    · exact hlt
  rw [Position.toInt_greatest] at hlt
  have hle := k.le_toInt
  rw [Int64.toInt_add, show (1 : Int64).toInt = 1 from rfl]
  exact Int.bmod_eq_of_le (by omega) (by omega)

/-- The head selects what is in front of the cut. -/
lemma target_head (hk : CutAt a k) :
    Selection.target a (.head k) = .ok ⟨a.lower.toInt, k.toInt, a.lower⟩ := by
  obtain ⟨hlow, hhigh⟩ := hk.bounds
  rw [Selection.target, if_neg (Int.not_lt.2 hlow), Int.min_eq_left hhigh]

/-- The tail selects what is behind the cut. -/
lemma target_tail (hk : CutAt a k) :
    Selection.target a (.tail (k + 1)) = .ok ⟨k.toInt + 1, a.upper.toInt,
      if a.upper.toInt < k.toInt + 1 then a.lower else k + 1⟩ := by
  obtain ⟨hlow, hhigh⟩ := hk.bounds
  have hanchor : ¬ (a.upper.toInt < k.toInt + 1 ∧ a.lower = Position.least) := by
    rintro ⟨hbehind, hleast⟩
    obtain ⟨-, hsome⟩ | ⟨hlt, -⟩ := hk
    · omega
    · exact Int.lt_irrefl _ (hleast ▸ hlt)
  rw [Selection.target, hk.toInt_succ, if_neg (by omega), if_neg hanchor]

end CutAt

/-! ### Joining -/

/-- A copying slice that goes through results in a well-formed array. -/
lemma copied_wellFormed (h : a.WellFormed) (selection : Selection) {held : σ}
    (hb : ((selection.copied a).run supply held).1 = .ok b) : b.WellFormed := by
  have hrun : selection.copied a supply ⟨held, supply.copies, .blank⟩
      = (.ok b, ((selection.copied a).run supply held).2) := Prod.ext hb rfl
  exact ((selection.copied_allOrNothing h).post_of_ok hrun).1

/-- Two arrays are joined where there is a place for the elements of both. -/
lemma concat_of_room (h : a.WellFormed) (hb : b.WellFormed) (hgenerous : supply.Generous)
    (held : σ) (hroom : Room α a.lower (a.toList ++ b.toList).length) :
    ((concat a b).run supply held).1 = .ok (laid a.lower (a.toList ++ b.toList)) := by
  rw [List.length_append] at hroom
  obtain ⟨buffers, hgrowth⟩ := growth_of_room h a.toList.length hroom
  rw [List.take_length, List.drop_length, List.append_nil] at hgrowth
  have hends : ends ((concat a b).run supply held)
      = .ok (laid a.lower (a.toList ++ b.toList), held) := by
    rw [Call.run, concat_ends h hgenerous hb, hgrowth]
    rfl
  exact (ends_ok_iff.1 hends).1

/-! ### Equality -/

/-- An array whose elements are changed into equal ones is equal to what it was. -/
lemma map_beq [BEq α] {change : α → α} (hsame : ∀ x, (change x == x) = true) (a : Anchored α) :
    (a.map change == a) = true := by
  have hlist : ∀ items : List α, (items.map change == items) = true := by
    intro items
    induction items with
    | nil => rfl
    | cons x items ih => rw [List.map_cons, List.cons_beq_cons, hsame, ih, Bool.and_self]
  have hslots : (a.slots.map change).same a.slots = true := by
    cases a.slots with
    | listed h items => exact hlist items
    | counted h n => exact beq_self_eq_true n
  change (a.lower == a.lower && a.upper == a.upper && (a.slots.map change).same a.slots) = true
  rw [beq_self_eq_true, beq_self_eq_true, hslots, Bool.and_self, Bool.and_self]

/-! ### Head and tail -/

/-- **The head and the tail** at a cut rebuild the array on generous supplies: both are made of
copies of the elements on their side, they can be joined, and the array that they make has the
bounds of the one that was cut and a copy of each of its elements, so it is equal to it if copies
are equal to what they are copies of. -/
theorem head_tail_rebuild [BEq α] (h : a.WellFormed) (hgenerous : supply.Generous)
    (hgenerous' : supply'.Generous) (hcopies : supply.Lets a.toList.length) (held : σ)
    (hsame : ∀ x : α, (Element.copy x == x) = true) (hk : CutAt a k) :
    ∃ head tail joined : Anchored α,
      ((a.copyHead k).run supply held).1 = .ok head
      ∧ head.Holds a.lower.toInt ((a.between a.lower.toInt k.toInt).map Element.copy)
      ∧ ((a.copyTail (k + 1)).run supply held).1 = .ok tail
      ∧ tail.Holds (if a.upper.toInt < k.toInt + 1 then a.lower else k + 1).toInt
        ((a.between (k.toInt + 1) a.upper.toInt).map Element.copy)
      ∧ ((concat head tail).run supply' held).1 = .ok joined
      ∧ joined = Element.copy a ∧ (joined == a) = true := by
  obtain ⟨hlow, hhigh⟩ := hk.bounds
  obtain ⟨head, hhead, hheadHolds⟩ := copied_of_target h hgenerous hcopies held hk.target_head
  obtain ⟨tail, htail, htailHolds⟩ := copied_of_target h hgenerous hcopies held hk.target_tail
  have hitems : head.toList ++ tail.toList = a.toList.map Element.copy :=
    calc head.toList ++ tail.toList
      _ = (a.between a.lower.toInt k.toInt ++ a.between (k.toInt + 1) a.upper.toInt).map
          Element.copy := by rw [hheadHolds.toList, htailHolds.toList, List.map_append]
      _ = (a.between a.lower.toInt a.upper.toInt).map Element.copy := by
          rw [between_append (Int.le_refl _) (by omega) hhigh]
      _ = a.toList.map Element.copy := by rw [(Selection.target_whole h).2]
  have hlower : head.lower = a.lower := Int64.toInt_inj.1 hheadHolds.lower
  have hroom : Room α head.lower (head.toList ++ tail.toList).length := by
    rw [hlower, hitems, List.length_map]
    exact h.room
  have hjoined := concat_of_room (copied_wellFormed h (.head k) hhead)
    (copied_wellFormed h (.tail (k + 1)) htail) hgenerous' held hroom
  rw [hlower, hitems, h.laid_map] at hjoined
  exact ⟨head, tail, _, hhead, hheadHolds, htail, htailHolds, hjoined, rfl, map_beq hsame a⟩

/-- Three values at the smallest position are cut after the second. -/
theorem head_tail_rebuild_lowest :
    lowestThree.WellFormed ∧ Supply.ample.Generous ∧ Supply.ample.Lets lowestThree.toList.length
      ∧ (∀ x : Traced, (Element.copy x == x) = true) ∧ CutAt lowestThree (Position.least + 1)
      ∧ ∃ head tail joined : Anchored Traced,
        ((lowestThree.copyHead (Position.least + 1)).run .ample ()).1 = .ok head
          ∧ ((lowestThree.copyTail (Position.least + 1 + 1)).run .ample ()).1 = .ok tail
          ∧ ((concat head tail).run .ample ()).1 = .ok joined
          ∧ (joined == lowestThree) = true := by
  have hsame : ∀ x : Traced, (Element.copy x == x) = true := fun x => beq_self_eq_true x.value
  have hcut : CutAt lowestThree (Position.least + 1) := .inl (by decide)
  obtain ⟨head, tail, joined, hhead, -, htail, -, hjoined, -, hequal⟩ :=
    head_tail_rebuild lowestThree_wellFormed Supply.ample_generous Supply.ample_generous
      (Supply.ample_lets _) () hsame hcut
  exact ⟨lowestThree_wellFormed, Supply.ample_generous, Supply.ample_lets _, hsame, hcut, head,
    tail, joined, hhead, htail, hjoined, hequal⟩

end AnchoredArrays.Session
