import AnchoredArrays.Proofs.Anchored.Laid
import AnchoredArrays.Element.Instances

/-!
What an array holds, said over the unbounded integers: its anchor, its upper bound, and its elements
in order; and its elements at a range of positions.

* `Holds`: the array of some elements at an anchor; `laid_holds`, `WellFormed.holds`;
  `Holds.contains_iff`, `Holds.get?_eq`: its positions, and what is at them;
* `between`, `outside`: the elements at the positions of a range, and all the others;
  `length_between`: how many there are; `between_eq`: a range of a range;
* `SameBy`, `values_copies`: arrays that are the same up to copies;
* `lowestThree`: an array at the smallest position, where no array can be empty.
-/

namespace AnchoredArrays.Anchored

variable {α : Type} [Element α] {a b : Anchored α} {first last : Int} {items : List α}

/-- The array holds these elements in order, the first of them at the position `anchor`. -/
structure Holds (b : Anchored α) (anchor : Int) (items : List α) : Prop where
  lower : b.lower.toInt = anchor
  upper : b.upper.toInt = anchor + items.length - 1
  toList : b.toList = items

/-- Elements that find a place are held at their anchor. -/
lemma laid_holds {lower : Int64} (h : Room α lower items.length) :
    (laid lower items).Holds lower.toInt items :=
  ⟨rfl, h.toInt_upper, laid_toList lower items⟩

lemma WellFormed.nonempty_iff (h : a.WellFormed) : a.isEmpty = false ↔ a.toList ≠ [] := by
  rw [← Bool.not_eq_true, h.isEmpty_iff', List.length_eq_zero_iff]

lemma WellFormed.holds (h : a.WellFormed) : a.Holds a.lower.toInt a.toList :=
  ⟨rfl, h.toInt_upper, rfl⟩

/-- The positions of elements that are held follow each other from the anchor on. -/
lemma Holds.contains_iff {anchor : Int} (hb : b.Holds anchor items) {i : Int64} :
    b.contains i = true ↔ anchor ≤ i.toInt ∧ i.toInt < anchor + items.length := by
  simp only [contains, Bool.and_eq_true, decide_eq_true_eq, Int64.le_iff_toInt_le, hb.lower,
    hb.upper]
  omega

/-- What is held at a position. -/
lemma Holds.get?_eq {anchor : Int} (hb : b.Holds anchor items) {i : Int64}
    (hi : b.contains i = true) : b.get? i = items[(i.toInt - anchor).toNat]? := by
  have hlow : b.lower.toInt ≤ i.toInt := hb.lower ▸ (hb.contains_iff.1 hi).1
  rw [get?, if_pos hi, Slots.get?_eq, toNat_offset_eq hlow, slotOf, hb.lower, ← hb.toList]
  rfl

/-- There is at most one array of these elements at a position. -/
lemma Holds.unique {anchor : Int} (ha : a.Holds anchor items) (hb : b.Holds anchor items) :
    a = b := by
  refine ext (Int64.toInt_inj.1 (ha.lower.trans hb.lower.symm))
    (Int64.toInt_inj.1 (ha.upper.trans hb.upper.symm)) (Slots.ext ?_)
  exact ha.toList.trans hb.toList.symm

/-- An array of no elements is empty. -/
lemma Holds.isEmpty {anchor : Int} (hb : b.Holds anchor []) : b.isEmpty = true := by
  have hcount := Position.toNat_count b.lower b.upper
  rw [hb.upper, hb.lower] at hcount
  simp only [List.length_nil] at hcount
  rw [Anchored.isEmpty, length, beq_iff_eq]
  omega

/-- An array that holds elements is well-formed if a buffer can have as many slots. -/
lemma Holds.wellFormed {anchor : Int} (hb : b.Holds anchor items) (hsome : items ≠ [])
    (hfits : items.length ≤ Element.maxLength α) : b.WellFormed := by
  have hlength : b.slots.length = items.length := by rw [← length_toList, hb.toList]
  have hpos := List.length_pos_iff.2 hsome
  have hlower := hb.lower
  have hupper := hb.upper
  exact ⟨by omega, by omega, by omega, fun hz => by omega⟩

/-- The elements at the positions from `first` to `last`. -/
def between (a : Anchored α) (first last : Int) : List α :=
  (a.toList.drop (first - a.lower.toInt).toNat).take (last - first + 1).toNat

/-- The elements at all positions but those from `first` to `last`. -/
def outside (a : Anchored α) (first last : Int) : List α :=
  a.toList.take (first - a.lower.toInt).toNat ++ a.toList.drop (last - a.lower.toInt + 1).toNat

/-- A range that ends before it starts has no elements. -/
lemma between_of_lt (h : last < first) : a.between first last = [] := by
  rw [between, show (last - first + 1).toNat = 0 by omega, List.take_zero]

/-- A range of positions of the array has as many elements. -/
lemma WellFormed.length_between (h : a.WellFormed) (hlow : a.lower.toInt ≤ first)
    (hsome : first ≤ last) (hlast : last ≤ a.upper.toInt) :
    ((a.between first last).length : Int) = last - first + 1 := by
  have hu := h.toInt_upper
  rw [between, List.length_take_of_le]
  · omega
  · rw [List.length_drop]
    omega

/-- A range of positions of a range of positions. -/
lemma Holds.between_eq {change : α → α} (hb : b.Holds first ((a.between first last).map change))
    (hlow : a.lower.toInt ≤ first) {first' last' : Int} (hfirst : first ≤ first')
    (hlast : last' ≤ last) :
    b.between first' last' = (a.between first' last').map change := by
  have hstart : (first - a.lower.toInt).toNat + (first' - first).toNat
      = (first' - a.lower.toInt).toNat := by omega
  rw [between, hb.toList, hb.lower, between, between, ← List.map_drop, ← List.map_take,
    List.drop_take, List.drop_drop, List.take_take, hstart, Nat.min_eq_left (by omega)]

/-! ### Arrays up to copies -/

/-- Arrays are the same up to copies: their bounds are equal, and so are the values of their
elements in order. -/
structure SameBy {β : Type} (value : α → β) (b c : Anchored α) : Prop where
  lower : b.lower = c.lower
  upper : b.upper = c.upper
  values : b.toList.map value = c.toList.map value

lemma laid_sameBy {β : Type} {value : α → β} {lower : Int64} {items items' : List α}
    (h : items.map value = items'.map value) :
    SameBy value (laid lower items) (laid lower items') := by
  have hlength : items.length = items'.length := by
    simpa only [List.length_map] using congrArg List.length h
  refine ⟨rfl, ?_, by rwa [laid_toList, laid_toList]⟩
  rw [laid, laid, hlength]

/-- Copies have the values of what they are copies of. -/
lemma values_copies {β : Type} {value : α → β} (hvalue : ∀ x, value (Element.copy x) = value x)
    (items : List α) : (items.map Element.copy).map value = items.map value := by
  rw [List.map_map]
  exact List.map_congr_left fun x _ => hvalue x

/-- Three values, the first of them at the smallest position. -/
def lowestThree : Anchored Traced := laid Position.least [⟨10, 0⟩, ⟨20, 0⟩, ⟨30, 0⟩]

lemma lowestThree_wellFormed : lowestThree.WellFormed :=
  Room.wellFormed ⟨by decide, by decide, by decide⟩

end AnchoredArrays.Anchored
