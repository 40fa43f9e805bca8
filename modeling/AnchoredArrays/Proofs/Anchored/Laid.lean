import AnchoredArrays.Anchored.Draft
import Mathlib.Tactic.Common

/-!
Arrays by their contents: an anchor and a list of elements determine a well-formed array, and every
well-formed array is determined by them. What an operation makes of an array is said in these terms.

* `Room`: a number of slots finds a place at an anchor; `Room.wellFormed`, `WellFormed.room`:
  exactly then there is an array of as many elements;
* `laid`, `WellFormed.eq_laid`: the array of some elements at an anchor;
* `slotOf`, `WellFormed.get?_eq`: the slot of a position.
-/

namespace AnchoredArrays

open Element

variable {α σ : Type} [Element α]

namespace Slots

@[simp] lemma length_ofList (items : List α) : (ofList items).length = items.length := by
  rw [← length_toList, toList_ofList]

@[simp] lemma length_single (x : α) : (single x).length = 1 := length_ofList [x]

@[simp] lemma length_nil : (nil : Slots α).length = 0 := length_ofList []

@[simp] lemma length_map (change : α → α) (s : Slots α) : (s.map change).length = s.length := by
  rw [← length_toList, toList_map, List.length_map, length_toList]

@[simp] lemma ofList_toList (s : Slots α) : ofList s.toList = s := ext (toList_ofList _)

lemma eq_ofList {s : Slots α} {items : List α} (h : s.toList = items) : s = ofList items := by
  rw [← h, ofList_toList]

end Slots

namespace Element

/-- What a buffer can be long is a machine word. -/
lemma lt_word_of_le {n : Nat} (h : n ≤ maxLength α) : n < 0x10000000000000000 :=
  calc n ≤ maxLength α := h
    _ ≤ Position.byteLimit := maxLength_le α
    _ < 0x10000000000000000 := by decide

end Element

/-- Whether `n` slots find a place at `lower`: the buffer can be that long, the last of them has a
position, and if there are none, so has the upper bound. -/
structure Room (α : Type) [Element α] (lower : Int64) (n : Nat) : Prop where
  fits : n ≤ maxLength α
  ends : lower.toInt + n - 1 ≤ Position.greatest.toInt
  starts : n = 0 → lower ≠ Position.least

namespace Position

lemma toInt_min (i j : Int64) : (min i j).toInt = min i.toInt j.toInt := by
  rw [show min i j = if i ≤ j then i else j from rfl, Int.min_def]
  simp only [Int64.le_iff_toInt_le]
  split_ifs <;> rfl

end Position

namespace Anchored

/-- The array of the given elements in order, anchored at `lower`. -/
def laid (lower : Int64) (items : List α) : Anchored α :=
  ⟨lower, Position.maxOfCount lower (UInt64.ofNat items.length), .ofList items⟩

@[simp] lemma laid_lower (lower : Int64) (items : List α) : (laid lower items).lower = lower := rfl

@[simp] lemma laid_slots (lower : Int64) (items : List α) :
    (laid lower items).slots = .ofList items := rfl

@[simp] lemma laid_toList (lower : Int64) (items : List α) :
    (laid lower items).toList = items := Slots.toList_ofList items

end Anchored

namespace Room

variable {lower : Int64} {n : Nat} {items : List α}

/-- A number of slots is a machine word. -/
lemma lt_word (h : Room α lower n) : n < 0x10000000000000000 := lt_word_of_le h.fits

/-- An anchor that leaves no room for an upper bound below it has room for some slot. -/
lemma pred (h : Room α lower n) : Position.least.toInt ≤ lower.toInt + n - 1 := by
  have hl := lower.le_toInt
  rcases Nat.eq_zero_or_pos n with rfl | hpos
  · have hne : lower.toInt ≠ Position.least.toInt := fun he =>
      h.starts rfl (Int64.toInt_inj.1 he)
    rw [Position.toInt_least] at *
    omega
  · rw [Position.toInt_least]
    omega

/-- The upper bound of `n` slots is exact. -/
lemma toInt_upper (h : Room α lower n) :
    (Position.maxOfCount lower (UInt64.ofNat n)).toInt = lower.toInt + n - 1 := by
  have hn : (UInt64.ofNat n).toNat = n := UInt64.toNat_ofNat_of_lt' h.lt_word
  have hp := h.pred
  have he := h.ends
  rw [Position.toInt_least] at hp
  rw [Position.toInt_greatest] at he
  rw [Position.toInt_maxOfCount, hn]
  exact Int.bmod_eq_of_le (by omega) (by omega)

lemma maxOf (h : Room α lower n) :
    (Call.maxOf lower n : Call σ α Int64)
      = pure (Position.maxOfCount lower (UInt64.ofNat n)) :=
  Call.maxOf_of_le h.toInt_upper h.lt_word

/-- No slots find a place everywhere but at the smallest position. -/
lemma zero (hlower : lower ≠ Position.least) : Room α lower 0 where
  fits := Nat.zero_le _
  ends := by
    have hg := lower.toInt_lt
    rw [Position.toInt_greatest]
    omega
  starts _ := hlower

/-- Fewer slots find a place as well, unless there are none. -/
lemma of_le {m : Nat} (h : Room α lower n) (hle : m ≤ n)
    (hstart : m = 0 → lower ≠ Position.least) : Room α lower m where
  fits := Nat.le_trans hle h.fits
  ends := by have he := h.ends; omega
  starts := hstart

/-- Elements that find a place make up a well-formed array. -/
lemma wellFormed (h : Room α lower items.length) : (Anchored.laid lower items).WellFormed := by
  have hu : (Anchored.laid lower items).upper.toInt = lower.toInt + items.length - 1 :=
    h.toInt_upper
  constructor
  · rw [hu, Anchored.laid_lower]
    omega
  · rw [hu, Anchored.laid_lower, Anchored.laid_slots, Slots.length_ofList]
    omega
  · rw [Anchored.laid_slots, Slots.length_ofList]
    exact h.fits
  · rw [Anchored.laid_slots, Slots.length_ofList]
    exact h.starts

/-- The upper bound of elements that find a place is no other than that of their array. -/
lemma mk_eq_laid (h : Room α lower items.length) {upper : Int64}
    (hupper : upper.toInt = lower.toInt + items.length - 1) :
    (⟨lower, upper, .ofList items⟩ : Anchored α) = Anchored.laid lower items :=
  Anchored.ext rfl (Int64.toInt_inj.1 (hupper.trans h.toInt_upper.symm)) rfl

/-- Cells take as much room as what is written into them. -/
lemma cells (h : Room α lower n) : Room (Cell α) lower n := ⟨h.fits, h.ends, h.starts⟩

end Room

namespace Anchored

variable {a : Anchored α} {i : Int64}

lemma length_toList (a : Anchored α) : a.toList.length = a.slots.length :=
  Slots.length_toList a.slots

/-- Writing an array's own elements into its slots changes nothing. -/
lemma with_own_items (a : Anchored α) :
    ({ a with slots := .ofList a.toList } : Anchored α) = a :=
  ext rfl rfl (Slots.ofList_toList _)

/-- The elements of a well-formed array have found a place. -/
lemma WellFormed.room (h : a.WellFormed) : Room α a.lower a.toList.length where
  fits := by rw [length_toList]; exact h.fits
  ends := by
    have hs := h.stored
    have hg := a.upper.toInt_lt
    rw [length_toList, Position.toInt_greatest]
    omega
  starts := by rw [length_toList]; exact h.anchored

lemma WellFormed.length_eq' (h : a.WellFormed) : a.length = a.toList.length := by
  rw [h.length_eq, length_toList]

lemma WellFormed.toInt_upper (h : a.WellFormed) :
    a.upper.toInt = a.lower.toInt + a.toList.length - 1 := by
  have hs := h.stored
  rw [length_toList]
  omega

/-- A well-formed array is determined by its anchor and its elements. -/
lemma WellFormed.eq_laid (h : a.WellFormed) : a = laid a.lower a.toList := by
  refine ext rfl ?_ (Slots.ofList_toList _).symm
  exact Int64.toInt_inj.1 (h.toInt_upper.trans h.room.toInt_upper.symm)

/-- Other elements in as many slots make up a well-formed array. -/
lemma WellFormed.with_slots (h : a.WellFormed) {s : Slots α}
    (hs : s.toList.length = a.toList.length) : ({ a with slots := s } : Anchored α).WellFormed := by
  have hlength : s.length = a.slots.length := by
    rw [← Slots.length_toList, hs, length_toList]
  constructor
  · exact h.pred_le
  · rw [hlength]
    exact h.stored
  · rw [hlength]
    exact h.fits
  · rw [hlength]
    exact h.anchored

lemma WellFormed.room_of_length (h : a.WellFormed) {items : List α}
    (hlength : items.length = a.toList.length) : Room α a.lower items.length :=
  hlength ▸ h.room

/-- The bounds of an array go with any list of as many elements. -/
lemma WellFormed.with_items (h : a.WellFormed) {items : List α}
    (hlength : items.length = a.toList.length) :
    ({ a with slots := .ofList items } : Anchored α) = laid a.lower items :=
  (h.room_of_length hlength).mk_eq_laid (by rw [h.toInt_upper, hlength])

/-- The bounds of an array go with its elements after a change of each of them. -/
lemma WellFormed.laid_map (h : a.WellFormed) (change : α → α) :
    laid a.lower (a.toList.map change) = a.map change := by
  rw [← h.with_items (List.length_map _), toList, ← Slots.toList_map, Slots.ofList_toList]
  rfl

lemma WellFormed.isEmpty_iff' (h : a.WellFormed) : a.isEmpty = true ↔ a.toList.length = 0 := by
  rw [h.isEmpty_iff, length_toList]

/-! ### Positions and slots -/

/-- The slot of position `i` in an array anchored at `lower`. -/
def slotOf (lower i : Int64) : Nat := (i.toInt - lower.toInt).toNat

/-- A position is as far behind the anchor as there are elements in front of its slot. -/
lemma toInt_eq_take (hlow : a.lower.toInt ≤ i.toInt) (hslot : slotOf a.lower i ≤ a.toList.length) :
    i.toInt = a.lower.toInt + (a.toList.take (slotOf a.lower i)).length := by
  rw [List.length_take_of_le hslot, slotOf]
  omega

/-- The positions of elements are those whose slot is there. -/
lemma WellFormed.contains_iff (h : a.WellFormed) :
    a.contains i = true ↔ a.lower.toInt ≤ i.toInt ∧ slotOf a.lower i < a.toList.length := by
  have hu := h.toInt_upper
  simp only [contains, Bool.and_eq_true, decide_eq_true_eq, Int64.le_iff_toInt_le, slotOf]
  omega

/-- The slot of a position that is not below the anchor is exact. -/
lemma toNat_offset_eq {lower : Int64} (hlow : lower.toInt ≤ i.toInt) :
    (Position.offset lower i).toNat = slotOf lower i := by
  have ho := Position.toNat_offset lower i
  have hl := lower.le_toInt
  have hg := i.toInt_lt
  simp only [slotOf]
  omega

/-- The element at a position is the one in its slot. -/
lemma WellFormed.get?_eq (h : a.WellFormed) :
    a.get? i = if a.lower.toInt ≤ i.toInt then a.toList[slotOf a.lower i]? else none := by
  rw [get?]
  by_cases hc : a.contains i = true
  · have hlow := (h.contains_iff.1 hc).1
    rw [if_pos hc, if_pos hlow, toNat_offset_eq hlow, Slots.get?_eq]
    rfl
  · rw [if_neg hc]
    split_ifs with hlow
    · have hslot : ¬ slotOf a.lower i < a.toList.length := fun hlt =>
        hc (h.contains_iff.2 ⟨hlow, hlt⟩)
      exact (List.getElem?_eq_none (Nat.not_lt.1 hslot)).symm
    · rfl

/-- There is an element at a position within the bounds. -/
lemma WellFormed.exists_get? (h : a.WellFormed) (hi : a.contains i = true) :
    ∃ x, a.get? i = some x := by
  obtain ⟨hlow, hslot⟩ := h.contains_iff.1 hi
  exact ⟨_, by rw [h.get?_eq, if_pos hlow, List.getElem?_eq_getElem hslot]⟩

end Anchored

end AnchoredArrays
