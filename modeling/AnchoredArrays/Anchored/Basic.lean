import AnchoredArrays.Buffer

/-!
Anchored arrays: contiguous arrays addressed by an inclusive range of positions with any origin.
The empty array anchored at `m` has the upper bound `m - 1`. The buffer has exactly as many slots
as the bounds say, which is part of `Anchored.WellFormed`; the length of an array is always read
off its bounds.

* `WellFormed.length_eq`, `WellFormed.isEmpty_iff`: the length of a well-formed array is that of
  its contents.
-/

namespace AnchoredArrays

open Element

/-- An array over the positions from `lower` to `upper`. -/
structure Anchored (α : Type) [Element α] where
  lower : Int64
  upper : Int64
  slots : Slots α

namespace Anchored

variable {α σ : Type} [Element α]

@[ext] theorem ext {a b : Anchored α} (hlower : a.lower = b.lower) (hupper : a.upper = b.upper)
    (hslots : a.slots = b.slots) : a = b := by
  cases a; cases b; simp only at hlower hupper hslots; subst hlower hupper hslots; rfl

/-- The elements in the order of their positions. -/
def toList (a : Anchored α) : List α := a.slots.toList

/-- The number of elements, read off the bounds. -/
def length (a : Anchored α) : Nat := (Position.count a.lower a.upper).toNat

/-- Whether there are no elements. -/
def isEmpty (a : Anchored α) : Bool := a.length == 0

/-- The bounds as an argument of a trace. -/
def bounds (a : Anchored α) : Argument := .bounds a.lower a.upper

/-- Whether `i` is the position of an element. -/
def contains (a : Anchored α) (i : Int64) : Bool := a.lower ≤ i && i ≤ a.upper

/-- The element at position `i`, if `i` lies within the bounds. -/
def get? (a : Anchored α) (i : Int64) : Option α :=
  if a.contains i then a.slots.get? (Position.offset a.lower i).toNat else none

/-- The element at the lower bound. -/
def first? (a : Anchored α) : Option α := a.slots.get? 0

/-- The element at the upper bound. -/
def last? (a : Anchored α) : Option α :=
  if a.slots.length = 0 then none else a.slots.get? (a.slots.length - 1)

/-- The array with `f` applied to each element. -/
def map (f : α → α) (a : Anchored α) : Anchored α := { a with slots := a.slots.map f }

/-- Arrays are equal when their bounds are the same and their elements are equal in order. -/
instance [BEq α] : BEq (Anchored α) where
  beq a b := a.lower == b.lower && a.upper == b.upper && a.slots.same b.slots

/-- An array is itself an element of 24 bytes, and its copy has copies of its elements. -/
instance : Element (Anchored α) where
  size := 24
  copy a := a.map Element.copy
  only h := absurd h (by decide)
  eq_only h := absurd h (by decide)

/-- What holds of every array: the upper bound is at least one below the lower bound; the buffer
has the slots that the bounds span, and not more than a buffer can have; and an empty array has
room for an upper bound. -/
structure WellFormed (a : Anchored α) : Prop where
  pred_le : a.lower.toInt - 1 ≤ a.upper.toInt
  stored : (a.slots.length : Int) = a.upper.toInt - a.lower.toInt + 1
  fits : a.slots.length ≤ maxLength α
  anchored : a.slots.length = 0 → a.lower ≠ Position.least

/-! ### The length of a well-formed array -/

/-- The length read off the bounds is the number of slots. -/
theorem WellFormed.length_eq {a : Anchored α} (h : a.WellFormed) : a.length = a.slots.length := by
  have hc := Position.toNat_count a.lower a.upper
  have hs := h.stored
  have hf := Nat.le_trans h.fits (maxLength_le α)
  unfold Position.byteLimit at hf
  unfold length
  omega

/-- The array is empty exactly when it has no slots. -/
theorem WellFormed.isEmpty_iff {a : Anchored α} (h : a.WellFormed) :
    a.isEmpty = true ↔ a.slots.length = 0 := by
  simp [isEmpty, h.length_eq]

end Anchored

end AnchoredArrays
