import AnchoredArrays.Position

/-!
What an anchored array needs to know of its elements: how many bytes a slot takes and what a copy
of an element is. A slot of no bytes holds no information, so a type of that size has one value
only.
-/

namespace AnchoredArrays

/-- A type whose values can be the elements of an array. -/
class Element (α : Type) where
  /-- The bytes of one slot. -/
  size : Nat
  /-- The copy of an element. -/
  copy : α → α
  /-- The one value of a type without bytes. -/
  only : size = 0 → α
  /-- A type without bytes has no other value. -/
  eq_only : ∀ (h : size = 0) (x : α), x = only h

namespace Element

variable {α : Type} [Element α]

/-- Whether slots of this type take no bytes. -/
abbrev Weightless (α : Type) [Element α] : Prop := size α = 0

/-- The most elements of this type that an array can hold. -/
def maxLength (α : Type) [Element α] : Nat := Position.maxLength (size α)

/-- No buffer has more slots than the limit on bytes. -/
theorem maxLength_le (α : Type) [Element α] : maxLength α ≤ Position.byteLimit := by
  unfold maxLength Position.maxLength
  split
  · exact Nat.le_refl _
  · exact Nat.div_le_self _ _

end Element

end AnchoredArrays
