import AnchoredArrays.Anchored.Growing

/-!
Removing elements in place. The element is read out and the gap is closed before the shorter
buffer is asked for; both are undone if it is refused, so that a failed removal leaves the array
as it was.

* `Anchored.remove`: one element, the later ones move down;
* `Anchored.swapRemove`: one element, the last one takes its place;
* `Anchored.removeRun`: several elements, as an array of their own.
-/

namespace AnchoredArrays

open Element

namespace Anchored

variable {α σ : Type} [Element α]

/-- The slot of a position, which has to be that of an element. -/
def elementSlot (operation : Operation) (a : Anchored α) (i : Int64) : Call σ α Nat :=
  if i < a.lower ∨ a.upper < i then
    Call.fail operation .noElement
  else
    Call.offsetOf a.lower i

/-- Removes the element at position `i`; the later ones move down by one. -/
def remove (i : Int64) : Call (Anchored α) α α := do
  let a ← Call.held
  Call.trace .remove [a.bounds, .position i]
  let k ← elementSlot .remove a i
  let n := a.length
  if n = 1 then
    Call.checked .remove (Position.emptyAt a.lower)
  let behind ← Call.minus (← Call.minus n k) 1
  let x ← Buffer.read a.slots k
  let closed ← Buffer.copyWithin a.slots (k + 1) k behind
  Call.hold { a with slots := closed }
  let rest ← Call.minus n 1
  (shrinkTo .remove rest).orUndo do
    let b ← Call.held
    let opened ← Buffer.copyWithin b.slots k (k + 1) behind
    let slots ← Buffer.write opened k (.single x)
    Call.hold { b with slots }
  pure x

/-- Removes the element at position `i`; the last one takes its place. -/
def swapRemove (i : Int64) : Call (Anchored α) α α := do
  let a ← Call.held
  Call.trace .swapRemove [a.bounds, .position i]
  let k ← elementSlot .swapRemove a i
  let n := a.length
  if n = 1 then
    Call.checked .swapRemove (Position.emptyAt a.lower)
  let last ← Call.minus n 1
  let x ← Buffer.read a.slots k
  if k ≠ last then
    let moved ← Buffer.copyWithin a.slots last k 1
    Call.hold { a with slots := moved }
  (shrinkTo .swapRemove last).orUndo do
    if k ≠ last then
      let b ← Call.held
      let moved ← Buffer.copyWithin b.slots k last 1
      Call.hold { b with slots := moved }
    let b ← Call.held
    let slots ← Buffer.write b.slots k (.single x)
    Call.hold { b with slots }
  pure x

/-- Removes up to `n` elements from position `i` on, as an array anchored at the lower bound. -/
def removeRun (i n : Int64) : Call (Anchored α) α (Anchored α) := do
  let a ← Call.held
  Call.trace .removeRun [a.bounds, .position i, .position n]
  if n < 0 then
    Call.fail .removeRun .negativeLength
  else
    let k ← elementSlot .removeRun a i
    let total := a.length
    let wanted ← Call.requested n
    let available ← Call.minus total k
    let m := min wanted available
    if m = 0 ∨ m = total then
      Call.checked .removeRun (Position.emptyAt a.lower)
    cutRun .removeRun k m

end Anchored

end AnchoredArrays
