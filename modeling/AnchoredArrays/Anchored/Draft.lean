import AnchoredArrays.Anchored.Basic

/-!
Drafts: arrays whose slots may be unwritten. A draft is allocated over given bounds, may be
resized any number of times, and becomes an array once every slot is written.

* `Draft.allocate`, `Draft.resize`: the two operations that ask for a buffer of given length;
* `Draft.writeFrom`, `Draft.finish`: writing slots, and taking the draft as an array.
-/

namespace AnchoredArrays

open Element

/-- An array of cells. -/
abbrev Draft (α : Type) [Element α] : Type := Anchored (Cell α)

namespace Draft

variable {α σ : Type} [Element α]

/-- A draft of unwritten slots over the positions from `lower` to `upper`. -/
def allocate (lower upper : Int64) : Call σ α (Draft α) := do
  Call.trace .allocate [.position lower, .position upper]
  if lower = Position.least ∧ upper = Position.greatest then
    Call.fail .allocate .wholeSpace
  else if ← Call.belowPred upper lower then
    Call.fail .allocate .crossedBounds
  else
    let n ← Call.countOf lower upper
    if maxLength α < n then
      Call.fail .allocate .noMemory
    else
      Call.obtain .allocate n
      pure ⟨lower, upper, .repeated n .fresh⟩

/-- Gives the draft exactly `n` slots. The lower bound and the slots that remain are kept, new
slots are unwritten; a draft whose resizing fails is unchanged. -/
def resize (n : Nat) : Call (Draft α) α Unit := do
  let a ← Call.held
  Call.trace .resize [a.bounds, .length n]
  if n = 0 then
    Call.checked .resize (Position.emptyAt a.lower)
  if ← Call.exceeds a.lower n then
    Call.fail .resize .noMemory
  else
    Call.renew .resize a.length n
    let upper ← Call.maxOf a.lower n
    Call.hold { a with upper, slots := Buffer.resize a.slots n }

/-- Writes elements into the slots from the given one on. -/
def writeFrom (start : Nat) (new : Slots α) : Call (Draft α) α Unit := do
  let a ← Call.held
  let slots ← Buffer.write a.slots start new.cells
  Call.hold { a with slots }

/-- The array that a draft has become; every slot has to be written. -/
def finish (a : Draft α) : Call σ α (Anchored α) := do
  let slots ← Buffer.settle a.slots
  pure ⟨a.lower, a.upper, slots⟩

end Draft

end AnchoredArrays
