import AnchoredArrays.Anchored.Moving

/-!
Growing an array in place: elements are added at the end or at a position, the others move up.
Every operation checks that the result fits before it asks for the longer buffer. Elements and
arrays that are given away are dropped if the operation fails.

* `Anchored.splice`: the elements of a buffer are added at a slot, the common part;
* `Anchored.push`, `Anchored.extend`, `Anchored.append`, `Anchored.concat`: at the end;
* `Anchored.insert`, `Anchored.insertMoved`, `Anchored.insertCopy`, `Anchored.insertSelf`: at a
  position.
-/

namespace AnchoredArrays

open Element

namespace Anchored

variable {α σ : Type} [Element α]

/-- The length after `extra` elements were added, if that fits. -/
def grown (operation : Operation) (a : Anchored α) (extra : Nat) : Call σ α Nat := do
  -- the new upper bound is looked at only if a buffer can have that length
  if a.length + extra ≤ maxLength α then
    Call.wideSum (a.upper.toInt + extra)
  Call.checked operation (Position.grownLength (size α) a.length a.upper extra)

/-- Adds `new` at slot `start`: asks for the longer buffer, moves the elements from there on up,
and writes the new ones into the gap. -/
def splice (operation : Operation) (start : Nat) (new : Slots α) : Call (Anchored α) α Unit := do
  let a ← Call.held
  let total ← grown operation a new.length
  Call.renew operation a.length total
  let behind ← Call.minus a.length start
  let opened ← Buffer.copyWithin (Buffer.resize a.slots.cells total) start (start + new.length)
    behind
  let filled ← Buffer.write opened start new.cells
  let slots ← Buffer.settle filled
  let upper ← Call.maxOf a.lower total
  Call.hold { a with upper, slots }

/-- Adds `new` at slot `start`, unless there is nothing to add. -/
def spliceAll (operation : Operation) (start : Nat) (new : Anchored α) :
    Call (Anchored α) α Unit :=
  if new.length = 0 then pure () else splice operation start new.slots

/-- An array as the value of a call of its own: it is the result, or dropped with the halt. -/
def owning (a : Anchored α) (c : Call (Anchored α) α Unit) : Call σ α (Anchored α) := do
  let (out, b) ← Call.on a c
  match out with
  | .ok () => pure b
  | .error h => Call.given b.slots (Call.halt h)

/-- Adds an element at the end. -/
def push (x : α) : Call (Anchored α) α Unit :=
  Call.given (.single x) do
    let a ← Call.held
    Call.trace .push [a.bounds]
    splice .push a.length (.single x)

/-- The array with an element added at the end. -/
def extend (a : Anchored α) (x : α) : Call σ α (Anchored α) :=
  owning a do
    Call.given (.single x) do
      Call.trace .extend [a.bounds]
      splice .extend a.length (.single x)

/-- Adds the elements of `other` at the end. -/
def append (other : Anchored α) : Call (Anchored α) α Unit :=
  Call.given other.slots do
    let a ← Call.held
    Call.trace .append [a.bounds, other.bounds]
    spliceAll .append a.length other

/-- The elements of both arrays, those of `other` behind those of `a`, anchored like `a`. -/
def concat (a other : Anchored α) : Call σ α (Anchored α) :=
  owning a do
    Call.given other.slots do
      Call.trace .concat [a.bounds, other.bounds]
      spliceAll .concat a.length other

/-- The slot of a position at which something can be inserted: that of an element or the one
after the last. -/
def insertionSlot (operation : Operation) (a : Anchored α) (i : Int64) : Call σ α Nat := do
  if i < a.lower then
    Call.fail operation .noInsertionPoint
  else if ← Call.beyondSucc i a.upper then
    Call.fail operation .noInsertionPoint
  else
    Call.offsetOf a.lower i

/-- Adds an element at position `i`. -/
def insert (i : Int64) (x : α) : Call (Anchored α) α Unit :=
  Call.given (.single x) do
    let a ← Call.held
    Call.trace .insert [a.bounds, .position i]
    let start ← insertionSlot .insert a i
    splice .insert start (.single x)

/-- Adds the elements of `new` at position `i`. -/
def insertMoved (i : Int64) (new : Anchored α) : Call (Anchored α) α Unit :=
  Call.given new.slots do
    let a ← Call.held
    Call.trace .insertMoved [a.bounds, .position i, new.bounds]
    let start ← insertionSlot .insertMoved a i
    spliceAll .insertMoved start new

/-- Adds copies of the elements of `source` at slot `start`. The copies are dropped if the longer
buffer is refused. -/
def spliceCopies (operation : Operation) (start : Nat) (source : Anchored α) :
    Call (Anchored α) α Unit := do
  if source.isEmpty then
    pure ()
  else
    let a ← Call.held
    let _ ← grown operation a source.length
    let copies ← copySlots operation source 0 source.length source.lower
    Call.given copies.slots (spliceAll operation start copies)

/-- Adds copies of the elements of `source` at position `i`. -/
def insertCopy (i : Int64) (source : Anchored α) : Call (Anchored α) α Unit := do
  let a ← Call.held
  Call.trace .insertCopy [a.bounds, .position i, source.bounds]
  let start ← insertionSlot .insertCopy a i
  spliceCopies .insertCopy start source

/-- Adds copies of all elements of the array at position `i`. -/
def insertSelf (i : Int64) : Call (Anchored α) α Unit := do
  let a ← Call.held
  Call.trace .insertSelf [a.bounds, .position i]
  let start ← insertionSlot .insertSelf a i
  spliceCopies .insertSelf start a

end Anchored

end AnchoredArrays
