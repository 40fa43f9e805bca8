import AnchoredArrays.Anchored.Copying

/-!
Moving slices: they work on a slot that holds an array. If the whole array is selected, it is
handed over and the slot is empty afterwards. Otherwise the selected elements are moved out into a
buffer of their own, and the slot keeps the others: at their positions for a head and a tail,
closed up at the lower bound for a range and a run. Nothing is copied.

* `Anchored.moveOut`, `Anchored.shrinkTo`: the two buffers that a proper part needs;
* `Anchored.cutRun`: moves consecutive elements out and closes the gap, or leaves the array as
  it was;
* `Anchored.moveHead`, `Anchored.moveTail`, `Anchored.moveRange`, `Anchored.moveRun`.
-/

namespace AnchoredArrays

open Element

namespace Anchored

variable {α σ : Type} [Element α]

/-- The `n` elements from slot `start` on in a buffer of their own, anchored at `anchor`. The
slots they came from are to be given up. -/
def moveOut (operation : Operation) (a : Anchored α) (start n : Nat) (anchor : Int64) :
    Call σ α (Anchored α) := do
  Call.obtain operation n
  let slots ← Buffer.readRun a.slots start n
  let upper ← Call.maxOf anchor n
  pure ⟨anchor, upper, slots⟩

/-- Shortens the buffer to `n` slots and moves the upper bound accordingly. Nothing is changed
if the shorter buffer is refused. -/
def shrinkTo (operation : Operation) (n : Nat) : Call (Anchored α) α Unit := do
  let a ← Call.held
  Call.renew operation a.length n
  let slots ← Buffer.truncate a.slots n
  let upper ← Call.maxOf a.lower n
  Call.hold { a with upper, slots }

/-- Moves the `n` elements from slot `start` on into an array of their own, anchored at the lower
bound, closes the gap and shortens the buffer. If the shorter buffer is refused, the gap is opened
again and the elements are put back. -/
def cutRun (operation : Operation) (start n : Nat) : Call (Anchored α) α (Anchored α) := do
  let a ← Call.held
  let total := a.length
  let behind ← Call.minus (← Call.minus total start) n
  let out ← moveOut operation a start n a.lower
  let closed ← Buffer.copyWithin a.slots (start + n) start behind
  Call.hold { a with slots := closed }
  let rest ← Call.minus total n
  (shrinkTo operation rest).orUndo do
    let b ← Call.held
    let opened ← Buffer.copyWithin b.slots start (start + n) behind
    let slots ← Buffer.write opened start out.slots
    Call.hold { b with slots }
  pure out

/-- The elements from the lower bound to `stop`; the slot keeps those behind. -/
def moveHead (stop : Int64) : Call (Option (Anchored α)) α (Anchored α) := do
  let a ← Call.inspect .moveHead
  Call.trace .moveHead [a.bounds, .position stop]
  if a.lower ≤ stop ∧ a.isEmpty = false then
    if a.upper ≤ stop then
      Call.takeOut .moveHead
    else Call.inSlot .moveHead do
      let n ← Call.countOf a.lower stop
      let behind ← Call.minus a.length n
      let next ← Call.exactly (stop.toInt + 1)
      let rest ← moveOut .moveHead a n behind next
      shrinkTo .moveHead n
      let front ← Call.held
      Call.hold rest
      pure front
  else if ← Call.belowPred stop a.lower then
    Call.fail .moveHead .stopTooLow
  else
    emptyFor .moveHead a.lower

/-- The elements from `start` to the upper bound; the slot keeps those in front. -/
def moveTail (start : Int64) : Call (Option (Anchored α)) α (Anchored α) := do
  let a ← Call.inspect .moveTail
  Call.trace .moveTail [a.bounds, .position start]
  if start < a.lower then
    Call.fail .moveTail .startTooLow
  else if start = a.lower then
    Call.takeOut .moveTail
  else if start ≤ a.upper then
    Call.inSlot .moveTail do
      let n ← Call.offsetOf a.lower start
      let behind ← Call.minus a.length n
      let out ← moveOut .moveTail a n behind start
      shrinkTo .moveTail n
      pure out
  else
    emptyFor .moveTail a.lower

/-- The elements from `start` to `stop`; the slot keeps the others, closed up. -/
def moveRange (start stop : Int64) : Call (Option (Anchored α)) α (Anchored α) := do
  let a ← Call.inspect .moveRange
  Call.trace .moveRange [a.bounds, .position start, .position stop]
  if start < a.lower then
    Call.fail .moveRange .startTooLow
  else
    let n ← rangeLength .moveRange a start stop
    if n = 0 then
      emptyFor .moveRange a.lower
    else if n = a.length then
      Call.takeOut .moveRange
    else Call.inSlot .moveRange do
      let k ← Call.offsetOf a.lower start
      cutRun .moveRange k n

/-- Up to `n` elements from `start` on; the slot keeps the others, closed up. -/
def moveRun (start n : Int64) : Call (Option (Anchored α)) α (Anchored α) := do
  let a ← Call.inspect .moveRun
  Call.trace .moveRun [a.bounds, .position start, .position n]
  if start < a.lower ∨ n < 0 then
    Call.fail .moveRun .badRun
  else
    match ← runLength a start n with
    | some m =>
      if m = a.length then
        Call.takeOut .moveRun
      else Call.inSlot .moveRun do
        let k ← Call.offsetOf a.lower start
        cutRun .moveRun k m
    | none => emptyFor .moveRun a.lower

end Anchored

end AnchoredArrays
