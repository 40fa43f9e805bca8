import AnchoredArrays.Anchored.Making

/-!
Copying slices: the head, the tail, a range and a run of an array as arrays of their own, made of
copies of the selected elements. Ends beyond the array are cut short; starts before it are
refused. A head keeps the lower bound, a tail keeps the positions of its elements, a range and a
run are anchored at the lower bound of the array.

* `Anchored.copySlots`: copies of consecutive elements;
* `Anchored.copy`: a copy of the whole array;
* `Anchored.copyHead`, `Anchored.copyTail`, `Anchored.copyRange`, `Anchored.copyRun`.
-/

namespace AnchoredArrays

open Element

namespace Anchored

variable {α σ : Type} [Element α]

/-- Copies of the `n` elements from slot `start` on, anchored at `anchor`. The copies made before
one that does not go through are lost, neither kept nor dropped. -/
def copySlots (operation : Operation) (a : Anchored α) (start n : Nat) (anchor : Int64) :
    Call σ α (Anchored α) := do
  let source ← Buffer.readRun a.slots start n
  Call.obtain operation n
  let upper ← Call.maxOf anchor n
  let slots ← Call.copyAll source
  pure ⟨anchor, upper, slots⟩

/-- A copy of the whole array. It breaks off, rather than fails, if there is no buffer for it. -/
def copy (a : Anchored α) : Call σ α (Anchored α) := fun supply f =>
  match copySlots .copy a 0 a.length a.lower supply f with
  | (.error (.failure _), f') => (.error (.panic (.outOfMemory .copy)), f')
  | out => out

/-- Copies of the elements from the lower bound to `stop`. -/
def copyHead (a : Anchored α) (stop : Int64) : Call σ α (Anchored α) := do
  Call.trace .copyHead [a.bounds, .position stop]
  if a.lower ≤ stop ∧ a.isEmpty = false then
    let n ← Call.countOf a.lower (min stop a.upper)
    copySlots .copyHead a 0 n a.lower
  else if ← Call.belowPred stop a.lower then
    Call.fail .copyHead .stopTooLow
  else
    emptyFor .copyHead a.lower

/-- Copies of the elements from `start` to the upper bound, at their positions; an empty array
at the lower bound if there are none. -/
def copyTail (a : Anchored α) (start : Int64) : Call σ α (Anchored α) := do
  Call.trace .copyTail [a.bounds, .position start]
  if start < a.lower then
    Call.fail .copyTail .startTooLow
  else if start ≤ a.upper then
    let k ← Call.offsetOf a.lower start
    let n ← Call.countOf start a.upper
    copySlots .copyTail a k n start
  else
    emptyFor .copyTail a.lower

/-- The number of elements from `start` to `stop`, the latter cut short at the upper bound. -/
def rangeLength (operation : Operation) (a : Anchored α) (start stop : Int64) : Call σ α Nat := do
  let stop := min stop a.upper
  if ← Call.belowPred stop start then
    Call.fail operation .stopBeforeStart
  else
    Call.countOf start stop

/-- Copies of the elements from `start` to `stop`, anchored at the lower bound. -/
def copyRange (a : Anchored α) (start stop : Int64) : Call σ α (Anchored α) := do
  Call.trace .copyRange [a.bounds, .position start, .position stop]
  if start < a.lower then
    Call.fail .copyRange .startTooLow
  else
    let n ← rangeLength .copyRange a start stop
    if n = 0 then
      emptyFor .copyRange a.lower
    else
      let k ← Call.offsetOf a.lower start
      copySlots .copyRange a k n a.lower

/-- The number of elements among the `n` from `start` on, if there are any. -/
def runLength (a : Anchored α) (start n : Int64) : Call σ α (Option Nat) :=
  if n ≠ 0 ∧ start ≤ a.upper ∧ a.isEmpty = false then do
    let available ← Call.countOf start a.upper
    let wanted ← Call.requested n
    pure (some (min wanted available))
  else
    pure none

/-- Copies of up to `n` elements from `start` on, anchored at the lower bound. -/
def copyRun (a : Anchored α) (start n : Int64) : Call σ α (Anchored α) := do
  Call.trace .copyRun [a.bounds, .position start, .position n]
  if start < a.lower ∨ n < 0 then
    Call.fail .copyRun .badRun
  else
    match ← runLength a start n with
    | some m =>
      let k ← Call.offsetOf a.lower start
      copySlots .copyRun a k m a.lower
    | none => emptyFor .copyRun a.lower

end Anchored

end AnchoredArrays
