import AnchoredArrays.Anchored.Basic

/-!
Reading and replacing single elements, and taking the elements out one after the other.

* `Anchored.read`, `Anchored.replace`: break off at a position that is not that of an element;
* `Anchored.set?`: says whether there was such an element;
* `Drain`: the elements of an array that is used up, in ascending order of positions.
-/

namespace AnchoredArrays

open Element

namespace Anchored

variable {α σ : Type} [Element α]

/-- The element at position `i`, which has to be there. -/
def read (a : Anchored α) (i : Int64) : Call σ α α :=
  match a.get? i with
  | some x => pure x
  | none => Call.panic (.outOfRange i a.lower a.upper)

/-- Puts `x` into the slot of position `i` and drops what was there. -/
def putAt (a : Anchored α) (i : Int64) (x : α) : Call (Anchored α) α Unit := do
  let k := (Position.offset a.lower i).toNat
  let old ← Buffer.readRun a.slots k 1
  let slots ← Buffer.write a.slots k (.single x)
  Call.discard old
  Call.hold { a with slots }

/-- Replaces the element at position `i`, if there is one; whether there was. -/
def set? (i : Int64) (x : α) : Call (Anchored α) α Bool := do
  let a ← Call.held
  if a.contains i then
    putAt a i x
    pure true
  else
    Call.discard (.single x)
    pure false

/-- Replaces the element at position `i`, which has to be there. -/
def replace (i : Int64) (x : α) : Call (Anchored α) α Unit :=
  Call.given (.single x) do
    let a ← Call.held
    if a.contains i then
      putAt a i x
    else
      Call.panic (.outOfRange i a.lower a.upper)

/-- Changes every element in place. -/
def update (f : α → α) : Call (Anchored α) α Unit := do
  let a ← Call.held
  Call.hold (a.map f)

end Anchored

/-- An array that is used up from the front: its buffer, which stays as it is, the number of slots
in it, and how many of them were taken out. -/
structure Drain (α : Type) [Element α] where
  slots : Slots α
  length : Nat
  taken : Nat

namespace Drain

variable {α σ : Type} [Element α]

/-- The drain of an array, from which nothing was taken yet. -/
def ofArray (a : Anchored α) : Drain α := ⟨a.slots, a.length, 0⟩

/-- The next element, if one is left. -/
def next : Call (Drain α) α (Option α) := do
  let d ← Call.held
  if d.taken < d.length then
    let x ← Buffer.read d.slots d.taken
    Call.hold { d with taken := d.taken + 1 }
    pure (some x)
  else
    pure none

/-- How many elements are left. -/
def remaining : Call (Drain α) α Nat := do
  let d ← Call.held
  Call.minus d.length d.taken

/-- Drops the elements that are left. -/
def close : Call (Drain α) α Unit := do
  let d ← Call.held
  let left ← Call.minus d.length d.taken
  let rest ← Buffer.readRun d.slots d.taken left
  Call.discard rest

/-- Asks for the next element `n` times; the answers, and how many were left after each. -/
def nextTimes : Nat → Call (Drain α) α (List (Option α) × List Nat)
  | 0 => pure ([], [])
  | n + 1 => do
    let x ← next
    let left ← remaining
    let (xs, lefts) ← nextTimes n
    pure (x :: xs, left :: lefts)

/-- Asks for the next element `n` times and drops the rest; the answers, and how many elements
were left before the first and after each. -/
def take (n : Nat) : Call (Drain α) α (List (Option α) × List Nat) := do
  let left ← remaining
  let (xs, lefts) ← nextTimes n
  close
  pure (xs, left :: lefts)

end Drain

end AnchoredArrays
