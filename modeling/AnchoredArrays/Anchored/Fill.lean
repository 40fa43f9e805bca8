import AnchoredArrays.Anchored.Draft

/-!
Filling cells with one element: every cell but the last receives a copy of it and the last one
receives the element itself. Cells are visited in blocks of fixed length, then the rest one by
one. If a copy does not go through, what was written so far and the element itself are dropped.

* `Fill.visits`: the cells that receive copies, in the order in which they are written: blocks, and
  then the rest from where the blocks ended;
* `Fill.repeatedly`: the filled cells.
-/

namespace AnchoredArrays

namespace Fill

variable {α σ : Type} [Element α]

/-- The length of a block. -/
def stride : Nat := 32

/-- The whole blocks among the first `n` cells, one after the other. -/
def blocks (n : Nat) : List Nat :=
  (List.range (n / stride)).flatMap fun block => (List.range stride).map (block * stride + ·)

/-- How far the cells are written after some were visited: up to the last of these. -/
def filled (visited : List Nat) : Nat := (visited.getLast?.map (· + 1)).getD 0

/-- The order in which the first `n` cells are written: whole blocks first, then the rest, from
where the blocks have got to. -/
def visits (n : Nat) : List Nat :=
  blocks n ++ List.range' (filled (blocks n)) (n - filled (blocks n))

/-- Writes an element into the cell of the given number, which has to be there. -/
def writeAt (i : Nat) (x : α) (cells : Array (Cell α)) : Call σ α (Array (Cell α)) :=
  if h : i < cells.size then
    pure (cells.set i (.written x))
  else
    Call.halt (.fault .outsideBuffer)

/-- Drops the elements of the first `filled` cells, all of which have to be written, and `x`. -/
def abandon (x : α) (filled : Nat) (cells : Array (Cell α)) : Call σ α Unit := do
  let elements ← Buffer.settle (.ofList (cells.toList.take filled))
  Call.discard elements
  Call.discard (.single x)

/-- Writes a copy of `x` into each of the cells visited. The first `filled` cells are those
written so far; they and `x` are dropped if a copy does not go through. -/
def writeCopies (x : α) : List Nat → Nat → Array (Cell α) → Call σ α (Array (Cell α))
  | [], _, cells => pure cells
  | i :: rest, filled, cells => do
    let copy ← (Call.copyOne x).guarding (abandon x filled cells)
    let cells ← writeAt i copy cells
    writeCopies x rest (i + 1) cells

/-- Fills cells with `x`, which is dropped if there are none. -/
def repeatedly (x : α) (cells : Array (Cell α)) : Call σ α (Array (Cell α)) := do
  if cells.size = 0 then
    Call.discard (.single x)
    pure cells
  else
    let last := cells.size - 1
    let cells ← writeCopies x (visits last) 0 cells
    writeAt last x cells

end Fill

end AnchoredArrays
