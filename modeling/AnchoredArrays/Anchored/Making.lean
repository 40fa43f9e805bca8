import AnchoredArrays.Anchored.Fill

/-!
Making arrays: empty ones, from given elements, from a function of the position, and from one
element repeated; and moving an array to another anchor.

* `Anchored.empty`, `Anchored.ofList`, `Anchored.singleton`, `Anchored.pair`: given elements;
* `Anchored.ofFn`: the values of a function, visited from the lower to the upper bound;
* `Anchored.replicate`: one element in every slot;
* `Anchored.reanchor`: the same elements at other positions.
-/

namespace AnchoredArrays

open Element

namespace Anchored

variable {α σ τ : Type} [Element α]

/-- The empty array anchored at `lower`, as the result of the given operation. -/
def emptyFor (operation : Operation) (lower : Int64) : Call σ α (Anchored α) := do
  Call.checked operation (Position.emptyAt lower)
  Call.obtain operation 0
  let upper ← Call.exactly (lower.toInt - 1)
  pure ⟨lower, upper, .nil⟩

/-- The empty array anchored at `lower`. -/
def empty (lower : Int64) : Call σ α (Anchored α) := emptyFor .empty lower

/-- The elements of a list, anchored at `lower`. -/
def ofList (lower : Int64) (items : List α) : Call σ α (Anchored α) :=
  Call.given (.ofList items) do
    if items.length = 0 then
      emptyFor .ofList lower
    else if ← Call.exceeds lower items.length then
      Call.fail .ofList .noMemory
    else
      Call.obtain .ofList items.length
      let upper ← Call.maxOf lower items.length
      pure ⟨lower, upper, .ofList items⟩

/-- Calls `f` at `n` positions, the first of them `k` behind `start`, each call passing on what the
one before left behind; the values. -/
def visit (f : τ → Int64 → α × τ) (start : Int64) : Nat → Nat → τ → Call σ α (List α × τ)
  | 0, _, t => pure ([], t)
  | n + 1, k, t => do
    let (x, t) ← Call.produce f t (start + Int64.ofNat k)
    let (rest, t) ← visit f start n (k + 1) t
    pure (x :: rest, t)

/-- The array over the positions from `lower` to `upper` that holds the value of `f` at each
position. The function is called once for each position, in ascending order, and may depend on
what its earlier calls left behind. -/
def ofFn (lower upper : Int64) (f : τ → Int64 → α × τ) (t : τ) : Call σ α (Anchored α × τ) := do
  let draft ← Call.during .ofFn (Draft.allocate lower upper)
  let (values, t) ← visit f lower draft.length 0 t
  let slots ← Buffer.write draft.slots 0 (Slots.ofList values).cells
  let a ← Draft.finish { draft with slots }
  pure (a, t)

/-- The array over the positions from `lower` to `upper` that holds `x` in every slot: copies of it,
and `x` itself in the last one. -/
def replicate (lower upper : Int64) (x : α) : Call σ α (Anchored α) := do
  Call.trace .replicate [.position lower, .position upper]
  let draft ← Call.given (.single x) (Call.during .replicate (Draft.allocate lower upper))
  let cells ← Fill.repeatedly x draft.slots.toList.toArray
  Draft.finish { draft with slots := .ofList cells.toList }

/-- The array of one element at position `start`. -/
def singletonAt (start : Int64) (x : α) : Call σ α (Anchored α) :=
  Call.given (.single x) do
    Call.obtain .singleton 1
    pure ⟨start, start, .single x⟩

/-- The array of one element at position 1. -/
def singleton (x : α) : Call σ α (Anchored α) := singletonAt 1 x

/-- The array of two elements at positions 1 and 2. -/
def pair (x y : α) : Call σ α (Anchored α) :=
  Call.given (.ofList [x, y]) do
    Call.obtain .pair 2
    pure ⟨1, 2, .ofList [x, y]⟩

/-- Whether `n` slots cannot be anchored at `start`: the last of them would lie beyond the greatest
position, or there is none and `start` is the smallest position. -/
def misplaced (start : Int64) (n : Nat) : Call σ α Bool :=
  if n = 0 then pure (decide (start = Position.least)) else Call.overruns start n

/-- Moves the lower bound to `start` and keeps the elements. The upper bound has to be a position,
and an empty array cannot be anchored at the smallest one. -/
def reanchor (start : Int64) : Call (Anchored α) α Unit := do
  let a ← Call.held
  Call.trace .reanchor [a.bounds, .position start]
  let n := a.length
  if ← misplaced start n then
    Call.fail .reanchor .noSuchAnchor
  else
    let upper ← Call.maxOf start n
    Call.hold { a with lower := start, upper }

end Anchored

end AnchoredArrays
