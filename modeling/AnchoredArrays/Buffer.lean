import AnchoredArrays.Call

/-!
Access to buffers within calls. Every access names the slots it touches and faults unless the
buffer has them at that moment.

* `Buffer.read`, `Buffer.readRun`: one slot, a run of slots;
* `Buffer.copyWithin`, `Buffer.write`: moving slots inside a buffer, and writing slots;
* `Buffer.truncate`, `Buffer.resize`: a buffer of another length with the same first slots;
* `Buffer.settle`: the contents of cells that were all written.

A lemma for each access says what it results in when it is inside the buffer.
-/

namespace AnchoredArrays

namespace Buffer

variable {σ α β : Type} [Element α] [Element β]

/-- The element of slot `i`. -/
def read (s : Slots β) (i : Nat) : Call σ α β :=
  match s.get? i with
  | some x => pure x
  | none => Call.halt (.fault .outsideBuffer)

/-- The `n` slots from `start` on. -/
def readRun (s : Slots β) (start n : Nat) : Call σ α (Slots β) := do
  Call.require (start + n ≤ s.length) .outsideBuffer
  pure (s.slice start n)

/-- Writes slots from `start` on. -/
def write (s : Slots β) (start : Nat) (new : Slots β) : Call σ α (Slots β) := do
  Call.require (start + new.length ≤ s.length) .outsideBuffer
  pure (s.overwrite start new)

/-- Copies `n` slots from `source` on to those from `target` on; the two runs may overlap. -/
def copyWithin (s : Slots β) (source target n : Nat) : Call σ α (Slots β) := do
  let run ← readRun s source n
  write s target run

/-- The first `n` slots. -/
def truncate (s : Slots β) (n : Nat) : Call σ α (Slots β) := do
  Call.require (n ≤ s.length) .outsideBuffer
  pure (s.take n)

/-- A buffer of `n` cells with the same first cells; those behind them are fresh. -/
def resize (s : Slots (Cell α)) (n : Nat) : Slots (Cell α) :=
  s.take n ++ Slots.repeated (n - s.length) Cell.fresh

/-- The contents of cells, all of which have to be written. -/
def settle (s : Slots (Cell α)) : Call σ α (Slots α) :=
  match s.settled? with
  | some t => pure t
  | none => Call.halt (.fault .unwritten)

/-! ### Accesses inside the buffer -/

theorem read_of_getElem? {s : Slots β} {i : Nat} {x : β} (h : s.toList[i]? = some x) :
    (read s i : Call σ α β) = pure x := by
  rw [read, Slots.get?_eq, h]

theorem readRun_of_le {s : Slots β} {start n : Nat} (h : start + n ≤ s.length) :
    (readRun s start n : Call σ α (Slots β)) = pure (s.slice start n) := by
  rw [readRun, Call.require_pos h]
  rfl

theorem write_of_le {s new : Slots β} {start : Nat} (h : start + new.length ≤ s.length) :
    (write s start new : Call σ α (Slots β)) = pure (s.overwrite start new) := by
  rw [write, Call.require_pos h]
  rfl

theorem copyWithin_of_le {s : Slots β} {source target n : Nat} (hs : source + n ≤ s.length)
    (ht : target + n ≤ s.length) :
    (copyWithin s source target n : Call σ α (Slots β))
      = pure (s.overwrite target (s.slice source n)) := by
  have hl : (s.slice source n).length = n := by
    rw [Slots.length_slice]
    omega
  rw [copyWithin, readRun_of_le hs]
  exact write_of_le (by rw [hl]; exact ht)

theorem truncate_of_le {s : Slots β} {n : Nat} (h : n ≤ s.length) :
    (truncate s n : Call σ α (Slots β)) = pure (s.take n) := by
  rw [truncate, Call.require_pos h]
  rfl

theorem settle_of_toList {s : Slots (Cell α)} {t : Slots α}
    (h : s.toList = t.toList.map Cell.written) : (settle s : Call σ α (Slots α)) = pure t := by
  rw [settle, Slots.settled?_of_toList h]

@[simp] theorem toList_resize (s : Slots (Cell α)) (n : Nat) :
    (resize s n).toList = s.toList.take n ++ List.replicate (n - s.length) Cell.fresh := by
  simp [resize]

end Buffer

end AnchoredArrays
