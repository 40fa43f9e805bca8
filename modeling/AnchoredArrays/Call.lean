import AnchoredArrays.Record
import AnchoredArrays.Cell

/-!
Calls: what an operation does besides computing a result. A call works on a value that it holds,
is given buffers and copies as far as a supply grants them, and keeps a tally of what it asked
for, copied, dropped and recorded. It may halt: with a failure, which is an answer; with a panic;
or with a fault, which marks a step outside exact arithmetic or outside a buffer. The value it
holds and the tally are there after a halt as well, so an operation that has to undo its work
before it fails has to say so.

* `Call.request`, `Call.obtain`: fresh buffers, granted or refused;
* `Call.exchange`, `Call.renew`: buffers in place of others; `Call.exchange_eq`: what is asked for
  depends on the new length only;
* `Call.copyAll`, `Call.copyOne`: copies, as many as the supply lets through;
* `Call.receive`, `Call.produce`, `Call.discard`, `Call.leak`: elements that come and go;
* `Call.guarding`, `Call.orUndo`, `Call.given`, `Call.inSlot`: what happens on a halt;
* `Call.minus`, `Call.exactly`, `Call.countOf`, `Call.maxOf`, `Call.offsetOf`, `Call.requested`,
  `Call.belowPred`, `Call.beyondSucc`, `Call.exceeds`: arithmetic that faults where it is not exact,
  and a lemma for each that says when it is.
-/

namespace AnchoredArrays

open Element

/-- What the surroundings grant to one call. -/
structure Supply where
  /-- Whether the request of the given number, from zero, is granted that many bytes. -/
  grants : Nat → Nat → Bool
  /-- How many copies of elements go through, if there is a limit. -/
  copies : Option Nat

namespace Supply

/-- Everything is granted. -/
def ample : Supply := ⟨fun _ _ => true, none⟩

/-- Refuses all requests of `ceiling` bytes or more and, if there is one, the request with number
`refused`; lets through as many copies as `copies` says. -/
def limited (ceiling : Nat) (refused copies : Option Nat) : Supply where
  grants k bytes := bytes < ceiling && refused != some k
  copies := copies

end Supply

/-- A request for a buffer, and whether it was granted. -/
structure Request where
  bytes : Nat
  granted : Bool
  deriving DecidableEq, Repr

/-- What a call did: the requests it made and the records it left, in order, and what became of
elements, the latest batch first. -/
structure Tally (α : Type) [Element α] where
  requests : List Request
  /-- The elements that came into being while the call ran, other than as copies. -/
  received : Slots α
  /-- The elements of which copies were made. -/
  copied : Slots α
  dropped : Slots α
  /-- The elements that nothing holds any more, though they were not dropped. -/
  leaked : Slots α
  log : List Record

namespace Tally

variable {α : Type} [Element α]

/-- The tally before a call. -/
def blank : Tally α := ⟨[], .nil, .nil, .nil, .nil, []⟩

/-- The copies that a call made. -/
def copies (t : Tally α) : Slots α := t.copied.map Element.copy

/-- The tally of two calls, one after the other. -/
def join (t u : Tally α) : Tally α where
  requests := t.requests ++ u.requests
  received := u.received ++ t.received
  copied := u.copied ++ t.copied
  dropped := u.dropped ++ t.dropped
  leaked := u.leaked ++ t.leaked
  log := t.log ++ u.log

end Tally

/-- The ways in which a call breaks off without an answer. -/
inductive Panic where
  /-- A position that has to be that of an element is not. -/
  | outOfRange (i min max : Int64)
  /-- A slot that has to hold an array is empty. -/
  | consumed (operation : Operation)
  /-- No further copy is let through. -/
  | copiesExhausted
  /-- There is no buffer for a copy that cannot fail otherwise. -/
  | outOfMemory (operation : Operation)
  deriving DecidableEq, Repr

/-- The text of a panic. -/
def Panic.message : Panic → String
  | .outOfRange i min max =>
      "index " ++ toString i.toInt ++ " out of range " ++ toString min.toInt ++ "..="
        ++ toString max.toInt
  | .consumed operation => operation.label ++ ": temporary array was already consumed"
  | .copiesExhausted => "clone budget exhausted"
  | .outOfMemory operation => operation.label ++ ": memory allocation failed"

/-- The steps that no call on a well-formed array takes. -/
inductive Fault where
  /-- A sum or a difference that is no machine word. -/
  | overflow
  /-- A conversion between bounds, lengths and offsets that wraps. -/
  | inexact
  /-- An access outside a buffer. -/
  | outsideBuffer
  /-- A slot that is read or dropped before it is written. -/
  | unwritten
  /-- An access outside the span that is being sorted. -/
  | outsideSpan
  /-- A comparison of an item with itself. -/
  | sameItem
  deriving DecidableEq, Repr

/-- The reasons for a call to end without a result. -/
inductive Halt where
  | failure (failure : Failure)
  | panic (panic : Panic)
  | fault (fault : Fault)
  deriving DecidableEq, Repr

/-- What a call works on: the value it holds, how many more copies go through, if there is a
limit, and its tally so far. -/
structure Frame (σ α : Type) [Element α] where
  held : σ
  copiesLeft : Option Nat
  tally : Tally α

/-- A call that holds a value of type `σ`, handles elements of type `α` and results in a `ρ`. -/
def Call (σ α : Type) [Element α] (ρ : Type) : Type :=
  Supply → Frame σ α → Except Halt ρ × Frame σ α

namespace Call

variable {σ α τ ρ π : Type} [Element α]

/-- The call that results in `r` and does nothing. -/
protected def pure (r : ρ) : Call σ α ρ := fun _ f => (.ok r, f)

/-- One call after another, unless the first halts. -/
protected def bind (c : Call σ α ρ) (next : ρ → Call σ α π) : Call σ α π := fun supply f =>
  match c supply f with
  | (.ok r, f') => next r supply f'
  | (.error h, f') => (.error h, f')

instance : Monad (Call σ α) where
  pure := Call.pure
  bind := Call.bind

theorem pure_apply (r : ρ) (supply : Supply) (f : Frame σ α) :
    (pure r : Call σ α ρ) supply f = (.ok r, f) := rfl

/-- A sequence of two calls, by the outcome of the first. -/
theorem bind_apply (c : Call σ α ρ) (next : ρ → Call σ α π) (supply : Supply) (f : Frame σ α) :
    (c >>= next) supply f
      = match c supply f with
        | (.ok r, f') => next r supply f'
        | (.error h, f') => (.error h, f') := rfl

/-- A call on the value `a` from a blank tally: its outcome, the value afterwards, the tally. -/
def run (c : Call σ α ρ) (supply : Supply) (a : σ) : Except Halt ρ × Frame σ α :=
  c supply ⟨a, supply.copies, .blank⟩

/-! ### The value held -/

/-- The value held. -/
def held : Call σ α σ := fun _ f => (.ok f.held, f)

/-- Holds `a` from now on. -/
def hold (a : σ) : Call σ α Unit := fun _ f => (.ok (), { f with held := a })

/-! ### Halting -/

/-- Leaves a record. -/
def record (r : Record) : Call σ α Unit := fun _ f =>
  (.ok (), { f with tally := { f.tally with log := f.tally.log ++ [r] } })

/-- Leaves the trace of a call. -/
def trace (operation : Operation) (arguments : List Argument) : Call σ α Unit :=
  record (.trace operation arguments)

/-- Halts. -/
def halt (h : Halt) : Call σ α ρ := fun _ f => (.error h, f)

/-- Fails for a reason, leaving the record of it. -/
def fail (operation : Operation) (reason : Reason) : Call σ α ρ := do
  record (.debug ⟨operation, reason⟩)
  halt (.failure ⟨operation, reason⟩)

/-- Breaks off. -/
def panic (p : Panic) : Call σ α ρ := halt (.panic p)

/-- Stops at a fault unless `p` holds. -/
def require (p : Prop) [Decidable p] (fault : Fault) : Call σ α Unit :=
  if p then pure () else halt (.fault fault)

/-- What is required and holds leaves no trace. -/
theorem require_pos {p : Prop} [Decidable p] (h : p) (fault : Fault) :
    (require p fault : Call σ α Unit) = pure () := if_pos h

/-- The result of a check, whose reason is reported by `operation`. -/
def checked (operation : Operation) : Except Reason ρ → Call σ α ρ
  | .ok r => pure r
  | .error reason => fail operation reason

/-- Reports the failures of a call under another operation. Its record stands as it was left. -/
def during (operation : Operation) (c : Call σ α ρ) : Call σ α ρ := fun supply f =>
  match c supply f with
  | (.error (.failure e), f') => (.error (.failure { e with operation := operation }), f')
  | out => out

/-- Runs `undo` when `c` fails, before the failure goes on. -/
def orUndo (c : Call σ α ρ) (undo : Call σ α Unit) : Call σ α ρ := fun supply f =>
  match c supply f with
  | (.error (.failure e), f') => (undo.bind fun _ => halt (.failure e)) supply f'
  | out => out

/-- Runs `cleanup` when `c` fails or breaks off, before the halt goes on. -/
def guarding (c : Call σ α ρ) (cleanup : Call σ α Unit) : Call σ α ρ := fun supply f =>
  match c supply f with
  | (.error (.fault e), f') => (.error (.fault e), f')
  | (.error h, f') => (cleanup.bind fun _ => halt h) supply f'
  | out => out

/-! ### Buffers -/

/-- Asks for so many bytes; whether they were granted. -/
def ask (bytes : Nat) : Call σ α Bool := fun supply f =>
  let granted := supply.grants f.tally.requests.length bytes
  (.ok granted,
    { f with tally := { f.tally with requests := f.tally.requests ++ [⟨bytes, granted⟩] } })

/-- A fresh buffer of `n` slots; whether it is there. A buffer without bytes is not asked for and
always there; one that is too long for any buffer is not asked for either and never there. -/
def request (n : Nat) : Call σ α Bool :=
  if maxLength α < n then pure false
  else if n * size α = 0 then pure true
  else ask (n * size α)

/-- A buffer of `n` slots in place of one of `old`; whether it is there. If there are no bytes
before and after, the buffer stays; if there are none before, a fresh one is asked for; if there are
none after, the old one is given up and nothing is asked for. -/
def exchange (old n : Nat) : Call σ α Bool :=
  if maxLength α < n then pure false
  else
    match old * size α, n * size α with
    | 0, 0 => pure true
    | 0, bytes => ask bytes
    | _, 0 => pure true
    | _, bytes => ask bytes

/-- What is asked for in place of another buffer is what is asked for a fresh one. -/
theorem exchange_eq (old n : Nat) : (exchange old n : Call σ α Bool) = request n := by
  rw [exchange, request]
  congr 1
  cases old * size α <;> cases n * size α <;> rfl

/-- A fresh buffer of `n` slots. The call fails if it is refused. -/
def obtain (operation : Operation) (n : Nat) : Call σ α Unit := do
  if ← request n then pure () else fail operation .noMemory

/-- A buffer of `n` slots in place of one of `old`. The call fails if it is refused. -/
def renew (operation : Operation) (old n : Nat) : Call σ α Unit := do
  if ← exchange old n then pure () else fail operation .noMemory

theorem renew_eq (operation : Operation) (old n : Nat) :
    (renew operation old n : Call σ α Unit) = obtain operation n := by
  rw [renew, exchange_eq, obtain]

/-! ### Elements that come and go -/

/-- Elements that come into being and are held from now on. -/
def receive (s : Slots α) : Call σ α Unit := fun _ f =>
  (.ok (), { f with tally := { f.tally with received := s ++ f.tally.received } })

/-- Calls a function that makes an element, with the memory that its earlier calls left behind: the
element, which comes into being, and the memory afterwards. -/
def produce {ι : Type} (f : τ → ι → α × τ) (t : τ) (i : ι) : Call σ α (α × τ) := do
  let (x, t) := f t i
  receive (.single x)
  pure (x, t)

/-- Copies elements in order. When no further copy is let through, the call breaks off after
those that were, and leaves these copies behind. -/
def copyAll (s : Slots α) : Call σ α (Slots α) := fun _ f =>
  match f.copiesLeft with
  | none =>
    (.ok (s.map Element.copy),
      { f with copiesLeft := none, tally := { f.tally with copied := s ++ f.tally.copied } })
  | some left =>
    if s.length ≤ left then
      (.ok (s.map Element.copy),
        { f with
          copiesLeft := some (left - s.length)
          tally := { f.tally with copied := s ++ f.tally.copied } })
    else
      let made := s.take left
      (.error (.panic .copiesExhausted),
        { f with
          copiesLeft := some 0
          tally := { f.tally with
            copied := made ++ f.tally.copied
            leaked := made.map Element.copy ++ f.tally.leaked } })

/-- Copies one element. -/
def copyOne (x : α) : Call σ α α := do
  let _ ← copyAll (.single x)
  pure (Element.copy x)

/-- Drops elements. -/
def discard (s : Slots α) : Call σ α Unit := fun _ f =>
  (.ok (), { f with tally := { f.tally with dropped := s ++ f.tally.dropped } })

/-- Leaves elements behind: they are not held any more and not dropped. -/
def leak (s : Slots α) : Call σ α Unit := fun _ f =>
  (.ok (), { f with tally := { f.tally with leaked := s ++ f.tally.leaked } })

/-- A call that was given elements to keep: they are dropped when it fails or breaks off. -/
def given (s : Slots α) (c : Call σ α ρ) : Call σ α ρ := c.guarding (discard s)

/-! ### Holding another value -/

/-- A call on a value of its own; the value afterwards comes with the result. -/
def on (a : τ) (c : Call τ α ρ) : Call σ α (Except Halt ρ × τ) := fun supply f =>
  match c supply ⟨a, f.copiesLeft, f.tally⟩ with
  | (out, f') => (.ok (out, f'.held), { f' with held := f.held })

/-- A call on the value in a slot, which has to be there. -/
def inSlot (operation : Operation) (c : Call τ α ρ) : Call (Option τ) α ρ := do
  match ← held with
  | none => panic (.consumed operation)
  | some a =>
    let (out, a') ← on a c
    hold (some a')
    match out with
    | .ok r => pure r
    | .error h => halt h

/-- The value in a slot, which has to be there. -/
def inspect (operation : Operation) : Call (Option τ) α τ := do
  match ← held with
  | none => panic (.consumed operation)
  | some a => pure a

/-- Takes the value out of a slot. -/
def takeOut (operation : Operation) : Call (Option τ) α τ := do
  let a ← inspect operation
  hold none
  pure a

/-! ### Exact arithmetic -/

/-- A difference of numbers, which has to be a number. -/
def minus (m n : Nat) : Call σ α Nat := do
  require (n ≤ m) .overflow
  pure (m - n)

/-- The position `z`, which has to be one. -/
def exactly (z : Int) : Call σ α Int64 := do
  require ((Int64.ofInt z).toInt = z) .overflow
  pure (Int64.ofInt z)

/-- The number of slots between bounds, which has to be exact. -/
def countOf (min max : Int64) : Call σ α Nat := do
  let n := (Position.count min max).toNat
  require ((n : Int) = max.toInt - min.toInt + 1) .inexact
  pure n

/-- The upper bound of `n` slots anchored at `min`, which has to be exact. -/
def maxOf (min : Int64) (n : Nat) : Call σ α Int64 := do
  let max := Position.maxOfCount min (UInt64.ofNat n)
  require (max.toInt = min.toInt + n - 1) .inexact
  pure max

/-- The distance of position `i` from the anchor `min`, which has to be exact. -/
def offsetOf (min i : Int64) : Call σ α Nat := do
  let n := (Position.offset min i).toNat
  require ((n : Int) = i.toInt - min.toInt) .inexact
  pure n

/-- A length that is given as a position, which has to be exact. -/
def requested (n : Int64) : Call σ α Nat := do
  require ((Position.requested n : Int) = n.toInt) .inexact
  pure (Position.requested n)

/-- Forms the sum `z` in a wide word, which has to be exact. -/
def wideSum (z : Int) : Call σ α Unit := require (Position.wide z = z) .overflow

/-- Whether `i` lies more than one below `min`. -/
def belowPred (i min : Int64) : Call σ α Bool := do
  wideSum (min.toInt - 1)
  pure (Position.belowPred i min)

/-- Whether `i` lies more than one above `max`. -/
def beyondSucc (i max : Int64) : Call σ α Bool := do
  wideSum (max.toInt + 1)
  pure (Position.beyondSucc i max)

/-- Whether the last of `n` slots from position `lower` on lies beyond the greatest position. -/
def overruns (lower : Int64) (n : Nat) : Call σ α Bool := do
  wideSum (lower.toInt + n)
  wideSum (lower.toInt + n - 1)
  pure (Position.overruns lower n)

/-- Whether `n` slots from position `lower` on are too many for a buffer or for the positions. -/
def exceeds (lower : Int64) (n : Nat) : Call σ α Bool :=
  if maxLength α < n then pure true else overruns lower n

/-! ### Where the arithmetic is exact -/

theorem minus_of_le {m n : Nat} (h : n ≤ m) : (minus m n : Call σ α Nat) = pure (m - n) := by
  rw [minus, require_pos h]
  rfl

theorem exactly_of_mem {z : Int} (hl : Position.least.toInt ≤ z)
    (hg : z ≤ Position.greatest.toInt) :
    (exactly z : Call σ α Int64) = pure (Int64.ofInt z) := by
  rw [exactly, require_pos (Int64.toInt_ofInt_of_le hl (by
    rw [Position.toInt_greatest] at hg; omega))]
  rfl

theorem countOf_of_le {min max : Int64} {n : Nat} (h : (n : Int) = max.toInt - min.toInt + 1)
    (hn : n < 0x10000000000000000) : (countOf min max : Call σ α Nat) = pure n := by
  have hc := Position.toNat_count min max
  have he : (Position.count min max).toNat = n := by omega
  rw [countOf, he, require_pos h]
  rfl

theorem maxOf_of_le {min max : Int64} {n : Nat} (h : max.toInt = min.toInt + n - 1)
    (hn : n < 0x10000000000000000) : (maxOf min n : Call σ α Int64) = pure max := by
  have he : Position.maxOfCount min (UInt64.ofNat n) = max := by
    apply Int64.toInt_inj.1
    have hm : (UInt64.ofNat n).toNat = n := UInt64.toNat_ofNat_of_lt' hn
    rw [Position.toInt_maxOfCount, hm, ← h]
    exact Int.bmod_eq_of_le (by have := max.le_toInt; omega) (by have := max.toInt_lt; omega)
  rw [maxOf, he, require_pos h]
  rfl

theorem offsetOf_of_le {min i : Int64} (h : min.toInt ≤ i.toInt) :
    (offsetOf min i : Call σ α Nat) = pure (i.toInt - min.toInt).toNat := by
  have ho := Position.toNat_offset min i
  have hl := min.le_toInt
  have hg := i.toInt_lt
  have he : ((Position.offset min i).toNat : Int) = i.toInt - min.toInt := by omega
  rw [offsetOf, require_pos he]
  have hn : (Position.offset min i).toNat = (i.toInt - min.toInt).toNat := by omega
  rw [hn]
  rfl

theorem requested_of_nonneg {n : Int64} (h : 0 ≤ n.toInt) :
    (requested n : Call σ α Nat) = pure n.toInt.toNat := by
  rw [requested, Position.requested_of_nonneg h, require_pos (Int.toNat_of_nonneg h)]
  rfl

theorem belowPred_eq (i min : Int64) :
    (belowPred i min : Call σ α Bool) = pure (decide (i.toInt < min.toInt - 1)) := by
  rw [belowPred, wideSum, require_pos (Position.wide_pred min), Position.belowPred_eq]
  rfl

theorem beyondSucc_eq (i max : Int64) :
    (beyondSucc i max : Call σ α Bool) = pure (decide (max.toInt + 1 < i.toInt)) := by
  rw [beyondSucc, wideSum, require_pos (Position.wide_succ max), Position.beyondSucc_eq]
  rfl

theorem overruns_of_lt (lower : Int64) {n : Nat} (hn : n < 0x10000000000000000) :
    (overruns lower n : Call σ α Bool)
      = pure (decide (Position.greatest.toInt < lower.toInt + n - 1)) := by
  rw [overruns, wideSum, wideSum, require_pos (Position.wide_add lower hn),
    require_pos (Position.wide_last lower hn), Position.overruns_eq lower hn]
  rfl

theorem exceeds_eq (lower : Int64) (n : Nat) :
    (exceeds lower n : Call σ α Bool)
      = pure (decide (maxLength α < n ∨ Position.greatest.toInt < lower.toInt + n - 1)) := by
  rw [exceeds]
  by_cases hlong : maxLength α < n
  · rw [if_pos hlong, decide_eq_true (.inl hlong)]
  · have hn := Nat.le_trans (Nat.not_lt.1 hlong) (maxLength_le α)
    rw [Position.byteLimit] at hn
    rw [if_neg hlong, overruns_of_lt lower (by omega)]
    simp only [hlong, false_or]

end Call

end AnchoredArrays
