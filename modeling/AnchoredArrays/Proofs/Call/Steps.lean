import AnchoredArrays.Buffer
import Mathlib.Tactic.Common

/-!
The steps of calls, one equation each: what a step does at a given frame, and how it goes on from
there.

* `LawfulMonad (Call σ α)`: sequences of calls associate;
* `held_bind`, `hold_bind`, `receive_bind`, `produce_bind`, `leak_bind`, `trace_bind`: the value
  held, elements that come and go, and the records;
* `Frame.grants`, `Frame.asking`, `obtain_apply`, `obtain_uniform`: whether a buffer is granted
  depends on the requests before it alone, and a refusal leaves the value held as it is;
* `obtain_bind_congr`: two calls that ask for the same buffer agree if they agree afterwards.
-/

namespace AnchoredArrays

open Element

variable {σ α τ ρ π : Type} [Element α] {supply : Supply} {f g : Frame σ α}

namespace Frame

/-- The frame with one more record in its log. -/
def leaving (f : Frame σ α) (r : Record) : Frame σ α :=
  { f with tally := { f.tally with log := f.tally.log ++ [r] } }

/-- The frame after elements came into being. -/
def receiving (f : Frame σ α) (s : Slots α) : Frame σ α :=
  { f with tally := { f.tally with received := s ++ f.tally.received } }

/-- The frame after elements were left behind. -/
def leaking (f : Frame σ α) (s : Slots α) : Frame σ α :=
  { f with tally := { f.tally with leaked := s ++ f.tally.leaked } }

/-- Whether the next request, for a buffer of `n` slots, is granted. -/
def grants (f : Frame σ α) (supply : Supply) (n : Nat) : Bool :=
  n ≤ maxLength α && (n * size α == 0 || supply.grants f.tally.requests.length (n * size α))

/-- The frame after a buffer of `n` slots was asked for. -/
def asking (f : Frame σ α) (supply : Supply) (n : Nat) : Frame σ α :=
  if maxLength α < n ∨ n * size α = 0 then f
  else
    { f with tally :=
        { f.tally with requests := f.tally.requests ++ [⟨n * size α, f.grants supply n⟩] } }

/-- The latest elements that came into being are listed first. -/
lemma receiving_receiving (s t : Slots α) :
    (f.receiving s).receiving t = f.receiving (t ++ s) := by
  have happend : t ++ (s ++ f.tally.received) = t ++ s ++ f.tally.received := Slots.ext (by simp)
  rw [receiving, receiving, receiving, happend]

@[simp] lemma receiving_nil : f.receiving (.ofList []) = f := by
  have hnone : Slots.ofList [] ++ f.tally.received = f.tally.received := Slots.ext (by simp)
  rw [receiving, hnone]

@[simp] lemma leaving_held (r : Record) : (f.leaving r).held = f.held := rfl

@[simp] lemma leaving_grants (r : Record) (n : Nat) :
    (f.leaving r).grants supply n = f.grants supply n := rfl

@[simp] lemma asking_held (n : Nat) : (f.asking supply n).held = f.held := by
  rw [asking]
  split_ifs <;> rfl

@[simp] lemma asking_copiesLeft (n : Nat) : (f.asking supply n).copiesLeft = f.copiesLeft := by
  rw [asking]
  split_ifs <;> rfl

@[simp] lemma asking_copied (n : Nat) : (f.asking supply n).tally.copied = f.tally.copied := by
  rw [asking]
  split_ifs <;> rfl

@[simp] lemma asking_dropped (n : Nat) : (f.asking supply n).tally.dropped = f.tally.dropped := by
  rw [asking]
  split_ifs <;> rfl

@[simp] lemma asking_received (n : Nat) :
    (f.asking supply n).tally.received = f.tally.received := by
  rw [asking]
  split_ifs <;> rfl

@[simp] lemma asking_leaked (n : Nat) : (f.asking supply n).tally.leaked = f.tally.leaked := by
  rw [asking]
  split_ifs <;> rfl

end Frame

namespace Call

instance : LawfulMonad (Call σ α) := by
  refine LawfulMonad.mk' _ ?_ (fun _ _ => rfl) ?_
  · intro ρ c
    funext supply f
    change (c >>= pure) supply f = c supply f
    rw [bind_apply]
    rcases c supply f with ⟨_ | _, _⟩ <;> rfl
  · intro ρ₁ ρ₂ ρ₃ c next last
    funext supply f
    simp only [bind_apply]
    rcases c supply f with ⟨_ | _, _⟩ <;> rfl

/-! ### The value held, elements and records -/

@[simp] lemma held_bind (next : σ → Call σ α ρ) :
    (held >>= next) supply f = next f.held supply f := rfl

@[simp] lemma hold_apply (a : σ) :
    (hold a : Call σ α Unit) supply f = (.ok (), { f with held := a }) := rfl

@[simp] lemma hold_bind (a : σ) (next : Unit → Call σ α ρ) :
    (hold a >>= next) supply f = next () supply { f with held := a } := rfl

@[simp] lemma receive_bind (s : Slots α) (next : Unit → Call σ α ρ) :
    (receive s >>= next) supply f = next () supply (f.receiving s) := rfl

@[simp] lemma produce_bind {ι : Type} (g : τ → ι → α × τ) (t : τ) (i : ι)
    (next : α × τ → Call σ α ρ) :
    (produce g t i >>= next) supply f
      = next (g t i) supply (f.receiving (.single (g t i).1)) := rfl

@[simp] lemma leak_bind (s : Slots α) (next : Unit → Call σ α ρ) :
    (leak s >>= next) supply f = next () supply (f.leaking s) := rfl

@[simp] lemma trace_bind (operation : Operation) (arguments : List Argument)
    (next : Unit → Call σ α ρ) :
    (trace operation arguments >>= next) supply f
      = next () supply (f.leaving (.trace operation arguments)) := rfl

/-! ### Halts -/

@[simp] lemma fail_bind (operation : Operation) (reason : Reason) (next : ρ → Call σ α π) :
    (fail operation reason >>= next : Call σ α π) = fail operation reason := rfl

@[simp] lemma checked_ok (operation : Operation) (r : ρ) :
    (checked operation (.ok r) : Call σ α ρ) = pure r := rfl

@[simp] lemma checked_error (operation : Operation) (reason : Reason) :
    (checked operation (.error reason) : Call σ α ρ) = fail operation reason := rfl

/-- Whether an array may become empty is checked only if it would; nothing is done if it may. -/
lemma checked_emptyAt {p : Prop} [Decidable p] {lower : Int64} (operation : Operation)
    (c : Call σ α ρ) (h : ¬ (p ∧ lower = Position.least)) :
    (if p then (do checked operation (Position.emptyAt lower); c) else c) = c := by
  split_ifs with hp
  · rw [Position.emptyAt, if_neg fun hlower => h ⟨hp, hlower⟩, checked_ok, pure_bind]
  · rfl

/-- An array that may not become empty makes the check fail. -/
lemma checked_emptyAt_least {p : Prop} [Decidable p] {lower : Int64} (operation : Operation)
    (c : Call σ α ρ) (h : p ∧ lower = Position.least) :
    (if p then (do checked operation (Position.emptyAt lower); c) else c)
      = fail operation .noEmptyAnchor := by
  rw [if_pos h.1, Position.emptyAt, if_pos h.2, checked_error, fail_bind]

lemma bind_congr_left {c c' : Call σ α ρ} (next : ρ → Call σ α π)
    (h : c supply f = c' supply f) : (c >>= next) supply f = (c' >>= next) supply f := by
  rw [bind_apply, bind_apply, h]

lemma given_congr {c c' : Call σ α ρ} (s : Slots α) (h : c supply f = c' supply f) :
    given s c supply f = given s c' supply f := by
  rw [given, given, guarding, guarding, h]

/-! ### Buffers -/

lemma request_apply (n : Nat) :
    (request n : Call σ α Bool) supply f = (.ok (f.grants supply n), f.asking supply n) := by
  rw [request]
  by_cases hlong : maxLength α < n
  · simp [hlong, Frame.grants, Frame.asking, Nat.not_le.2 hlong, pure_apply]
  by_cases hbytes : n * size α = 0
  · simp [hlong, hbytes, Frame.grants, Frame.asking, Nat.not_lt.1 hlong, pure_apply]
  · simp [hlong, hbytes, Frame.grants, Frame.asking, Nat.not_lt.1 hlong, ask]

/-- A buffer is obtained exactly when it is granted; the value held stays as it is. -/
lemma obtain_apply (operation : Operation) (n : Nat) :
    (obtain operation n : Call σ α Unit) supply f
      = if f.grants supply n then (.ok (), f.asking supply n)
        else fail operation .noMemory supply (f.asking supply n) := by
  rw [obtain, bind_apply, request_apply]
  cases f.grants supply n <;> rfl

/-- Whether a buffer is granted, and what is recorded about it, has nothing to do with the value
held. -/
lemma obtain_uniform (supply : Supply) (operation : Operation) (n : Nat) (copies : Option Nat)
    (t : Tally α) :
    ∃ t', (∀ (τ : Type) (a : τ), (obtain operation n : Call τ α Unit) supply ⟨a, copies, t⟩
            = (.ok (), ⟨a, copies, t'⟩))
        ∨ ∀ (τ : Type) (a : τ), (obtain operation n : Call τ α Unit) supply ⟨a, copies, t⟩
            = (.error (.failure ⟨operation, .noMemory⟩), ⟨a, copies, t'⟩) := by
  let u : Frame Unit α := ⟨(), copies, t⟩
  have hask : ∀ (τ : Type) (a : τ),
      (⟨a, copies, t⟩ : Frame τ α).asking supply n = ⟨a, copies, (u.asking supply n).tally⟩ := by
    intro τ a
    rw [Frame.asking, Frame.asking]
    split_ifs <;> rfl
  have hgrants : ∀ (τ : Type) (a : τ),
      (⟨a, copies, t⟩ : Frame τ α).grants supply n = u.grants supply n := fun _ _ => rfl
  by_cases hgrant : u.grants supply n = true
  · refine ⟨(u.asking supply n).tally, .inl ?_⟩
    intro τ a
    rw [obtain_apply, hask, hgrants, if_pos hgrant]
  · refine ⟨((u.asking supply n).leaving (.debug ⟨operation, .noMemory⟩)).tally,
      .inr ?_⟩
    intro τ a
    rw [obtain_apply, hask, hgrants, if_neg hgrant]
    rfl

/-- An empty buffer is always there. -/
@[simp] lemma obtain_zero (operation : Operation) :
    (obtain operation 0 : Call σ α Unit) = pure () := by
  funext supply f
  simp [obtain_apply, Frame.grants, Frame.asking, pure_apply]

/-- Two calls that ask for the same buffer agree if they agree once it is granted. -/
lemma obtain_bind_congr {operation : Operation} {n : Nat} {next next' : Unit → Call σ α ρ}
    (h : ∀ g : Frame σ α, g.held = f.held → next () supply g = next' () supply g) :
    (obtain operation n >>= next) supply f = (obtain operation n >>= next') supply f := by
  rw [bind_apply, bind_apply, obtain_apply]
  split_ifs
  · exact h _ (f.asking_held n)
  · rfl

end Call

end AnchoredArrays
