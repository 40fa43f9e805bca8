import AnchoredArrays.Proofs.Call.Guards
import AnchoredArrays.Proofs.Anchored.Growth
import AnchoredArrays.Anchored.Access

/-!
What the inner steps of operations rely on. They are made with slots and lengths that their callers
have to get right, and nothing but a guard stands between a wrong one and the buffer: outside of
what it relies on, each of them faults.

* `minus_faults`, `Buffer.readRun_faults`, `Buffer.truncate_faults`: guards that stop;
* `Reliance`, `WellFormed.reliance`: **each inner step faults** outside of what it relies on.
-/

namespace AnchoredArrays

open Element Call

variable {α σ : Type} [Element α] {supply : Supply} {f : Frame σ α}

/-! ### Guards that stop -/

lemma Call.minus_faults {m n : Nat} (h : m < n) :
    (minus m n : Call σ α Nat).Faults supply f := by
  refine ⟨.overflow, f, ?_⟩
  rw [minus, require, if_neg (Nat.not_le.2 h)]
  rfl

lemma Buffer.readRun_faults {s : Slots α} {start n : Nat} (h : s.length < start + n) :
    (Buffer.readRun s start n : Call σ α (Slots α)).Faults supply f := by
  refine ⟨.outsideBuffer, f, ?_⟩
  rw [readRun, require, if_neg (Nat.not_le.2 h)]
  rfl

lemma Buffer.truncate_faults {s : Slots α} {n : Nat} (h : s.length < n) :
    (Buffer.truncate s n : Call σ α (Slots α)).Faults supply f := by
  refine ⟨.outsideBuffer, f, ?_⟩
  rw [truncate, require, if_neg (Nat.not_le.2 h)]
  rfl

/-- Faults after a buffer is obtained. -/
lemma Call.Faults.obtain {ρ : Type} {operation : Operation} {n : Nat} {next : Unit → Call σ α ρ}
    (hgrant : f.grants supply n = true) (h : (next ()).Faults supply (f.asking supply n)) :
    (Call.obtain operation n >>= next).Faults supply f :=
  .bind_next (by rw [obtain_apply, if_pos hgrant]) h

namespace Anchored

variable {a : Anchored α}

/-- A position that is not within the bounds is not that of a slot, even if its distance from the
lower bound wraps. -/
lemma WellFormed.length_le_offset (h : a.WellFormed) {i : Int64} (hi : a.contains i = false) :
    a.slots.length ≤ (Position.offset a.lower i).toNat := by
  have hoffset := Position.toNat_offset a.lower i
  have hstored := h.stored
  have hl := i.le_toInt
  have hg := i.toInt_lt
  have hg' := a.upper.toInt_lt
  have hl' := a.lower.le_toInt
  simp only [contains, Bool.and_eq_false_iff, decide_eq_false_iff_not, Int64.le_iff_toInt_le] at hi
  omega

/-- The inner steps on an array fault outside of what they rely on, once they have the buffers that
they ask for. -/
structure Reliance (a : Anchored α) : Prop where
  /-- The run that is cut out lies within the array. -/
  cut (operation : Operation) (k n : Nat) : a.length < k + n →
    ∀ (supply : Supply) (f : Frame (Anchored α) α), f.held = a →
      (cutRun operation k n).Faults supply f
  /-- Elements are added at a slot of the array or behind its last one. -/
  spliced (operation : Operation) (k : Nat) (new : Slots α) : a.length < k →
    a.length + new.length ≤ maxLength α →
    a.upper.toInt + new.length ≤ Position.greatest.toInt →
    ∀ (supply : Supply) (f : Frame (Anchored α) α), f.held = a →
      f.grants supply (a.length + new.length) = true → (splice operation k new).Faults supply f
  /-- The elements that are copied, and those that are moved out, lie within the array. -/
  copied (σ : Type) (operation : Operation) (k n : Nat) (anchor : Int64) : a.length < k + n →
    ∀ (supply : Supply) (f : Frame σ α), (copySlots operation a k n anchor).Faults supply f
  moved (σ : Type) (operation : Operation) (k n : Nat) (anchor : Int64) : a.length < k + n →
    ∀ (supply : Supply) (f : Frame σ α), f.grants supply n = true →
      (moveOut operation a k n anchor).Faults supply f
  /-- What is left of the array is not longer than it was. -/
  shrunk (operation : Operation) (n : Nat) : a.length < n →
    ∀ (supply : Supply) (f : Frame (Anchored α) α), f.held = a → f.grants supply n = true →
      (shrinkTo operation n).Faults supply f
  /-- The position of an element that is replaced lies within the bounds. -/
  put (i : Int64) (x : α) : a.contains i = false →
    ∀ (supply : Supply) (f : Frame (Anchored α) α), (putAt a i x).Faults supply f

/-- **Each inner step faults** outside of what it relies on. -/
lemma WellFormed.reliance (h : a.WellFormed) : a.Reliance where
  cut operation k n hout supply f hf := by
    refine .bind_next rfl ?_
    rw [hf]
    dsimp only
    by_cases hk : k ≤ a.length
    · rw [minus_of_le hk]
      refine .bind_next rfl ?_
      exact .bind (minus_faults (by omega))
    · exact .bind (minus_faults (Nat.not_le.1 hk))
  spliced operation k new hout hfits hends supply f hf hgrant := by
    rw [h.length_eq'] at hfits
    refine .bind_next rfl ?_
    rw [hf, grown_eq h, if_pos ⟨hfits, hends⟩, checked_ok, pure_bind, ← h.length_eq', renew_eq]
    refine .obtain hgrant ?_
    exact .bind (minus_faults hout)
  copied σ operation k n anchor hout supply f := by
    rw [h.length_eq] at hout
    exact .bind (Buffer.readRun_faults hout)
  moved σ operation k n anchor hout supply f hgrant := by
    rw [h.length_eq] at hout
    exact .obtain hgrant (.bind (Buffer.readRun_faults hout))
  shrunk operation n hout supply f hf hgrant := by
    rw [h.length_eq] at hout
    refine .bind_next rfl ?_
    rw [renew_eq, hf]
    exact .obtain hgrant (.bind (Buffer.truncate_faults hout))
  put i x hout supply f := by
    have hoffset := h.length_le_offset hout
    exact .bind (Buffer.readRun_faults (Nat.lt_succ_of_le hoffset))

end Anchored

end AnchoredArrays
