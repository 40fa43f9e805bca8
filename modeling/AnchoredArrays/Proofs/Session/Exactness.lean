import AnchoredArrays.Proofs.Anchored.Reliance
import AnchoredArrays.Proofs.Session.Workshop
import Mathlib

/-!
Exactness: arithmetic on machine words is arithmetic on the integers, and accesses lie inside their
buffers, wherever a run gets to.

* `Anchored.Exact`, `WellFormed.exact`: the bounds, the length and the slots of an array agree over
  the integers, and every position within the bounds has its slot;
* `Session.Exact`, `WellFormed.exact`: every guarded step of every call that an action makes goes
  through;
* `Makings`, `makings`: the same for the calls that make arrays and drafts out of nothing;
* `WideSums`, `wideSums`: the limits are checked by sums that do not overflow;
* `Workshop.run_exact`: **after every run**, all of this holds.
-/

namespace AnchoredArrays

open Session

variable {α : Type} [Element α]

namespace Anchored

/-- The bounds, the length and the slots of an array agree over the integers: the length read off
the bounds is exact, there are as many slots, and the upper bound is again that of as many slots;
the slot of a position within the bounds is its distance from the lower bound, and is there; and an
empty array has a position below its lower bound. -/
structure Exact (a : Anchored α) : Prop where
  length : (a.length : Int) = a.upper.toInt - a.lower.toInt + 1
  stored : a.slots.length = a.length
  fits : a.length ≤ Position.byteLimit
  upper : Position.maxOfCount a.lower (UInt64.ofNat a.length) = a.upper
  offset : ∀ i, a.contains i = true →
    ((Position.offset a.lower i).toNat : Int) = i.toInt - a.lower.toInt
      ∧ (Position.offset a.lower i).toNat < a.slots.length
  pred : a.isEmpty = true → Position.least.toInt ≤ a.lower.toInt - 1

/-- A well-formed array is exact. -/
lemma WellFormed.exact {a : Anchored α} (h : a.WellFormed) : a.Exact where
  length := by
    rw [h.length_eq]
    exact h.stored
  stored := h.length_eq.symm
  fits := by
    rw [h.length_eq]
    exact Nat.le_trans h.fits (Element.maxLength_le α)
  upper := by
    apply Int64.toInt_inj.1
    rw [h.length_eq', h.room.toInt_upper, h.toInt_upper]
  offset i hi := by
    obtain ⟨hlow, hslot⟩ := h.contains_iff.1 hi
    rw [toNat_offset_eq hlow, ← length_toList]
    refine ⟨?_, hslot⟩
    rw [slotOf]
    omega
  pred hempty := by
    have hne := h.anchored (h.isEmpty_iff.1 hempty)
    have hl := a.lower.le_toInt
    have hleast : a.lower.toInt ≠ Position.least.toInt := fun he => hne (Int64.toInt_inj.1 he)
    rw [Position.toInt_least] at hleast ⊢
    omega

end Anchored

namespace Session

/-! ### The calls on arrays in registers -/

/-- An array is exact, and so are the calls on it alone that actions make, although the inner steps
that they are made of would fault outside of what they rely on. -/
structure Exacting (a : Anchored α) : Prop where
  self : a.Exact
  reliance : a.Reliance
  read (i : Int64) : (a.read i : Call Unit α α).Exact ()
  copy : (a.copy : Call Unit α (Anchored α)).Exact ()
  copied (selection : Selection) : (selection.copied a : Call Unit α (Anchored α)).Exact ()
  changed (change : Change α) : change.call.Exact a
  extended (x : α) : (a.extend x : Call Unit α (Anchored α)).Exact ()
  drained (n : Nat) : (Drain.take n).Exact (Drain.ofArray a)

/-- Every call on a well-formed array is exact. -/
lemma exacting {a : Anchored α} (h : a.WellFormed) : Exacting a where
  self := h.exact
  reliance := h.reliance
  read i := Call.exact_of_allOrNothing fun _ => Anchored.read_allOrNothing a i
  copy := Call.exact_of_allOrNothing fun _ => Anchored.copy_allOrNothing h
  copied selection := Call.exact_of_allOrNothing fun _ => selection.copied_allOrNothing h
  changed change := Call.exact_of_allOrNothing fun _ => change.call_allOrNothing h
  extended x := Call.exact_of_allOrNothing fun _ => Anchored.extend_allOrNothing h x
  drained n := Call.exact_of_allOrNothing fun _ =>
    Drain.take_allOrNothing n (Drain.ofArray_consistent h)

/-- The arrays in registers are exact, and so are the calls on one of them, on two of them, and on
the slot of a register, be there an array in it or not. -/
structure Exact (s : Session α) : Prop where
  each {name : Name} {a : Anchored α} : s.find? name = some a → Exacting a
  moved (name : Name) (selection : Selection) : selection.moved.Exact (s.find? name)
  joined {name other : Name} {a b : Anchored α} (joining : Joining) :
    s.find? name = some a → s.find? other = some b → (joining.call b).Exact a
  concatenated {name other : Name} {a b : Anchored α} :
    s.find? name = some a → s.find? other = some b →
      (a.concat b : Call Unit α (Anchored α)).Exact ()

/-- Every call on a well-formed session is exact. -/
lemma WellFormed.exact {s : Session α} (h : s.WellFormed) : s.Exact where
  each ha := exacting (h.find? ha)
  moved _ selection := Call.exact_of_allOrNothing fun _ =>
    selection.moved_allOrNothing fun _ ha => h.find? ha
  joined joining ha hb := Call.exact_of_allOrNothing fun _ =>
    joining.call_allOrNothing (h.find? ha) (h.find? hb)
  concatenated ha hb := Call.exact_of_allOrNothing fun _ =>
    Anchored.concat_allOrNothing (h.find? ha) (h.find? hb)

/-! ### The calls that make arrays -/

/-- The calls that make arrays and drafts out of nothing are exact, and so is the resizing of a
draft. A making by way of a draft consists of several calls; it does not fault, and a resizing that
fails and that it goes on after does not either. -/
structure Makings (α : Type) [Element α] : Prop where
  empty (lower : Int64) : (Anchored.empty lower : Call Unit α (Anchored α)).Exact ()
  ofList (lower : Int64) (items : List α) :
    (Anchored.ofList lower items : Call Unit α (Anchored α)).Exact ()
  ofFn {τ : Type} (lower upper : Int64) (f : τ → Int64 → α × τ) (t : τ) :
    (Anchored.ofFn lower upper f t : Call Unit α (Anchored α × τ)).Exact ()
  replicate (lower upper : Int64) (x : α) :
    (Anchored.replicate lower upper x : Call Unit α (Anchored α)).Exact ()
  singletonAt (start : Int64) (x : α) :
    (Anchored.singletonAt start x : Call Unit α (Anchored α)).Exact ()
  pair (x y : α) : (Anchored.pair x y : Call Unit α (Anchored α)).Exact ()
  allocate (lower upper : Int64) : (Draft.allocate lower upper : Call Unit α (Draft α)).Exact ()
  resize (d : Draft α) (n : Nat) : (Draft.resize n).Exact d
  draft (supply : Supply) (lower upper : Int64) (fill : α) (regrowths : List (Regrowth α))
    (x : Fault) : (draftArray supply lower upper fill regrowths).1 ≠ .error (.fault x)
  regrown {d : Draft α} {items : List α} (r : Regrowth α) : Draft.Filled d items → r.call.Exact d

/-- **Every making** is exact. -/
lemma makings (α : Type) [Element α] : Makings α where
  empty lower := Call.exact_of_allOrNothing fun _ => Anchored.empty_allOrNothing lower
  ofList lower items := Call.exact_of_allOrNothing fun _ => Anchored.ofList_allOrNothing lower items
  ofFn lower upper f t := Call.exact_of_allOrNothing fun _ =>
    Anchored.ofFn_allOrNothing lower upper f t
  replicate lower upper x := Call.exact_of_allOrNothing fun _ =>
    Anchored.replicate_allOrNothing lower upper x
  singletonAt start x := Call.exact_of_allOrNothing fun _ =>
    Anchored.singletonAt_allOrNothing start x
  pair x y := Call.exact_of_allOrNothing fun _ => Anchored.pair_allOrNothing x y
  allocate lower upper := Call.exact_of_allOrNothing fun _ =>
    Draft.allocate_allOrNothing lower upper
  resize _ n := Call.exact_of_allOrNothing fun _ => Draft.resize_allOrNothing n
  draft supply lower upper fill regrowths x hx := by
    have hmade := draftArray_made supply lower upper fill regrowths
    rw [hx] at hmade
    exact hmade x rfl
  regrown r hd := Call.exact_of_allOrNothing fun _ => Regrowth.call_allOrNothing hd r

end Session

/-! ### Words -/

/-- What the checks of limits compute in words of 128 bits, and what a requested length is in words
of 64 bits without a sign, is what it is over the integers: the sums of a bound and a number of
slots stay in such a word, and so the checks are those of the sums over the integers. -/
structure WideSums (σ α : Type) [Element α] : Prop where
  below (i : Int64) : Position.wide (i.toInt - 1) = i.toInt - 1 ∧ -2 ^ 127 ≤ i.toInt - 1
  above (i : Int64) (n : Nat) : n < 0x10000000000000000 →
    Position.wide (i.toInt + n) = i.toInt + n ∧ i.toInt + n < 2 ^ 127
  last (i : Int64) (n : Nat) : n < 0x10000000000000000 →
    Position.wide (i.toInt + n - 1) = i.toInt + n - 1
  request (n : Int64) : 0 ≤ n → (Position.requested n : Int) = n.toInt
  belowPred (i min : Int64) :
    (Call.belowPred i min : Call σ α Bool) = pure (decide (i.toInt < min.toInt - 1))
  beyondSucc (i max : Int64) :
    (Call.beyondSucc i max : Call σ α Bool) = pure (decide (max.toInt + 1 < i.toInt))
  exceeds (lower : Int64) (n : Nat) :
    (Call.exceeds lower n : Call σ α Bool)
      = pure (decide (Element.maxLength α < n ∨ Position.greatest.toInt < lower.toInt + n - 1))

/-- **No check of a limit overflows.** -/
lemma wideSums (σ α : Type) [Element α] : WideSums σ α where
  below i := ⟨Position.wide_pred i, by have hl := i.le_toInt; omega⟩
  above i n hn := ⟨Position.wide_add i hn, by have hg := i.toInt_lt; omega⟩
  last i n hn := Position.wide_last i hn
  request n hn := by
    have hn' : 0 ≤ n.toInt := Int64.le_iff_toInt_le.1 hn
    rw [Position.requested_of_nonneg hn', Int.toNat_of_nonneg hn']
  belowPred := Call.belowPred_eq
  beyondSucc := Call.beyondSucc_eq
  exceeds := Call.exceeds_eq

/-! ### Runs -/

/-- The array that an action results in, if it does, is exact. -/
def Session.Result.Exact : Result α → Prop
  | .array a => a.Exact
  | _ => True

lemma Session.Result.WellFormed.exact {r : Result α} (h : r.WellFormed) : r.Exact := by
  cases r with
  | array a => exact Anchored.WellFormed.exact h
  | _ => trivial

/-- A task did not fault, and an array that it resulted in is exact. -/
def Outcome.Exact : Outcome α → Prop
  | .ofArrays (.ok r) => r.Exact
  | .ofDrafts (.ok r) => r.Exact
  | .ofArrays (.error e) | .ofDrafts (.error e) => ∀ x, e ≠ .halted (.fault x)
  | .unready _ => True

lemma Outcome.Sound.exact {o : Outcome α} (h : o.Sound) : o.Exact := by
  rcases o with (e | r) | (e | r) | d
  · exact h
  · exact Result.WellFormed.exact h
  · exact h
  · exact Result.WellFormed.exact h
  · trivial

namespace Workshop

/-- All calls on the arrays and the drafts in registers are exact. -/
structure Exact (w : Workshop α) : Prop where
  arrays : w.arrays.Exact
  drafts : w.drafts.Exact

lemma WellFormed.exact {w : Workshop α} (h : w.WellFormed) : w.Exact :=
  ⟨h.arrays.exact, h.drafts.exact⟩

/-- **After every run** of tasks, whatever their arguments are and whatever is refused: no task has
faulted, and the arrays that tasks resulted in are exact; every call on what is in the registers,
and every call that makes an array, takes its guarded steps with the values that they have over
the integers, and inside the buffers as they are at that moment; and the checks of limits do not
overflow. -/
theorem run_exact (tasks : List (Task α)) :
    (∀ o ∈ (start.run tasks).2, o.Exact)
      ∧ (start.run tasks).1.Exact
      ∧ (Makings α ∧ Makings (Cell α))
      ∧ (∀ σ : Type, Guards σ α ∧ Guards σ (Cell α))
      ∧ (∀ σ : Type, WideSums σ α ∧ WideSums σ (Cell α)) := by
  obtain ⟨hwell, hsound⟩ := run_sound start_wellFormed tasks
  refine ⟨?_, hwell.exact, ⟨makings α, makings (Cell α)⟩, ?_, ?_⟩
  · intro o ho
    exact (hsound o ho).exact
  · intro σ
    exact ⟨guards σ α, guards σ (Cell α)⟩
  · intro σ
    exact ⟨wideSums σ α, wideSums σ (Cell α)⟩

end Workshop

end AnchoredArrays
