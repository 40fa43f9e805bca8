import AnchoredArrays.Proofs.Call.Plan

/-!
Calls by what is granted to them. Which requests a plan makes, and whether it goes through, depends
on the supply alone: the requests are made in order up to the first one that is refused.

* `Supply.Generous`, `Supply.Lets`: every request is granted; a number of copies goes through;
* `Supply.answers`: the requests that are made for buffers one after the other;
* `obtainAll_apply`, `carryOut_apply`: **a plan goes through** exactly when all of its requests are
  granted, and fails for want of memory otherwise;
* `copyAll_apply`, `given_apply`: copies that go through, and elements that are dropped on a halt;
* `Fails`: the outcome is a failure of a given kind.
-/

namespace AnchoredArrays

open Element

namespace Supply

/-- Every request is granted. -/
def Generous (supply : Supply) : Prop := ∀ k bytes, supply.grants k bytes = true

/-- At least `n` copies go through. -/
def Lets (supply : Supply) (n : Nat) : Prop := ∀ left, supply.copies = some left → n ≤ left

instance (supply : Supply) (n : Nat) : Decidable (supply.Lets n) :=
  inferInstanceAs (Decidable (∀ left ∈ supply.copies, n ≤ left))

/-- The requests for buffers of these sizes in bytes, one after the other, where the first of them
is the request with number `k`. A buffer without bytes is not asked for, and nothing is asked for
after a refusal. -/
def answers (supply : Supply) : Nat → List Nat → List Request
  | _, [] => []
  | k, bytes :: rest =>
    if bytes = 0 then supply.answers k rest
    else if supply.grants k bytes then ⟨bytes, true⟩ :: supply.answers (k + 1) rest
    else [⟨bytes, false⟩]

lemma ample_generous : ample.Generous := fun _ _ => rfl

lemma ample_lets (n : Nat) : ample.Lets n := fun _ h => nomatch h

lemma Lets.of_le {supply : Supply} {m n : Nat} (h : supply.Lets n) (hle : m ≤ n) :
    supply.Lets m := fun left hleft => Nat.le_trans hle (h left hleft)

/-- A generous supply refuses no request. -/
lemma Generous.granted {supply : Supply} (h : supply.Generous) (k : Nat) (sizes : List Nat) :
    ∀ r ∈ supply.answers k sizes, r.granted = true := by
  induction sizes generalizing k with
  | nil => exact fun r hr => nomatch hr
  | cons bytes rest ih =>
    rw [answers, if_pos (h k bytes)]
    split_ifs
    · exact ih k
    · intro r hr
      obtain rfl | hr := List.mem_cons.1 hr
      · rfl
      · exact ih (k + 1) r hr

end Supply

variable {σ α ρ : Type} [Element α] {supply : Supply} {f : Frame σ α} {operation : Operation}

/-- The frame after buffers were asked for one after the other. -/
def Frame.askingAll (f : Frame σ α) (supply : Supply) (buffers : List Nat) : Frame σ α :=
  let asked := supply.answers f.tally.requests.length (buffers.map (· * size α))
  { f with tally := { f.tally with requests := f.tally.requests ++ asked } }

namespace Call

/-! ### Plans -/

lemma fail_apply (operation : Operation) (reason : Reason) :
    (fail operation reason : Call σ α ρ) supply f
      = (.error (.failure ⟨operation, reason⟩), f.leaving (.debug ⟨operation, reason⟩)) := rfl

/-- Buffers are all obtained exactly when every request for them is granted. -/
lemma obtainAll_apply (operation : Operation) {buffers : List Nat}
    (hfits : ∀ n ∈ buffers, n ≤ maxLength α) :
    (obtainAll operation buffers : Call σ α Unit) supply f
      = if ∀ r ∈ supply.answers f.tally.requests.length (buffers.map (· * size α)),
          r.granted = true then (.ok (), f.askingAll supply buffers)
        else fail operation .noMemory supply (f.askingAll supply buffers) := by
  induction buffers generalizing f with
  | nil => simp [obtainAll, Supply.answers, Frame.askingAll, pure_apply]
  | cons n rest ih =>
    have hn : n ≤ maxLength α := hfits n List.mem_cons_self
    have hrest : ∀ m ∈ rest, m ≤ maxLength α := fun m hm => hfits m (List.mem_cons_of_mem n hm)
    rw [obtainAll, bind_apply, obtain_apply, Frame.grants, Frame.asking, Frame.askingAll,
      List.map_cons, Supply.answers]
    by_cases hbytes : n * size α = 0
    · simp [hbytes, hn, ih hrest, Frame.askingAll]
    have hnonzero : (n * size α == 0) = false := beq_eq_false_iff_ne.2 hbytes
    cases hgrant : supply.grants f.tally.requests.length (n * size α) with
    | false => simp [hbytes, hnonzero, hn, Nat.not_lt.2 hn, hgrant, Frame.grants, fail_apply]
    | true => simp [hbytes, hn, Nat.not_lt.2 hn, hgrant, ih hrest, Frame.askingAll, Frame.grants]

/-- Under a generous supply, a buffer is obtained. -/
lemma obtain_generous (h : supply.Generous) (operation : Operation) {n : Nat}
    (hfits : n ≤ maxLength α) :
    (obtain operation n : Call σ α Unit) supply f = (.ok (), f.asking supply n) := by
  rw [obtain_apply, if_pos]
  simp [Frame.grants, hfits, h _ _]

/-- A plan goes through exactly when every request for its buffers is granted. -/
lemma carryOut_apply (operation : Operation) {p : Plan σ ρ}
    (hfits : ∀ n ∈ p.buffers, n ≤ maxLength α) :
    (carryOut operation (.ok p) : Call σ α ρ) supply f
      = if ∀ r ∈ supply.answers f.tally.requests.length (p.buffers.map (· * size α)),
          r.granted = true
        then (.ok p.result, { f.askingAll supply p.buffers with held := p.after })
        else fail operation .noMemory supply (f.askingAll supply p.buffers) := by
  rw [carryOut_ok, obtainAll_apply operation hfits]
  split_ifs <;> rfl

/-- Under a generous supply, a plan goes through. -/
lemma carryOut_generous (h : supply.Generous) (operation : Operation) {p : Plan σ ρ}
    (hfits : ∀ n ∈ p.buffers, n ≤ maxLength α) :
    (carryOut operation (.ok p) : Call σ α ρ) supply f
      = (.ok p.result, { f.askingAll supply p.buffers with held := p.after }) := by
  rw [carryOut_apply operation hfits, if_pos (h.granted _ _)]

/-! ### Copies and drops -/

/-- Elements are copied once each, if so many copies go through. -/
lemma copyAll_apply (supply : Supply) {s : Slots α}
    (h : ∀ left, f.copiesLeft = some left → s.length ≤ left) :
    ∃ g, (copyAll s : Call σ α (Slots α)) supply f = (.ok (s.map Element.copy), g)
      ∧ g.held = f.held ∧ g.tally.requests = f.tally.requests
      ∧ g.tally.copied = s ++ f.tally.copied := by
  rw [copyAll]
  cases hleft : f.copiesLeft with
  | none => exact ⟨_, rfl, rfl, rfl, rfl⟩
  | some left =>
    dsimp only
    rw [if_pos (h left hleft)]
    exact ⟨_, rfl, rfl, rfl, rfl⟩

/-- Too many copies break off. -/
lemma copyAll_exhausted (supply : Supply) {s : Slots α}
    (h : ¬ ∀ left, f.copiesLeft = some left → s.length ≤ left) :
    ∃ g, (copyAll s : Call σ α (Slots α)) supply f = (.error (.panic .copiesExhausted), g)
      ∧ g.tally.requests = f.tally.requests := by
  rw [copyAll]
  cases hleft : f.copiesLeft with
  | none => simp [hleft] at h
  | some left =>
    have hmany : ¬ s.length ≤ left := fun hle => h fun n hn => by
      rw [hleft] at hn
      cases hn
      exact hle
    dsimp only
    rw [if_neg hmany]
    exact ⟨_, rfl, rfl⟩

/-- Elements that are given to a call change nothing but what is dropped. -/
lemma given_apply (supply : Supply) (f : Frame σ α) (s : Slots α) (c : Call σ α ρ) :
    ∃ dropped, given s c supply f = ((c supply f).1,
      { (c supply f).2 with tally := { (c supply f).2.tally with dropped } }) := by
  rw [given, guarding]
  rcases c supply f with ⟨(e | p | e) | r, g⟩
  · exact ⟨_, rfl⟩
  · exact ⟨_, rfl⟩
  · exact ⟨_, rfl⟩
  · exact ⟨_, rfl⟩

/-! ### Failures -/

/-- The outcome is a failure of a kind, which an operation reports for a reason. -/
def Fails (out : Except Halt ρ) (kind : Kind) (operation : Operation) (reason : Reason) : Prop :=
  out = .error (.failure ⟨operation, reason⟩) ∧ reason.kind = kind

end Call

end AnchoredArrays
