import AnchoredArrays.Proofs.Call.Steps

/-!
Calls that do everything or nothing. A call that halts with a failure or a panic leaves the value
it holds as it was, also if it worked on it before; and no call ends in a fault.

* `AllOrNothing`: what a call promises, with a condition on its result and on the value it holds
  when it goes through; `AllOrNothing.cases`: the two ways in which it ends; `AllOrNothing.bind`,
  `AllOrNothing.given`: the promise is kept in larger calls;
* `Plan`, `carryOut`: the buffers that a call asks for, and what it holds and results in once they
  are there; `carryOut_allOrNothing`: **carrying out a plan** is all or nothing;
* `hold_orUndo`: work that is done early, and undone when a buffer is refused, might as well be
  done once the buffer is there;
* `inSlot_carryOut`: a plan is carried out in a slot as it is outside.
-/

namespace AnchoredArrays

namespace Call

open Element

variable {σ α τ ρ π : Type} [Element α] {supply : Supply} {f : Frame σ α}
  {c : Call σ α ρ} {post : ρ → σ → Prop}

/-! ### All or nothing -/

/-- The call does not fault. When it goes through, `post` holds of its result and of the value it
then holds; when it halts, it holds the value that it held before. -/
def AllOrNothing (c : Call σ α ρ) (post : ρ → σ → Prop) (supply : Supply) (f : Frame σ α) :
    Prop :=
  match c supply f with
  | (.ok r, g) => post r g.held
  | (.error (.fault _), _) => False
  | (.error _, g) => g.held = f.held

namespace AllOrNothing

/-- Such a call goes through, or it halts without a fault and nothing happened to what it held. -/
lemma cases (hc : AllOrNothing c post supply f) :
    (∃ r g, c supply f = (.ok r, g) ∧ post r g.held)
      ∨ ∃ e g, c supply f = (.error e, g) ∧ g.held = f.held ∧ ∀ x, e ≠ .fault x := by
  rw [AllOrNothing] at hc
  generalize c supply f = out at *
  rcases out with ⟨(e | p | e) | r, g⟩
  · exact .inr ⟨.failure e, g, rfl, hc, fun x hx => nomatch hx⟩
  · exact .inr ⟨.panic p, g, rfl, hc, fun x hx => nomatch hx⟩
  · exact hc.elim
  · exact .inl ⟨r, g, rfl, hc⟩

/-- When the call goes through, the condition holds. -/
lemma post_of_ok {r : ρ} {g : Frame σ α} (hc : AllOrNothing c post supply f)
    (hrun : c supply f = (.ok r, g)) : post r g.held := by
  rwa [AllOrNothing, hrun] at hc

/-- When the call halts, what it held is as it was. -/
lemma held_of_error {e : Halt} {g : Frame σ α} (hc : AllOrNothing c post supply f)
    (hrun : c supply f = (.error e, g)) : g.held = f.held := by
  rw [AllOrNothing, hrun] at hc
  cases e with
  | failure e => exact hc
  | panic p => exact hc
  | fault x => exact hc.elim

lemma of_ok {r : ρ} {g : Frame σ α} (hrun : c supply f = (.ok r, g)) (h : post r g.held) :
    AllOrNothing c post supply f := by
  rw [AllOrNothing, hrun]
  exact h

lemma of_error {e : Halt} {g : Frame σ α} (hrun : c supply f = (.error e, g))
    (hheld : g.held = f.held) (hexact : ∀ x, e ≠ .fault x) : AllOrNothing c post supply f := by
  rw [AllOrNothing, hrun]
  cases e with
  | failure e => exact hheld
  | panic p => exact hheld
  | fault x => exact (hexact x rfl).elim

lemma of_eq {c' : Call σ α ρ} (h : c supply f = c' supply f)
    (hc : AllOrNothing c' post supply f) : AllOrNothing c post supply f := by
  rwa [AllOrNothing, h]

lemma pure {r : ρ} (h : post r f.held) : AllOrNothing (Pure.pure r) post supply f := h

lemma fail (operation : Operation) (reason : Reason) :
    AllOrNothing (Call.fail operation reason) post supply f := rfl

lemma panic (p : Panic) : AllOrNothing (Call.panic p) post supply f := rfl

/-- A weaker condition holds as well. -/
lemma mono {post' : ρ → σ → Prop} (hc : AllOrNothing c post supply f)
    (h : ∀ r a, post r a → post' r a) : AllOrNothing c post' supply f := by
  obtain ⟨r, g, hrun, hpost⟩ | ⟨e, g, hrun, hheld, hexact⟩ := hc.cases
  · exact .of_ok hrun (h r g.held hpost)
  · exact .of_error hrun hheld hexact

/-- The value held is looked at first. -/
lemma held {next : σ → Call σ α ρ} (h : AllOrNothing (next f.held) post supply f) :
    AllOrNothing (Call.held >>= next) post supply f := h

/-- A record is left first. -/
lemma trace {operation : Operation} {arguments : List Argument} {next : Unit → Call σ α ρ}
    (h : AllOrNothing (next ()) post supply (f.leaving (.trace operation arguments))) :
    AllOrNothing (Call.trace operation arguments >>= next) post supply f := h

/-- A call that leaves the value held as it is may go first. -/
lemma bind {P : ρ → Prop} {next : ρ → Call σ α π} {post : π → σ → Prop}
    (hc : AllOrNothing c (fun r a => P r ∧ a = f.held) supply f)
    (hnext : ∀ r g, P r → g.held = f.held → AllOrNothing (next r) post supply g) :
    AllOrNothing (c >>= next) post supply f := by
  obtain ⟨r, g, hrun, hr, hg⟩ | ⟨e, g, hrun, hheld, hexact⟩ := hc.cases
  · have hbind : (c >>= next) supply f = next r supply g := by rw [bind_apply, hrun]
    obtain ⟨r', g', hrun', hpost⟩ | ⟨e, g', hrun', hheld, hexact⟩ := (hnext r g hr hg).cases
    · exact .of_ok (hbind.trans hrun') hpost
    · exact .of_error (hbind.trans hrun') (hheld.trans hg) hexact
  · exact .of_error (by rw [bind_apply, hrun]) hheld hexact

/-- A call that always goes through may follow. -/
lemma andThen {P : ρ → σ → Prop} {next : ρ → Call σ α π} {post : π → σ → Prop}
    (hc : AllOrNothing c P supply f)
    (hnext : ∀ r g, P r g.held → ∃ r' g', next r supply g = (.ok r', g') ∧ post r' g'.held) :
    AllOrNothing (c >>= next) post supply f := by
  obtain ⟨r, g, hrun, hr⟩ | ⟨e, g, hrun, hheld, hexact⟩ := hc.cases
  · have hbind : (c >>= next) supply f = next r supply g := by rw [bind_apply, hrun]
    obtain ⟨r', g', hrun', hpost⟩ := hnext r g hr
    exact .of_ok (hbind.trans hrun') hpost
  · exact .of_error (by rw [bind_apply, hrun]) hheld hexact

/-- The result may be turned into another. -/
lemma map {p : ρ → π} {post : π → σ → Prop}
    (hc : AllOrNothing c (fun r a => post (p r) a) supply f) :
    AllOrNothing (c >>= fun r => Pure.pure (p r)) post supply f :=
  hc.andThen fun r g hr => ⟨p r, g, rfl, hr⟩

/-- Failures may be reported under another operation. -/
lemma during (hc : AllOrNothing c post supply f) (operation : Operation) :
    AllOrNothing (Call.during operation c) post supply f := by
  obtain ⟨r, g, hrun, hpost⟩ | ⟨e, g, hrun, hheld, hexact⟩ := hc.cases
  · exact .of_ok (by rw [Call.during, hrun]) hpost
  · cases e with
    | failure e =>
      refine .of_error (e := .failure { e with operation }) ?_ hheld fun x hx => nomatch hx
      rw [Call.during, hrun]
    | panic p => exact .of_error (by rw [Call.during, hrun]) hheld hexact
    | fault x => exact (hexact x rfl).elim

/-- When the call halts, something may be done that leaves the value held as it is. -/
lemma guarding (hc : AllOrNothing c post supply f) {cleanup : Call σ α Unit}
    (hcleanup : ∀ g : Frame σ α, ∃ g', cleanup supply g = (.ok (), g') ∧ g'.held = g.held) :
    AllOrNothing (Call.guarding c cleanup) post supply f := by
  obtain ⟨r, g, hrun, hpost⟩ | ⟨e, g, hrun, hheld, hexact⟩ := hc.cases
  · exact .of_ok (by rw [Call.guarding, hrun]) hpost
  · obtain ⟨g', hcleaned, hg'⟩ := hcleanup g
    refine .of_error (e := e) (g := g') ?_ (hg'.trans hheld) hexact
    rw [Call.guarding, hrun]
    cases e with
    | failure e =>
      dsimp only
      rw [Call.bind, hcleaned]
      rfl
    | panic p =>
      dsimp only
      rw [Call.bind, hcleaned]
      rfl
    | fault x => exact (hexact x rfl).elim

/-- Elements given to the call are dropped when it halts. -/
lemma given (hc : AllOrNothing c post supply f) (s : Slots α) :
    AllOrNothing (Call.given s c) post supply f :=
  hc.guarding fun _ => ⟨_, rfl, rfl⟩

/-- A buffer is asked for. -/
lemma obtain (operation : Operation) (n : Nat) :
    AllOrNothing (Call.obtain operation n) (fun _ a => n ≤ maxLength α ∧ a = f.held) supply f := by
  rw [AllOrNothing, obtain_apply]
  split_ifs with hgrant
  · simp only [Frame.grants, Bool.and_eq_true, decide_eq_true_eq] at hgrant
    exact ⟨hgrant.1, f.asking_held n⟩
  · exact f.asking_held n

/-- A check is made. -/
lemma checked (operation : Operation) (check : Except Reason ρ) :
    AllOrNothing (Call.checked operation check) (fun r a => check = .ok r ∧ a = f.held)
      supply f := by
  cases check with
  | error reason => exact .fail operation reason
  | ok r => exact ⟨rfl, rfl⟩

/-- Elements are copied. -/
lemma copyAll (s : Slots α) :
    AllOrNothing (Call.copyAll s) (fun t a => t = s.map Element.copy ∧ a = f.held) supply f := by
  rw [AllOrNothing, Call.copyAll]
  dsimp only
  cases f.copiesLeft with
  | none => exact ⟨rfl, rfl⟩
  | some left =>
    dsimp only
    split_ifs
    · exact ⟨rfl, rfl⟩
    · rfl

end AllOrNothing

/-! ### Plans -/

/-- What a call has settled on once its arguments have passed: the buffers that it asks for, by
their numbers of slots and in order, and what it holds and results in when all are granted. -/
structure Plan (σ ρ : Type) where
  buffers : List Nat
  after : σ
  result : ρ

/-- The plan for a value in a slot. -/
def Plan.inSlot (p : Plan τ ρ) : Plan (Option τ) ρ := ⟨p.buffers, some p.after, p.result⟩

/-- Asks for buffers one after the other. -/
def obtainAll (operation : Operation) : List Nat → Call σ α Unit
  | [] => pure ()
  | n :: rest => do
    obtain operation n
    obtainAll operation rest

/-- Carries out a plan, if there is one: asks for its buffers and then holds its value. -/
def carryOut (operation : Operation) (plan : Except Reason (Plan σ ρ)) : Call σ α ρ := do
  let p ← checked operation plan
  obtainAll operation p.buffers
  hold p.after
  pure p.result

lemma carryOut_error (operation : Operation) (reason : Reason) :
    (carryOut operation (.error reason) : Call σ α ρ) = fail operation reason := rfl

lemma carryOut_ok (operation : Operation) (p : Plan σ ρ) :
    (carryOut operation (.ok p) : Call σ α ρ) supply f
      = match obtainAll operation p.buffers supply f with
        | (.ok (), g) => (.ok p.result, { g with held := p.after })
        | (.error h, g) => (.error h, g) := by
  rw [carryOut, checked_ok, pure_bind, bind_apply]
  rcases obtainAll operation p.buffers supply f with ⟨_ | _, _⟩ <;> rfl

/-- A plan with a first buffer asks for it first. -/
lemma carryOut_cons (operation : Operation) (n : Nat) (buffers : List Nat) (after : σ) (r : ρ) :
    (carryOut operation (.ok ⟨n :: buffers, after, r⟩) : Call σ α ρ) = (do
      obtain operation n
      carryOut operation (.ok ⟨buffers, after, r⟩)) := by
  simp only [carryOut, checked_ok, pure_bind, obtainAll, bind_assoc]

/-- What follows a plan and asks for nothing can be planned as well. -/
lemma carryOut_bind (operation : Operation) (p : Plan σ ρ) {after : σ} {r : π}
    {next : ρ → Call σ α π}
    (hnext : ∀ g : Frame σ α, g.held = p.after →
      next p.result supply g = (.ok r, { g with held := after })) :
    (carryOut operation (.ok p) >>= next) supply f
      = carryOut operation (.ok ⟨p.buffers, after, r⟩) supply f := by
  rw [bind_apply, carryOut_ok, carryOut_ok]
  rcases obtainAll operation p.buffers supply f with ⟨_ | _, g⟩
  · rfl
  · exact hnext _ rfl

/-- Whether buffers are granted, and what is recorded about them, has nothing to do with the value
held. -/
lemma obtainAll_uniform (supply : Supply) (operation : Operation) (buffers : List Nat)
    (copies : Option Nat) (t : Tally α) :
    ∃ t', (∀ (τ : Type) (a : τ),
            (obtainAll operation buffers : Call τ α Unit) supply ⟨a, copies, t⟩
              = (.ok (), ⟨a, copies, t'⟩))
        ∨ ∀ (τ : Type) (a : τ),
            (obtainAll operation buffers : Call τ α Unit) supply ⟨a, copies, t⟩
              = (.error (.failure ⟨operation, .noMemory⟩), ⟨a, copies, t'⟩) := by
  induction buffers generalizing t with
  | nil => exact ⟨t, .inl fun _ _ => rfl⟩
  | cons n rest ih =>
    obtain ⟨t₁, hgranted | hrefused⟩ := obtain_uniform supply operation n copies t
    · obtain ⟨t₂, hall | hall⟩ := ih t₁
      · refine ⟨t₂, .inl ?_⟩
        intro τ a
        rw [obtainAll, bind_apply, hgranted]
        exact hall τ a
      · refine ⟨t₂, .inr ?_⟩
        intro τ a
        rw [obtainAll, bind_apply, hgranted]
        exact hall τ a
    · refine ⟨t₁, .inr ?_⟩
      intro τ a
      rw [obtainAll, bind_apply, hrefused]

/-- **Carrying out a plan** is all or nothing. -/
lemma carryOut_allOrNothing (operation : Operation) {plan : Except Reason (Plan σ ρ)}
    (h : ∀ p, plan = .ok p → post p.result p.after) :
    AllOrNothing (carryOut operation plan) post supply f := by
  cases plan with
  | error reason => exact .fail operation reason
  | ok p =>
    rw [AllOrNothing, carryOut_ok]
    obtain ⟨t, hall | hall⟩ :=
      obtainAll_uniform supply operation p.buffers f.copiesLeft f.tally
    · rw [hall σ f.held]
      exact h p rfl
    · rw [hall σ f.held]

/-- Work that is done before a buffer is asked for, and undone if it is refused, might as well be
done once the buffer is there. -/
lemma hold_orUndo (operation : Operation) (n : Nat) {early late : σ} {c undo : Call σ α Unit}
    (r : ρ)
    (hc : ∀ g : Frame σ α, g.held = early →
      c supply g = carryOut operation (.ok ⟨[n], late, ()⟩) supply g)
    (hundo : ∀ g : Frame σ α, g.held = early →
      undo supply g = (.ok (), { g with held := f.held })) :
    (do hold early; orUndo c undo; pure r : Call σ α ρ) supply f
      = carryOut operation (.ok ⟨[n], late, r⟩) supply f := by
  rw [hold_bind, bind_apply, orUndo, hc _ rfl, carryOut_ok, carryOut_ok]
  obtain ⟨t, hall | hall⟩ := obtainAll_uniform supply operation [n] f.copiesLeft f.tally
  · rw [hall σ early, hall σ f.held]
    rfl
  · rw [hall σ early, hall σ f.held]
    dsimp only
    rw [Call.bind, hundo _ rfl]
    rfl

/-- A plan is carried out in a slot as it is outside. -/
lemma inSlot_carryOut (operation : Operation) {a : τ} (p : Plan τ ρ)
    {f : Frame (Option τ) α} {c : Call τ α ρ} (hslot : f.held = some a)
    (hc : ∀ g : Frame τ α, g.held = a → c supply g = carryOut operation (.ok p) supply g) :
    inSlot operation c supply f = carryOut operation (.ok p.inSlot) supply f := by
  obtain ⟨slot, copies, t⟩ := f
  subst hslot
  rw [inSlot, held_bind]
  dsimp only
  rw [bind_apply, on, hc _ rfl, carryOut_ok, carryOut_ok, Plan.inSlot]
  obtain ⟨t', hall | hall⟩ := obtainAll_uniform supply operation p.buffers copies t
  · rw [hall τ a, hall _ (some a)]
    rfl
  · rw [hall τ a, hall _ (some a)]
    rfl

end Call

end AnchoredArrays
