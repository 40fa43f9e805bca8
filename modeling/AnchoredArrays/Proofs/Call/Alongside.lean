import AnchoredArrays.Proofs.Call.Plan

/-!
Two calls side by side. They work on values that are related in some way, ask for the same buffers
and make the same copies, and so end in the same way, with values and results that are related.

* `Frame.Beside`: frames that differ at most in their values and in their records;
* `Agree`: outcomes of the same kind with related values and results; `Agree.bind`, `Agree.given`:
  calls agree if their parts do;
* `Settle`, `Plan.Alike`: checks and plans that settle on related things;
* `carryOut_agree`: **plans that are alike** are carried out alike.
-/

namespace AnchoredArrays

open Element

variable {σ α ρ π : Type} [Element α] {supply : Supply} {f f' g g' : Frame σ α}

/-- The frames differ at most in the values held and in the records. -/
structure Frame.Beside (f f' : Frame σ α) : Prop where
  copiesLeft : f'.copiesLeft = f.copiesLeft
  requests : f'.tally.requests = f.tally.requests
  received : f'.tally.received = f.tally.received
  copied : f'.tally.copied = f.tally.copied
  dropped : f'.tally.dropped = f.tally.dropped
  leaked : f'.tally.leaked = f.tally.leaked

namespace Frame.Beside

lemma refl (f : Frame σ α) : f.Beside f := ⟨rfl, rfl, rfl, rfl, rfl, rfl⟩

/-- Two calls start side by side. -/
lemma start (supply : Supply) (a a' : σ) :
    (⟨a, supply.copies, .blank⟩ : Frame σ α).Beside ⟨a', supply.copies, .blank⟩ :=
  ⟨rfl, rfl, rfl, rfl, rfl, rfl⟩

/-- The same is granted. -/
lemma grants (h : f.Beside f') (n : Nat) : f'.grants supply n = f.grants supply n := by
  rw [Frame.grants, Frame.grants, h.requests]

/-- The frames are asked for the same buffer. -/
lemma asking (h : f.Beside f') (n : Nat) : (f.asking supply n).Beside (f'.asking supply n) := by
  refine ⟨?_, ?_, ?_, ?_, ?_, ?_⟩
  · simp only [Frame.asking_copiesLeft, h.copiesLeft]
  · rw [Frame.asking, Frame.asking, h.grants]
    split_ifs
    · exact h.requests
    · exact congrArg (· ++ _) h.requests
  · simp only [Frame.asking_received, h.received]
  · simp only [Frame.asking_copied, h.copied]
  · simp only [Frame.asking_dropped, h.dropped]
  · simp only [Frame.asking_leaked, h.leaked]

/-- Records are not compared. -/
lemma leaving (h : f.Beside f') (r r' : Record) : (f.leaving r).Beside (f'.leaving r') :=
  ⟨h.copiesLeft, h.requests, h.received, h.copied, h.dropped, h.leaked⟩

/-- Values are not compared. -/
lemma hold (h : f.Beside f') (a a' : σ) :
    ({ f with held := a } : Frame σ α).Beside { f' with held := a' } :=
  ⟨h.copiesLeft, h.requests, h.received, h.copied, h.dropped, h.leaked⟩

end Frame.Beside

/-- Both calls go through with related results, or both halt for the same reason; the values that
they hold in the end are related, and otherwise they did the same. -/
inductive Agree (R : ρ → ρ → Prop) (S : σ → σ → Prop) :
    Except Halt ρ × Frame σ α → Except Halt ρ × Frame σ α → Prop where
  | ok {r r' : ρ} {g g' : Frame σ α} (result : R r r') (held : S g.held g'.held)
    (beside : g.Beside g') : Agree R S (.ok r, g) (.ok r', g')
  | error {e : Halt} {g g' : Frame σ α} (held : S g.held g'.held) (beside : g.Beside g') :
    Agree R S (.error e, g) (.error e, g')

/-- Both checks fail for the same reason, or settle on related things. -/
inductive Settle (R : ρ → ρ → Prop) : Except Reason ρ → Except Reason ρ → Prop where
  | error (reason : Reason) : Settle R (.error reason) (.error reason)
  | ok {r r' : ρ} (result : R r r') : Settle R (.ok r) (.ok r')

/-- Plans for the same buffers, with related values and results. -/
structure Call.Plan.Alike (R : ρ → ρ → Prop) (S : σ → σ → Prop) (p p' : Call.Plan σ ρ) :
    Prop where
  buffers : p'.buffers = p.buffers
  after : S p.after p'.after
  result : R p.result p'.result

namespace Settle

variable {R : ρ → ρ → Prop} {T : π → π → Prop}

/-- What each check says of what it settles on may be added. -/
lemma and {x x' : Except Reason ρ} {P P' : ρ → Prop} (h : Settle R x x')
    (hx : ∀ r, x = .ok r → P r) (hx' : ∀ r, x' = .ok r → P' r) :
    Settle (fun r r' => R r r' ∧ P r ∧ P' r') x x' := by
  cases h with
  | error reason => exact .error reason
  | ok hr => exact .ok ⟨hr, hx _ rfl, hx' _ rfl⟩

/-- Another check may follow. -/
lemma bind {x x' : Except Reason ρ} {next next' : ρ → Except Reason π} (h : Settle R x x')
    (hnext : ∀ r r', R r r' → Settle T (next r) (next' r')) :
    Settle T (x >>= next) (x' >>= next') := by
  cases h with
  | error reason => exact .error reason
  | ok hr => exact hnext _ _ hr

/-- A condition that holds on both sides or on neither may stand in front. -/
lemma ite {p p' : Prop} [Decidable p] [Decidable p'] {x x' y y' : Except Reason ρ} (hp : p ↔ p')
    (hx : p → Settle R x x') (hy : ¬ p → Settle R y y') :
    Settle R (if p then x else y) (if p' then x' else y') := by
  by_cases h : p
  · rw [if_pos h, if_pos (hp.1 h)]
    exact hx h
  · rw [if_neg h, if_neg (mt hp.2 h)]
    exact hy h

end Settle

namespace Agree

open Call

variable {R R' : ρ → ρ → Prop} {S S' : σ → σ → Prop} {T : π → π → Prop} {c c' : Call σ α ρ}

/-- The relations may be weakened. -/
lemma mono {out out' : Except Halt ρ × Frame σ α} (h : Agree R S out out')
    (hR : ∀ r r', R r r' → R' r r') (hS : ∀ a a', S a a' → S' a a') : Agree R' S' out out' := by
  cases h with
  | ok hr hheld hbeside => exact .ok (hR _ _ hr) (hS _ _ hheld) hbeside
  | error hheld hbeside => exact .error (hS _ _ hheld) hbeside

/-- A call may follow, and the values be related in another way from then on. -/
lemma followed {next next' : ρ → Call σ α π} (hc : Agree R S (c supply f) (c' supply f'))
    (hS : ∀ a a', S a a' → S' a a')
    (hnext : ∀ r r' g g', R r r' → S g.held g'.held → g.Beside g' →
      Agree T S' (next r supply g) (next' r' supply g')) :
    Agree T S' ((c >>= next) supply f) ((c' >>= next') supply f') := by
  rw [bind_apply, bind_apply]
  generalize c supply f = out at hc
  generalize c' supply f' = out' at hc
  cases hc with
  | ok hr hheld hbeside => exact hnext _ _ _ _ hr hheld hbeside
  | error hheld hbeside => exact .error (hS _ _ hheld) hbeside

/-- A call may follow. -/
lemma bind {next next' : ρ → Call σ α π} (hc : Agree R S (c supply f) (c' supply f'))
    (hnext : ∀ r r' g g', R r r' → S g.held g'.held → g.Beside g' →
      Agree T S (next r supply g) (next' r' supply g')) :
    Agree T S ((c >>= next) supply f) ((c' >>= next') supply f') :=
  hc.followed (fun _ _ h => h) hnext

/-- Each call leaves its own trace. -/
lemma trace {operation : Operation} {arguments arguments' : List Argument}
    {next next' : Unit → Call σ α ρ} (hheld : S f.held f'.held) (hbeside : f.Beside f')
    (h : ∀ g g' : Frame σ α, S g.held g'.held → g.Beside g' →
      Agree R S (next () supply g) (next' () supply g')) :
    Agree R S ((Call.trace operation arguments >>= next) supply f)
      ((Call.trace operation arguments' >>= next') supply f') :=
  h (f.leaving _) (f'.leaving _) hheld (hbeside.leaving _ _)

lemma fail (operation : Operation) (reason : Reason) (hheld : S f.held f'.held)
    (hbeside : f.Beside f') :
    Agree R S (Call.fail operation reason supply f) (Call.fail operation reason supply f') :=
  .error hheld (hbeside.leaving _ _)

lemma checked (operation : Operation) {x x' : Except Reason ρ} (hx : Settle R x x')
    (hheld : S f.held f'.held) (hbeside : f.Beside f') :
    Agree R S (Call.checked operation x supply f) (Call.checked operation x' supply f') := by
  cases hx with
  | error reason => exact .fail operation reason hheld hbeside
  | ok hr => exact .ok hr hheld hbeside

/-- Elements that both calls were given are dropped by both when they halt. -/
lemma given (hc : Agree R S (c supply f) (c' supply f')) (s : Slots α) :
    Agree R S (Call.given s c supply f) (Call.given s c' supply f') := by
  rw [Call.given, Call.given, guarding, guarding]
  generalize c supply f = out at hc
  generalize c' supply f' = out' at hc
  cases hc with
  | ok hr hheld hbeside => exact .ok hr hheld hbeside
  | @error e g g' hheld hbeside =>
    cases e with
    | fault x => exact .error hheld hbeside
    | failure e | panic p =>
      exact .error hheld ⟨hbeside.copiesLeft, hbeside.requests, hbeside.received, hbeside.copied,
        congrArg (s ++ ·) hbeside.dropped, hbeside.leaked⟩

/-- The same buffer is granted to both calls or to neither. -/
lemma obtain (operation : Operation) (n : Nat) (hheld : S f.held f'.held) (hbeside : f.Beside f') :
    Agree Eq S (Call.obtain operation n supply f) (Call.obtain operation n supply f') := by
  rw [obtain_apply, obtain_apply, hbeside.grants]
  have hheld' : S (f.asking supply n).held (f'.asking supply n).held := by
    rwa [Frame.asking_held, Frame.asking_held]
  split_ifs
  · exact .ok rfl hheld' (hbeside.asking n)
  · exact .fail operation .noMemory hheld' (hbeside.asking n)

lemma obtainAll (operation : Operation) (buffers : List Nat) (hheld : S f.held f'.held)
    (hbeside : f.Beside f') :
    Agree Eq S (Call.obtainAll operation buffers supply f)
      (Call.obtainAll operation buffers supply f') := by
  induction buffers generalizing f f' with
  | nil => exact .ok rfl hheld hbeside
  | cons n rest ih => exact (obtain operation n hheld hbeside).bind fun _ _ _ _ _ => ih

/-- The same copies go through in both calls. -/
lemma copyAll (s : Slots α) (hheld : S f.held f'.held) (hbeside : f.Beside f') :
    Agree (fun t t' => t = s.map Element.copy ∧ t' = s.map Element.copy) S
      (Call.copyAll s supply f) (Call.copyAll s supply f') := by
  have hcopied : ∀ t : Slots α, t ++ f'.tally.copied = t ++ f.tally.copied :=
    fun t => congrArg (t ++ ·) hbeside.copied
  rw [Call.copyAll, Call.copyAll, hbeside.copiesLeft]
  obtain ⟨-, hrequests, hreceived, -, hdropped, hleaked⟩ := hbeside
  cases f.copiesLeft with
  | none => exact .ok ⟨rfl, rfl⟩ hheld ⟨rfl, hrequests, hreceived, hcopied _, hdropped, hleaked⟩
  | some left =>
    dsimp only
    split_ifs
    · exact .ok ⟨rfl, rfl⟩ hheld ⟨rfl, hrequests, hreceived, hcopied _, hdropped, hleaked⟩
    · exact .error hheld
        ⟨rfl, hrequests, hreceived, hcopied _, hdropped, congrArg (_ ++ ·) hleaked⟩

end Agree

namespace Call

variable {R : ρ → ρ → Prop} {S : σ → σ → Prop}

/-- **Plans that are alike** are carried out alike, whatever is granted. -/
lemma carryOut_agree (operation : Operation) {plan plan' : Except Reason (Plan σ ρ)}
    (hplan : Settle (Plan.Alike R S) plan plan') (hheld : S f.held f'.held)
    (hbeside : f.Beside f') :
    Agree R S (carryOut operation plan supply f) (carryOut operation plan' supply f') := by
  refine (Agree.checked operation hplan hheld hbeside).bind fun p p' g g' hp hheld hbeside => ?_
  rw [hp.buffers]
  refine (Agree.obtainAll operation p.buffers hheld hbeside).bind fun _ _ g g' _ _ hbeside => ?_
  exact .ok hp.result hp.after (hbeside.hold p.after p'.after)

/-- Calls that leave a trace and carry out plans that are alike. -/
lemma planned_agree (operation : Operation) {arguments arguments' : List Argument}
    {plan plan' : Except Reason (Plan σ ρ)} (hplan : Settle (Plan.Alike R S) plan plan')
    (hheld : S f.held f'.held) (hbeside : f.Beside f') :
    Agree R S ((do trace operation arguments; carryOut operation plan : Call σ α ρ) supply f)
      ((do trace operation arguments'; carryOut operation plan' : Call σ α ρ) supply f') :=
  .trace hheld hbeside fun _ _ => carryOut_agree operation hplan

end Call

end AnchoredArrays
