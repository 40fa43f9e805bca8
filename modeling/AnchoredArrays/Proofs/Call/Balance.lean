import AnchoredArrays.Proofs.Call.Granted
import AnchoredArrays.Proofs.Anchored.Laid

/-!
The elements that a call answers for. What it was given, what came into being and what it copied has
to be in the value that it holds, in its result, or dropped; only a copy that does not go through
may leave the earlier ones behind. Elements are counted as far as a predicate picks them, and as
that may be any one, it is the elements themselves that are accounted for, not just their number.

* `Slots.amount`: how many elements are picked; `perm_of_countP`: lists of which every predicate
  picks the same number have the same elements;
* `Tally.account`, `Frame.account`: the elements that went, and those accounted for at a frame;
* `Unbroken`, `Light`: calls that go through or fail, and those that no element comes or goes with;
* `Balanced`: what a call promises about elements; `Balanced.after`, `Balanced.bind`,
  `Balanced.given`: the promise is kept in larger calls; `Balanced.ok_from_blank`,
  `Balanced.error_from_blank`: what it says of a call from the start;
* `carryOut_balanced`, `copyAll_balanced`: **plans and copies** keep the balance.
-/

namespace AnchoredArrays

open Element

/-- Lists of which every predicate picks the same number have the same elements. -/
lemma perm_of_countP {α : Type} {l m : List α}
    (h : ∀ pick : α → Bool, l.countP pick = m.countP pick) : l.Perm m := by
  classical
  exact List.perm_iff_count.2 fun x => h (· == x)

variable {σ α τ ρ π : Type} [Element α] {supply : Supply} {f g : Frame σ α} {pick : α → Bool}

/-! ### Picked elements -/

namespace Slots

/-- How many of the elements in some slots are picked. -/
def amount (pick : α → Bool) (s : Slots α) : Nat := s.toList.countP pick

@[simp] lemma amount_nil : (nil : Slots α).amount pick = 0 := by simp [amount]

@[simp] lemma amount_ofList (items : List α) : (ofList items).amount pick = items.countP pick := by
  simp [amount]

@[simp] lemma amount_single (x : α) : (single x).amount pick = [x].countP pick := amount_ofList [x]

@[simp] lemma amount_append (s t : Slots α) :
    (s ++ t).amount pick = s.amount pick + t.amount pick := by
  simp [amount]

@[simp] lemma amount_map_append (change : α → α) (s t : Slots α) :
    ((s ++ t).map change).amount pick
      = (s.map change).amount pick + (t.map change).amount pick := by
  simp [amount]

@[simp] lemma amount_map_ofList (change : α → α) (items : List α) :
    ((ofList items).map change).amount pick = (items.map change).countP pick := by
  simp [amount]

@[simp] lemma amount_map_nil (change : α → α) : ((nil : Slots α).map change).amount pick = 0 := by
  simp [amount]

end Slots

/-! ### Accounts -/

namespace Tally

/-- The picked elements that went: those that were dropped and those that were left behind, less
those that came into being, as copies or otherwise. -/
def account (pick : α → Bool) (t : Tally α) : Int :=
  t.dropped.amount pick + t.leaked.amount pick - t.copies.amount pick - t.received.amount pick

@[simp] lemma account_blank : (blank : Tally α).account pick = 0 := by
  simp [account, blank, copies]

@[simp] lemma account_join (t u : Tally α) :
    (t.join u).account pick = t.account pick + u.account pick := by
  simp only [account, join, copies, Slots.amount_append, Slots.amount_map_append]
  omega

lemma length_copies (t : Tally α) : t.copies.length = t.copied.length := Slots.length_map _ _

end Tally

namespace Frame

/-- The picked elements accounted for at a frame: those of the value held, and those that went. -/
def account (pick : α → Bool) (f : Frame σ α) (own : σ → Nat) : Int :=
  own f.held + f.tally.account pick

@[simp] lemma receiving_account (pick : α → Bool) (f : Frame σ α) (s : Slots α) :
    (f.receiving s).tally.account pick = f.tally.account pick - s.amount pick := by
  simp only [receiving, Tally.account, Tally.copies, Slots.amount_append]
  omega

@[simp] lemma leaking_account (f : Frame σ α) (s : Slots α) :
    (f.leaking s).tally.account pick = f.tally.account pick + s.amount pick := by
  simp only [leaking, Tally.account, Tally.copies, Slots.amount_append]
  omega

/-- Between the frames no element has come or gone, and the value held is the same. -/
structure Alike (f g : Frame σ α) : Prop where
  held : g.held = f.held
  received : g.tally.received = f.tally.received
  copied : g.tally.copied = f.tally.copied
  dropped : g.tally.dropped = f.tally.dropped
  leaked : g.tally.leaked = f.tally.leaked

namespace Alike

lemma refl (f : Frame σ α) : Alike f f := ⟨rfl, rfl, rfl, rfl, rfl⟩

lemma trans {h : Frame σ α} (hfg : Alike f g) (hgh : Alike g h) : Alike f h :=
  ⟨hgh.held.trans hfg.held, hgh.received.trans hfg.received, hgh.copied.trans hfg.copied,
    hgh.dropped.trans hfg.dropped, hgh.leaked.trans hfg.leaked⟩

lemma copies (h : Alike f g) : g.tally.copies = f.tally.copies := by
  rw [Tally.copies, Tally.copies, h.copied]

lemma tally_account (h : Alike f g) : g.tally.account pick = f.tally.account pick := by
  rw [Tally.account, Tally.account, h.received, h.copies, h.dropped, h.leaked]

lemma account (h : Alike f g) (own : σ → Nat) : g.account pick own = f.account pick own := by
  rw [Frame.account, Frame.account, h.held, h.tally_account]

end Alike

lemma leaving_alike (f : Frame σ α) (r : Record) : Alike f (f.leaving r) :=
  ⟨rfl, rfl, rfl, rfl, rfl⟩

lemma asking_alike (supply : Supply) (f : Frame σ α) (n : Nat) : Alike f (f.asking supply n) :=
  ⟨f.asking_held n, f.asking_received n, f.asking_copied n, f.asking_dropped n, f.asking_leaked n⟩

/-- The copies that are left behind in between, if copies are left behind when one does not go
through: all of them if it was such a copy that made the call halt. -/
def loss (pick : α → Bool) (f g : Frame σ α) (leaks : Bool) (e : Halt) : Int :=
  if leaks ∧ e = .panic .copiesExhausted then
    g.tally.copies.amount pick - f.tally.copies.amount pick
  else 0

lemma loss_of_ne {leaks : Bool} {e : Halt} (he : e ≠ .panic .copiesExhausted) :
    f.loss pick g leaks e = 0 := if_neg fun h => he h.2

lemma Alike.loss {h : Frame σ α} (hfg : Alike f g) (leaks : Bool) (e : Halt) :
    g.loss pick h leaks e = f.loss pick h leaks e := by
  rw [Frame.loss, Frame.loss, hfg.copies]

@[simp] lemma loss_false (e : Halt) : f.loss pick g false e = 0 := if_neg fun h => nomatch h.1

@[simp] lemma loss_failure (leaks : Bool) (e : Failure) : f.loss pick g leaks (.failure e) = 0 :=
  loss_of_ne fun h => nomatch h

end Frame

namespace Call

variable {c : Call σ α ρ}

/-! ### Calls that do not break off -/

/-- The call goes through or fails. -/
def Unbroken (c : Call σ α ρ) (supply : Supply) (f : Frame σ α) : Prop :=
  ∀ e, (c supply f).1 = .error e → ∃ x, e = .failure x

namespace Unbroken

lemma of_ok {r : ρ} (hrun : c supply f = (.ok r, g)) : Unbroken c supply f := fun e he => by
  rw [hrun] at he
  cases he

lemma of_eq {c' : Call σ α ρ} (h : c supply f = c' supply f) (hc : Unbroken c' supply f) :
    Unbroken c supply f := by
  rwa [Unbroken, h]

lemma exact (hc : Unbroken c supply f) (x : Fault) : (c supply f).1 ≠ .error (.fault x) := by
  intro hfault
  obtain ⟨e, he⟩ := hc _ hfault
  cases he

lemma fail (operation : Operation) (reason : Reason) :
    Unbroken (Call.fail operation reason : Call σ α ρ) supply f := fun e he => by
  cases he
  exact ⟨_, rfl⟩

lemma bind {next : ρ → Call σ α π} (hc : Unbroken c supply f)
    (hnext : ∀ r g, c supply f = (.ok r, g) → Unbroken (next r) supply g) :
    Unbroken (c >>= next) supply f := by
  rw [Unbroken, bind_apply]
  rcases hrun : c supply f with ⟨e | r, g⟩
  · rintro _ ⟨⟩
    exact hc e (by rw [hrun])
  · exact hnext r g hrun

lemma given (hc : Unbroken c supply f) (s : Slots α) : Unbroken (Call.given s c) supply f := by
  obtain ⟨dropped, hrun⟩ := given_apply supply f s c
  rw [Unbroken, hrun]
  exact hc

lemma during (hc : Unbroken c supply f) (operation : Operation) :
    Unbroken (Call.during operation c) supply f := by
  rw [Unbroken, Call.during]
  rcases hrun : c supply f with ⟨e | r, g⟩
  · obtain ⟨x, rfl⟩ := hc e (by rw [hrun])
    rintro _ ⟨⟩
    exact ⟨_, rfl⟩
  · rintro _ ⟨⟩

end Unbroken

/-! ### Calls that no element comes or goes with -/

/-- The call goes through or fails, and nothing but requests and records lie between the frames. -/
structure Light (c : Call σ α ρ) (supply : Supply) (f : Frame σ α) : Prop where
  alike : Frame.Alike f (c supply f).2
  unbroken : Unbroken c supply f

namespace Light

lemma pure (r : ρ) : Light (Pure.pure r : Call σ α ρ) supply f := ⟨.refl f, .of_ok rfl⟩

lemma fail (operation : Operation) (reason : Reason) :
    Light (Call.fail operation reason : Call σ α ρ) supply f :=
  ⟨f.leaving_alike _, .fail operation reason⟩

lemma trace (operation : Operation) (arguments : List Argument) :
    Light (Call.trace operation arguments : Call σ α Unit) supply f :=
  ⟨f.leaving_alike _, .of_ok rfl⟩

lemma checked (operation : Operation) (check : Except Reason ρ) :
    Light (Call.checked operation check : Call σ α ρ) supply f := by
  cases check with
  | error reason => exact .fail operation reason
  | ok r => exact .pure r

/-- A light call may follow a light call. -/
lemma bind {next : ρ → Call σ α π} (hc : Light c supply f)
    (hnext : ∀ r g, c supply f = (.ok r, g) → Light (next r) supply g) :
    Light (c >>= next) supply f := by
  refine ⟨?_, hc.unbroken.bind fun r g hrun => (hnext r g hrun).unbroken⟩
  have halike := hc.alike
  rw [bind_apply]
  rcases hrun : c supply f with ⟨e | r, g⟩
  · rwa [hrun] at halike
  · rw [hrun] at halike
    exact halike.trans (hnext r g hrun).alike

lemma during (hc : Light c supply f) (operation : Operation) :
    Light (Call.during operation c) supply f := by
  refine ⟨?_, hc.unbroken.during operation⟩
  have halike := hc.alike
  rw [Call.during]
  rcases hrun : c supply f with ⟨e | r, g⟩
  · rw [hrun] at halike
    cases e <;> exact halike
  · rwa [hrun] at halike

lemma obtain (operation : Operation) (n : Nat) :
    Light (Call.obtain operation n : Call σ α Unit) supply f := by
  have hasking := f.asking_alike supply n
  by_cases hgrant : f.grants supply n = true
  · have hrun : Call.obtain operation n supply f = (.ok (), f.asking supply n) := by
      rw [obtain_apply, if_pos hgrant]
    exact ⟨by rwa [hrun], .of_ok hrun⟩
  · have hrun : Call.obtain operation n supply f
        = Call.fail operation .noMemory supply (f.asking supply n) := by
      rw [obtain_apply, if_neg hgrant]
    refine ⟨?_, ?_⟩
    · rw [hrun]
      exact hasking.trans (Frame.leaving_alike _ _)
    · rw [Unbroken, hrun]
      exact Unbroken.fail operation .noMemory

lemma obtainAll (operation : Operation) (buffers : List Nat) :
    Light (Call.obtainAll operation buffers : Call σ α Unit) supply f := by
  induction buffers generalizing f with
  | nil => exact .pure ()
  | cons n rest ih => exact (obtain operation n).bind fun _ _ _ => ih

end Light

lemma carryOut_unbroken (operation : Operation) (plan : Except Reason (Plan σ ρ)) :
    Unbroken (carryOut operation plan : Call σ α ρ) supply f :=
  (Light.checked operation plan).unbroken.bind fun _ _ _ =>
    (Light.obtainAll operation _).unbroken.bind fun _ _ _ => .of_ok rfl

/-! ### The balance -/

/-- What a call promises about the elements that are picked, where `own` counts those of the value
that it holds and `gives` those of its result. It was given `used` of them, which are in either of
the two if it goes through, or dropped; if it halts, it has dropped `unused` of them, and left alone
the others. It leaves nothing behind but copies, and these only if one does not go through. -/
def Balanced (pick : α → Bool) (leaks : Bool) (c : Call σ α ρ) (own : σ → Nat) (gives : ρ → Nat)
    (used unused : Nat) (supply : Supply) (f : Frame σ α) : Prop :=
  match c supply f with
  | (.ok r, g) => g.account pick own + gives r = f.account pick own + used
      ∧ g.tally.leaked = f.tally.leaked
  | (.error e, g) => g.account pick own = f.account pick own + unused
      ∧ (g.tally.leaked.amount pick : Int) = f.tally.leaked.amount pick + f.loss pick g leaks e

namespace Balanced

variable {leaks : Bool} {own : σ → Nat} {gives : ρ → Nat} {used unused : Nat}

lemma of_ok {r : ρ} (hrun : c supply f = (.ok r, g))
    (h : g.account pick own + gives r = f.account pick own + used)
    (hleaked : g.tally.leaked = f.tally.leaked) :
    Balanced pick leaks c own gives used unused supply f := by
  rw [Balanced, hrun]
  exact ⟨h, hleaked⟩

lemma of_error {e : Halt} (hrun : c supply f = (.error e, g))
    (h : g.account pick own = f.account pick own + unused)
    (hleaked : (g.tally.leaked.amount pick : Int)
      = f.tally.leaked.amount pick + f.loss pick g leaks e) :
    Balanced pick leaks c own gives used unused supply f := by
  rw [Balanced, hrun]
  exact ⟨h, hleaked⟩

lemma of_eq {c' : Call σ α ρ} (h : c supply f = c' supply f)
    (hc : Balanced pick leaks c' own gives used unused supply f) :
    Balanced pick leaks c own gives used unused supply f := by
  rwa [Balanced, h]

/-- A call that fails and with which no element has come or gone. -/
lemma of_failure {x : Failure} (hrun : c supply f = (.error (.failure x), g))
    (halike : Frame.Alike f g) : Balanced pick leaks c own gives used 0 supply f := by
  refine .of_error hrun ((halike.account own).trans (Int.add_zero _).symm) ?_
  rw [halike.leaked, Frame.loss_failure, Int.add_zero]

/-- A call that breaks off other than at a copy, and with which no element has come or gone. -/
lemma of_panic {p : Panic} (hrun : c supply f = (.error (.panic p), f))
    (hp : p ≠ .copiesExhausted) : Balanced pick leaks c own gives used 0 supply f := by
  refine .of_error hrun (Int.add_zero _).symm ?_
  rw [Frame.loss_of_ne fun h => hp (Halt.panic.inj h), Int.add_zero]

/-- A light call keeps the balance if its result takes up what it was given. -/
lemma light (hc : Light c supply f) (hgives : ∀ r g, c supply f = (.ok r, g) → gives r = used) :
    Balanced pick leaks c own gives used 0 supply f := by
  have halike := hc.alike
  rcases hrun : c supply f with ⟨e | r, g⟩
  · obtain ⟨x, rfl⟩ := hc.unbroken e (by rw [hrun])
    rw [hrun] at halike
    exact .of_failure hrun halike
  · rw [hrun] at halike
    exact .of_ok hrun (by rw [halike.account, hgives r g hrun]) halike.leaked

/-- A light call may go first. -/
lemma after {c : Call σ α π} {next : π → Call σ α ρ} (hc : Light c supply f)
    (hnext : ∀ r g, c supply f = (.ok r, g) → g.held = f.held →
      Balanced pick leaks (next r) own gives used 0 supply g) :
    Balanced pick leaks (c >>= next) own gives used 0 supply f := by
  have halike := hc.alike
  rcases hrun : c supply f with ⟨e | r, g⟩
  · obtain ⟨x, rfl⟩ := hc.unbroken e (by rw [hrun])
    rw [hrun] at halike
    exact .of_failure (by rw [bind_apply, hrun]) halike
  · rw [hrun] at halike
    have hbind : (c >>= next) supply f = next r supply g := by rw [bind_apply, hrun]
    have hleaked : g.tally.leaked = f.tally.leaked := halike.leaked
    have hrest := hnext r g hrun halike.held
    simp only [Balanced, halike.account, halike.loss, hleaked] at hrest
    rwa [Balanced, hbind]

/-- A record is left first. -/
lemma trace {operation : Operation} {arguments : List Argument} {next : Unit → Call σ α ρ}
    (h : Balanced pick leaks (next ()) own gives used unused supply
      (f.leaving (.trace operation arguments))) :
    Balanced pick leaks (Call.trace operation arguments >>= next) own gives used unused supply f :=
  h

/-- The value held is looked at first. -/
lemma held {next : σ → Call σ α ρ}
    (h : Balanced pick leaks (next f.held) own gives used unused supply f) :
    Balanced pick leaks (Call.held >>= next) own gives used unused supply f := h

/-- What a call results in may be given to another one. If copies may be left behind, the other one
has to go through or fail. -/
lemma bind {next : ρ → Call σ α π} {gives' : π → Nat}
    (hc : Balanced pick leaks c own gives used used supply f)
    (hnext : ∀ r g, c supply f = (.ok r, g) →
      Balanced pick false (next r) own gives' (gives r) (gives r) supply g
        ∧ (leaks = true → Unbroken (next r) supply g)) :
    Balanced pick leaks (c >>= next) own gives' used used supply f := by
  rcases hrun : c supply f with ⟨e | r, g⟩
  · rw [Balanced, hrun] at hc
    exact .of_error (by rw [bind_apply, hrun]) hc.1 hc.2
  · have hbind : (c >>= next) supply f = next r supply g := by rw [bind_apply, hrun]
    obtain ⟨hrest, hunbroken⟩ := hnext r g hrun
    rw [Balanced, hrun] at hc
    rcases hlast : next r supply g with ⟨e | r', g'⟩
    · have hloss : f.loss pick g' leaks e = 0 := by
        cases leaks with
        | false => exact Frame.loss_false e
        | true =>
          obtain ⟨x, rfl⟩ := hunbroken rfl e (by rw [hlast])
          exact Frame.loss_failure true x
      rw [Balanced, hlast] at hrest
      dsimp only at hrest
      rw [Frame.loss_false, hc.2] at hrest
      refine .of_error (hbind.trans hlast) (hrest.1.trans hc.1) ?_
      rw [hloss]
      exact hrest.2
    · rw [Balanced, hlast] at hrest
      exact .of_ok (hbind.trans hlast) (hrest.1.trans hc.1) (hrest.2.trans hc.2)

/-- The result may be turned into another. -/
lemma map {turn : ρ → π} {gives : π → Nat}
    (hc : Balanced pick leaks c own (fun r => gives (turn r)) used unused supply f) :
    Balanced pick leaks (c >>= fun r => Pure.pure (turn r)) own gives used unused supply f := by
  rcases hrun : c supply f with ⟨e | r, g⟩
  · rw [Balanced, hrun] at hc
    exact .of_error (by rw [bind_apply, hrun]) hc.1 hc.2
  · rw [Balanced, hrun] at hc
    exact .of_ok (r := turn r) (by rw [bind_apply, hrun]; rfl) hc.1 hc.2

/-- Elements that are given to a call are dropped when it halts. -/
lemma given (hc : Balanced pick leaks c own gives used unused supply f)
    (hexact : ∀ x, (c supply f).1 ≠ .error (.fault x)) {s : Slots α} {n : Nat}
    (hn : unused + s.amount pick = n) :
    Balanced pick leaks (Call.given s c) own gives used n supply f := by
  -- the elements dropped in the end are on the account, and nothing else changes
  have hdrop : ∀ (g : Frame σ α), g.account pick own = f.account pick own + unused →
      Frame.account pick { g with tally := { g.tally with dropped := s ++ g.tally.dropped } } own
        = f.account pick own + n := by
    intro g h
    simp only [Frame.account, Tally.account, Tally.copies, Slots.amount_append] at h ⊢
    omega
  rw [Balanced] at hc ⊢
  rw [Call.given, guarding]
  rcases hrun : c supply f with ⟨(e | p | x) | r, g⟩
  · rw [hrun] at hc
    exact ⟨hdrop g hc.1, hc.2⟩
  · rw [hrun] at hc
    exact ⟨hdrop g hc.1, hc.2⟩
  · exact (hexact x (by rw [hrun])).elim
  · rwa [hrun] at hc

/-- The account of a call that goes through, from a blank tally. -/
lemma ok_from_blank {a : σ} {copies : Option Nat} {r : ρ}
    (hc : Balanced pick leaks c own gives used unused supply ⟨a, copies, .blank⟩)
    (hrun : c supply ⟨a, copies, .blank⟩ = (.ok r, g)) :
    (own g.held + g.tally.account pick + gives r : Int) = own a + used
      ∧ g.tally.leaked.amount pick = 0 := by
  rw [Balanced, hrun] at hc
  obtain ⟨hbalance, hleaked⟩ := hc
  simp only [Frame.account, Tally.account_blank, Int.add_zero] at hbalance
  refine ⟨hbalance, ?_⟩
  rw [hleaked]
  exact Slots.amount_nil

/-- The account of a call that halts, from a blank tally. -/
lemma error_from_blank {a : σ} {copies : Option Nat} {e : Halt}
    (hc : Balanced pick leaks c own gives used unused supply ⟨a, copies, .blank⟩)
    (hrun : c supply ⟨a, copies, .blank⟩ = (.error e, g)) :
    (own g.held + g.tally.account pick : Int) = own a + unused
      ∧ g.tally.leaked.amount pick
        = if leaks ∧ e = .panic .copiesExhausted then g.tally.copies.amount pick else 0 := by
  rw [Balanced, hrun] at hc
  obtain ⟨hbalance, hleaked⟩ := hc
  have hblank : (Tally.blank : Tally α).leaked.amount pick = 0
      ∧ (Tally.blank : Tally α).copies.amount pick = 0 :=
    ⟨Slots.amount_nil, Slots.amount_map_nil _⟩
  simp only [Frame.account, Tally.account_blank, Int.add_zero] at hbalance
  refine ⟨hbalance, ?_⟩
  simp only [Frame.loss, hblank] at hleaked
  split_ifs at hleaked ⊢ <;> omega

end Balanced

variable {leaks : Bool} {own : σ → Nat} {gives : ρ → Nat} {used : Nat}

/-- A plan is carried out, or fails and leaves the value held as it was; either way nothing is
copied or dropped. -/
lemma carryOut_cases (supply : Supply) (operation : Operation) (plan : Except Reason (Plan σ ρ))
    (f : Frame σ α) :
    (∃ p g, plan = .ok p ∧ carryOut operation plan supply f = (.ok p.result, g)
        ∧ Frame.Alike { f with held := p.after } g)
      ∨ ∃ e g, carryOut operation plan supply f = (.error (.failure e), g) ∧ Frame.Alike f g := by
  cases plan with
  | error reason => exact .inr ⟨_, _, rfl, f.leaving_alike _⟩
  | ok p =>
    have hlight : Light (obtainAll operation p.buffers) supply f := .obtainAll operation p.buffers
    have halike := hlight.alike
    rw [carryOut_ok]
    rcases hrun : obtainAll operation p.buffers supply f with ⟨e | ⟨⟩, g⟩
    · obtain ⟨x, rfl⟩ := hlight.unbroken e (by rw [hrun])
      rw [hrun] at halike
      exact .inr ⟨x, g, rfl, halike⟩
    · rw [hrun] at halike
      exact .inl ⟨p, _, rfl, rfl, rfl, halike.received, halike.copied, halike.dropped,
        halike.leaked⟩

/-- **A plan** keeps the balance if what it holds and results in in the end does. -/
lemma carryOut_balanced (operation : Operation) {plan : Except Reason (Plan σ ρ)}
    (h : ∀ p, plan = .ok p → own p.after + gives p.result = own f.held + used) :
    Balanced pick leaks (carryOut operation plan) own gives used 0 supply f := by
  obtain ⟨p, g, hp, hrun, halike⟩ | ⟨e, g, hrun, halike⟩ := carryOut_cases supply operation plan f
  · have hbalance := h p hp
    refine .of_ok hrun ?_ halike.leaked
    rw [halike.account]
    simp only [Frame.account]
    omega
  · exact .of_failure hrun halike

/-- A call that leaves its trace and carries out a plan goes through or fails. -/
lemma planned_unbroken (operation : Operation) (arguments : List Argument)
    (plan : Except Reason (Plan σ ρ)) :
    Unbroken (do trace operation arguments; carryOut operation plan : Call σ α ρ) supply f :=
  (Light.trace operation arguments).unbroken.bind fun _ _ _ => carryOut_unbroken operation plan

lemma planned_balanced (operation : Operation) (arguments : List Argument)
    {plan : Except Reason (Plan σ ρ)}
    (h : ∀ p, plan = .ok p → own p.after + gives p.result = own f.held + used) :
    Balanced pick leaks (do trace operation arguments; carryOut operation plan) own gives used 0
      supply f :=
  .trace (carryOut_balanced (f := f.leaving _) operation h)

/-- Elements that are given to a plan are in what it holds in the end, or dropped. -/
lemma given_balanced (operation : Operation) (arguments : List Argument) {s : Slots α} {n : Nat}
    (hn : s.amount pick = n) {plan : Except Reason (Plan σ ρ)}
    (h : ∀ p, plan = .ok p → own p.after + gives p.result = own f.held + n) :
    Balanced pick leaks (given s do trace operation arguments; carryOut operation plan) own gives n
      n supply f :=
  .given (planned_balanced operation arguments h) (planned_unbroken operation arguments plan).exact
    ((Nat.zero_add _).trans hn)

/-- **Copies** are accounted for, unless one of them does not go through. -/
lemma copyAll_balanced (s : Slots α) :
    Balanced pick true (copyAll s) own (Slots.amount pick) 0 0 supply f := by
  rw [Balanced, copyAll]
  rcases f.copiesLeft with - | left
  · refine ⟨?_, rfl⟩
    simp only [Frame.account, Tally.account, Tally.copies, Slots.amount_map_append]
    omega
  · dsimp only
    split_ifs
    · refine ⟨?_, rfl⟩
      simp only [Frame.account, Tally.account, Tally.copies, Slots.amount_map_append]
      omega
    · simp only [Frame.account, Tally.account, Frame.loss, Tally.copies, Slots.amount_map_append,
        Slots.amount_append, and_self, if_true]
      omega

end Call

end AnchoredArrays
