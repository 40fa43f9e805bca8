import AnchoredArrays.Proofs.Call.Granted

/-!
The requests of a call, one by one. A call settles on the buffers that it needs, or on the reason
for which it fails, before it asks for anything; then it asks for them in order, up to the first
that is refused.

* `Supply.answers_granted`, `Supply.answers_prefix`, `Supply.answers_bytes`: which of the requests
  are made, and which of them are granted;
* `Quiet`: calls that ask for nothing and do not fail;
* `Asks`: what a call asks for; `Asks.andThen`, `Asks.cons`, `Asks.given`, `Asks.during`: in larger
  calls; `carryOut_asks`: **a plan** asks for its buffers;
* `Accounts`: the requests of a call, their number, and what comes of a refusal; `Asks.accounts`:
  **what a call asks for** accounts for all of its requests.
-/

namespace AnchoredArrays

open Element

namespace Supply

variable {supply : Supply}

/-- Only the last request is ever refused. -/
lemma answers_granted (k : Nat) (sizes : List Nat) :
    ∀ r ∈ (supply.answers k sizes).dropLast, r.granted = true := by
  induction sizes generalizing k with
  | nil => exact List.forall_mem_nil _
  | cons bytes rest ih =>
    rw [answers]
    split_ifs with hbytes hgrant
    · exact ih k
    · have hrest := ih (k + 1)
      cases hanswers : supply.answers (k + 1) rest with
      | nil => exact List.forall_mem_nil _
      | cons s more =>
        rw [hanswers] at hrest
        rw [List.dropLast_cons_cons]
        intro r hr
        rcases List.mem_cons.1 hr with rfl | hr
        · rfl
        · exact hrest r hr
    · exact List.forall_mem_nil _

/-- Requests are made in order, and none for a buffer without bytes. -/
lemma answers_prefix (k : Nat) (sizes : List Nat) :
    (supply.answers k sizes).map Request.bytes <+: sizes.filter (· ≠ 0) := by
  induction sizes generalizing k with
  | nil => exact List.prefix_refl _
  | cons bytes rest ih =>
    rw [answers]
    split_ifs with hbytes hgrant
    · simpa [hbytes] using ih k
    · simpa [hbytes] using ih (k + 1)
    · simp [hbytes]

/-- If no request is refused, all of them are made. -/
lemma answers_bytes {k : Nat} {sizes : List Nat}
    (hgranted : ∀ r ∈ supply.answers k sizes, r.granted = true) :
    (supply.answers k sizes).map Request.bytes = sizes.filter (· ≠ 0) := by
  induction sizes generalizing k with
  | nil => rfl
  | cons bytes rest ih =>
    rw [answers] at hgranted ⊢
    split_ifs at hgranted ⊢ with hbytes hgrant
    · simpa [hbytes] using ih hgranted
    · have hrest := ih fun r hr => hgranted r (List.mem_cons_of_mem _ hr)
      simpa [hbytes] using hrest
    · exact absurd (hgranted _ List.mem_cons_self) Bool.false_ne_true

end Supply

/-- How many buffers of these numbers of slots have bytes. -/
lemma length_filter_bytes (α : Type) [Element α] (buffers : List Nat) :
    ((buffers.map (· * size α)).filter (· ≠ 0)).length
      = if Weightless α then 0 else buffers.countP (· ≠ 0) := by
  rw [← List.countP_eq_length_filter, List.countP_map]
  split_ifs with hsize
  · rw [List.countP_eq_zero]
    intro n _
    simp [show size α = 0 from hsize]
  · refine List.countP_congr fun n _ => ?_
    have hmul : n * size α = 0 ↔ n = 0 := by
      rw [Nat.mul_eq_zero]
      exact or_iff_left hsize
    simp [hmul]

namespace Call

variable {σ τ α ρ π : Type} [Element α] {supply : Supply} {f g : Frame σ α} {c c' : Call σ α ρ}
  {operation : Operation} {demand : Except Reason (List Nat)} {buffers : List Nat}

/-! ### Calls that ask for nothing -/

/-- The call asks for nothing and does not fail. -/
structure Quiet (c : Call σ α ρ) (supply : Supply) (f : Frame σ α) : Prop where
  requests : (c supply f).2.tally.requests = f.tally.requests
  unfailing : ∀ e, (c supply f).1 ≠ .error (.failure e)

namespace Quiet

/-- Such a call goes through, or it halts without a failure. -/
lemma cases (hc : Quiet c supply f) :
    (∃ r g, c supply f = (.ok r, g) ∧ g.tally.requests = f.tally.requests)
      ∨ ∃ e g, c supply f = (.error e, g) ∧ g.tally.requests = f.tally.requests
        ∧ ∀ x, e ≠ .failure x := by
  obtain ⟨hrequests, hunfailing⟩ := hc
  rcases hrun : c supply f with ⟨e | r, g⟩
  · rw [hrun] at hrequests hunfailing
    exact .inr ⟨e, g, rfl, hrequests, fun x hx => hunfailing x (congrArg _ hx)⟩
  · rw [hrun] at hrequests
    exact .inl ⟨r, g, rfl, hrequests⟩

lemma of_ok {r : ρ} (hrun : c supply f = (.ok r, g)) (h : g.tally.requests = f.tally.requests) :
    Quiet c supply f := by
  refine ⟨by rw [hrun]; exact h, fun e he => ?_⟩
  rw [hrun] at he
  cases he

lemma of_error {e : Halt} (hrun : c supply f = (.error e, g))
    (h : g.tally.requests = f.tally.requests) (he : ∀ x, e ≠ .failure x) :
    Quiet c supply f := by
  refine ⟨by rw [hrun]; exact h, fun x hx => ?_⟩
  rw [hrun] at hx
  exact he x (Except.error.inj hx)

lemma pure (r : ρ) : Quiet (Pure.pure r : Call σ α ρ) supply f := .of_ok rfl rfl

lemma fault (x : Fault) : Quiet (halt (.fault x) : Call σ α ρ) supply f :=
  .of_error rfl rfl fun _ hx => nomatch hx

/-- A quiet call may follow a quiet one. -/
lemma bind {next : ρ → Call σ α π} (hc : Quiet c supply f)
    (hnext : ∀ r g, Quiet (next r) supply g) : Quiet (c >>= next) supply f := by
  obtain ⟨r, g, hrun, hg⟩ | ⟨e, g, hrun, hg, he⟩ := hc.cases
  · have hbind : (c >>= next) supply f = next r supply g := by rw [bind_apply, hrun]
    obtain ⟨hrequests, hunfailing⟩ := hnext r g
    rw [← hbind] at hrequests hunfailing
    exact ⟨hrequests.trans hg, hunfailing⟩
  · exact .of_error (by rw [bind_apply, hrun]) hg he

/-- What is done when a quiet call breaks off may be quiet as well. -/
lemma guarding {cleanup : Call σ α Unit} (hc : Quiet c supply f)
    (hcleanup : ∀ g, Quiet cleanup supply g) : Quiet (Call.guarding c cleanup) supply f := by
  obtain ⟨r, g, hrun, hg⟩ | ⟨e, g, hrun, hg, he⟩ := hc.cases
  · exact .of_ok (by rw [Call.guarding, hrun]) hg
  · cases e with
    | failure e => exact absurd rfl (he e)
    | fault x => exact .of_error (by rw [Call.guarding, hrun]) hg he
    | panic p =>
      have hthen : Quiet (cleanup >>= fun _ => halt (.panic p) : Call σ α ρ) supply g :=
        (hcleanup g).bind fun _ _ => .of_error rfl rfl he
      have hguarding : Call.guarding c cleanup supply f
          = (cleanup >>= fun _ => halt (.panic p) : Call σ α ρ) supply g := by
        rw [Call.guarding, hrun]
        rfl
      refine ⟨?_, ?_⟩
      · rw [hguarding, hthen.requests, hg]
      · rw [hguarding]
        exact hthen.unfailing

lemma panic (p : Panic) : Quiet (Call.panic p : Call σ α ρ) supply f :=
  .of_error rfl rfl fun _ hx => nomatch hx

lemma held : Quiet (Call.held : Call σ α σ) supply f := .of_ok rfl rfl

lemma hold (a : σ) : Quiet (Call.hold a : Call σ α Unit) supply f := .of_ok rfl rfl

lemma trace (operation : Operation) (arguments : List Argument) :
    Quiet (Call.trace operation arguments : Call σ α Unit) supply f := .of_ok rfl rfl

lemma discard (s : Slots α) : Quiet (Call.discard s : Call σ α Unit) supply f := .of_ok rfl rfl

lemma receive (s : Slots α) : Quiet (Call.receive s : Call σ α Unit) supply f := .of_ok rfl rfl

lemma require (p : Prop) [Decidable p] (x : Fault) :
    Quiet (Call.require p x : Call σ α Unit) supply f := by
  rw [Call.require]
  split_ifs
  · exact .pure ()
  · exact .fault x

lemma minus (m n : Nat) : Quiet (Call.minus m n : Call σ α Nat) supply f :=
  .bind (.require ..) fun _ _ => .pure _

lemma readRun {β : Type} [Element β] (s : Slots β) (start n : Nat) :
    Quiet (Buffer.readRun s start n : Call σ α (Slots β)) supply f :=
  .bind (.require ..) fun _ _ => .pure _

lemma read {β : Type} [Element β] (s : Slots β) (i : Nat) :
    Quiet (Buffer.read s i : Call σ α β) supply f := by
  rw [Buffer.read]
  cases s.get? i with
  | none => exact .fault _
  | some x => exact .pure x

/-- Cells are written without a request. -/
lemma write {β : Type} [Element β] (s : Slots β) (start : Nat) (new : Slots β) :
    Quiet (Buffer.write s start new : Call σ α (Slots β)) supply f :=
  .bind (.require ..) fun _ _ => .pure _

/-- Cells are taken as elements without a request. -/
lemma settle (s : Slots (Cell α)) : Quiet (Buffer.settle s : Call σ α (Slots α)) supply f := by
  rw [Buffer.settle]
  cases s.settled? with
  | none => exact .fault _
  | some t => exact .pure t

/-- Elements given to a quiet call may be dropped. -/
lemma given (hc : Quiet c supply f) (s : Slots α) : Quiet (Call.given s c) supply f :=
  hc.guarding fun _ => .discard s

/-- Copying asks for nothing. -/
lemma copyAll (s : Slots α) : Quiet (Call.copyAll s : Call σ α (Slots α)) supply f := by
  by_cases hcopies : ∀ left, f.copiesLeft = some left → s.length ≤ left
  · obtain ⟨g, hrun, -, hrequests, -⟩ := copyAll_apply supply hcopies
    exact .of_ok hrun hrequests
  · obtain ⟨g, hrun, hrequests⟩ := copyAll_exhausted supply hcopies
    exact .of_error hrun hrequests fun _ hx => nomatch hx

end Quiet

/-! ### What a call asks for -/

/-- What comes of a call with a demand, `earlier` requests having been made before it: it fails for
the reason that the demand gives, without any request; or it asks for buffers of the numbers of
slots that the demand gives, in order and up to the first that is refused, and fails exactly if one
is. -/
def Asks (supply : Supply) (operation : Operation) (demand : Except Reason (List Nat))
    (earlier : List Request) (out : Except Halt ρ × Frame σ α) : Prop :=
  match demand with
  | .error reason =>
    out.1 = .error (.failure ⟨operation, reason⟩) ∧ out.2.tally.requests = earlier
  | .ok buffers =>
    let asked := supply.answers earlier.length (buffers.map (· * size α))
    out.2.tally.requests = earlier ++ asked
      ∧ if ∀ r ∈ asked, r.granted = true then ∀ e, out.1 ≠ .error (.failure e)
        else out.1 = .error (.failure ⟨operation, .noMemory⟩)

namespace Asks

variable {earlier : List Request}

/-- The result, the value held and the label of a failure make no difference. -/
lemma congr {out : Except Halt ρ × Frame σ α} {out' : Except Halt π × Frame τ α}
    {reporting : Operation} (h : Asks supply operation demand earlier out)
    (hfails : ∀ reason, out.1 = .error (.failure ⟨operation, reason⟩) →
      out'.1 = .error (.failure ⟨reporting, reason⟩))
    (hunfailing : (∀ e, out.1 ≠ .error (.failure e)) → ∀ e, out'.1 ≠ .error (.failure e))
    (hrequests : out'.2.tally.requests = out.2.tally.requests) :
    Asks supply reporting demand earlier out' := by
  cases demand with
  | error reason => exact ⟨hfails reason h.1, hrequests.trans h.2⟩
  | ok buffers =>
    refine ⟨hrequests.trans h.1, ?_⟩
    have hrefused := h.2
    split_ifs at hrefused ⊢ with hgranted
    · exact hunfailing hrefused
    · exact hfails _ hrefused

/-- A quiet call asks for nothing. -/
lemma of_quiet (hc : Quiet c supply f) :
    Asks supply operation (.ok []) f.tally.requests (c supply f) := by
  refine ⟨?_, ?_⟩
  · rw [hc.requests]
    exact (List.append_nil _).symm
  · rw [if_pos fun r hr => nomatch hr]
    exact hc.unfailing

/-- A quiet call may follow. -/
lemma andThen {next : ρ → Call σ α π} (hc : Asks supply operation demand earlier (c supply f))
    (hnext : ∀ r g, Quiet (next r) supply g) :
    Asks supply operation demand earlier ((c >>= next) supply f) := by
  rw [bind_apply]
  generalize c supply f = out at hc ⊢
  obtain ⟨e | r, g⟩ := out
  · exact hc.congr (fun _ he => congrArg _ (Except.error.inj he))
      (fun h e' he => h e' (congrArg _ (Except.error.inj he))) rfl
  · exact hc.congr (fun _ he => nomatch he) (fun _ => (hnext r g).unfailing) (hnext r g).requests

/-- Elements given to a call make no difference to what it asks for. -/
lemma given (hc : Asks supply operation demand earlier (c supply f)) (s : Slots α) :
    Asks supply operation demand earlier (Call.given s c supply f) := by
  obtain ⟨dropped, hgiven⟩ := given_apply supply f s c
  rw [hgiven]
  exact hc.congr (fun _ => id) id rfl

/-- Failures may be reported under another operation. -/
lemma during (hc : Asks supply operation demand earlier (c supply f)) (reporting : Operation) :
    Asks supply reporting demand earlier (Call.during reporting c supply f) := by
  rw [Call.during]
  generalize c supply f = out at hc ⊢
  obtain ⟨(e | p | x) | r, g⟩ := out
  · refine hc.congr (fun reason he => ?_) (fun h => absurd rfl (h e)) rfl
    cases he
    rfl
  · exact hc.congr (by rintro _ ⟨⟩) id rfl
  · exact hc.congr (by rintro _ ⟨⟩) id rfl
  · exact hc.congr (by rintro _ ⟨⟩) (by rintro _ _ ⟨⟩) rfl

end Asks

/-- A request that is granted comes in front of those that are made after it. -/
lemma asking_granted {n : Nat} (hfits : n ≤ maxLength α) (hgrant : f.grants supply n = true) :
    ∃ front, (f.asking supply n).tally.requests = f.tally.requests ++ front
      ∧ (∀ r ∈ front, r.granted = true)
      ∧ ∀ sizes, supply.answers f.tally.requests.length (n * size α :: sizes)
        = front ++ supply.answers (f.asking supply n).tally.requests.length sizes := by
  by_cases hbytes : n * size α = 0
  · refine ⟨[], ?_, List.forall_mem_nil _, fun sizes => ?_⟩
    · rw [Frame.asking, if_pos (.inr hbytes), List.append_nil]
    · rw [Frame.asking, if_pos (.inr hbytes), Supply.answers, if_pos hbytes, List.nil_append]
  · have hsupply : supply.grants f.tally.requests.length (n * size α) = true := by
      simpa [Frame.grants, hfits, hbytes] using hgrant
    have hmany : ¬ (maxLength α < n ∨ n * size α = 0) := not_or.2 ⟨Nat.not_lt.2 hfits, hbytes⟩
    refine ⟨[⟨n * size α, true⟩], ?_, fun r hr => ?_, fun sizes => ?_⟩
    · rw [Frame.asking, if_neg hmany, hgrant]
    · rw [List.mem_singleton.1 hr]
    · rw [Frame.asking, if_neg hmany, Supply.answers, if_neg hbytes, if_pos hsupply]
      simp

/-- A request that is refused is the last one. -/
lemma asking_denied {n : Nat} (hfits : n ≤ maxLength α) (hgrant : ¬ f.grants supply n = true) :
    (f.asking supply n).tally.requests = f.tally.requests ++ [⟨n * size α, false⟩]
      ∧ ∀ sizes, supply.answers f.tally.requests.length (n * size α :: sizes)
        = [⟨n * size α, false⟩] := by
  have hbytes : n * size α ≠ 0 := fun hz => hgrant (by simp [Frame.grants, hfits, hz])
  have hsupply : ¬ supply.grants f.tally.requests.length (n * size α) = true := fun hs =>
    hgrant (by simp [Frame.grants, hfits, hs])
  refine ⟨?_, fun sizes => ?_⟩
  · rw [Frame.asking, if_neg (not_or.2 ⟨Nat.not_lt.2 hfits, hbytes⟩),
      Bool.eq_false_iff.2 hgrant]
  · rw [Supply.answers, if_neg hbytes, if_neg hsupply]

/-- A buffer is asked for first. -/
lemma Asks.cons {n : Nat} {next : Unit → Call σ α ρ} (hfits : n ≤ maxLength α)
    (hnext : Asks supply operation (.ok buffers) (f.asking supply n).tally.requests
      (next () supply (f.asking supply n))) :
    Asks supply operation (.ok (n :: buffers)) f.tally.requests
      ((obtain operation n >>= next) supply f) := by
  rw [bind_apply, obtain_apply]
  by_cases hgrant : f.grants supply n = true
  · obtain ⟨front, hfront, hall, hanswers⟩ := asking_granted hfits hgrant
    obtain ⟨hrequests, hrefused⟩ := hnext
    rw [if_pos hgrant, Asks, List.map_cons, hanswers]
    refine ⟨?_, ?_⟩
    · rw [hrequests, hfront, List.append_assoc]
    · simp only [List.forall_mem_append, and_iff_right hall]
      exact hrefused
  · obtain ⟨hrequests, hanswers⟩ := asking_denied hfits hgrant
    rw [if_neg hgrant, Asks, List.map_cons, hanswers]
    refine ⟨hrequests, ?_⟩
    rw [if_neg (by simp)]
    rfl

/-- A buffer that is asked for whatever the arguments are cannot be too long, or the call fails
without a request. -/
lemma Asks.obtain (operation : Operation) (n : Nat) {next : Unit → Call σ α ρ}
    (hnext : ∀ g, Quiet (next ()) supply g) :
    Asks supply operation (if n ≤ maxLength α then .ok [n] else .error .noMemory)
      f.tally.requests ((Call.obtain operation n >>= next) supply f) := by
  split_ifs with hfits
  · exact .cons hfits (.of_quiet (hnext _))
  · rw [bind_apply, obtain_apply, Frame.grants, Frame.asking]
    simp only [hfits, decide_false, Bool.false_and, Bool.false_eq_true, if_false]
    rw [if_pos (.inl (Nat.not_le.1 hfits))]
    exact ⟨rfl, rfl⟩

/-- **A plan** asks for its buffers. -/
lemma carryOut_asks (operation : Operation) {plan : Except Reason (Plan σ ρ)}
    (hfits : ∀ p, plan = .ok p → ∀ n ∈ p.buffers, n ≤ maxLength α) :
    Asks supply operation (plan.map Plan.buffers) f.tally.requests
      (carryOut operation plan supply f) := by
  cases plan with
  | error reason => exact ⟨rfl, rfl⟩
  | ok p =>
    change Asks supply operation (.ok p.buffers) _ _
    rw [carryOut_apply operation (hfits p rfl), Asks]
    split_ifs with hgranted
    · exact ⟨rfl, fun e he => nomatch he⟩
    · exact ⟨rfl, rfl⟩

/-! ### Accounting for requests -/

/-- The requests of a call whose arguments have passed, when it needs buffers of these numbers of
slots: they are those for the buffers that have bytes, in order, none after one that is refused. The
call fails exactly if one is refused, and then for want of memory. -/
structure Requests (supply : Supply) (operation : Operation) (buffers : List Nat)
    (out : Except Halt ρ × Frame σ α) : Prop where
  made : out.2.tally.requests = supply.answers 0 (buffers.map (· * size α))
  bytes : out.2.tally.requests.map Request.bytes
    <+: (buffers.map (· * size α)).filter (· ≠ 0)
  count : (∀ r ∈ out.2.tally.requests, r.granted = true) →
    out.2.tally.requests.length = if Weightless α then 0 else buffers.countP (· ≠ 0)
  last : ∀ r ∈ out.2.tally.requests.dropLast, r.granted = true
  refused : (∃ e, out.1 = .error (.failure e)) ↔ ∃ r ∈ out.2.tally.requests, r.granted = false
  reason : ∀ e, out.1 = .error (.failure e) →
    e.operation = operation ∧ e.kind = .memory ∧ e.reason.text = "not enough memory"

/-- What is promised of a call with a demand: if it has to fail, it does so before any request; and
otherwise it accounts for its requests. -/
def Accounts (supply : Supply) (operation : Operation) (demand : Except Reason (List Nat))
    (out : Except Halt ρ × Frame σ α) : Prop :=
  match demand with
  | .error reason =>
    out.1 = .error (.failure ⟨operation, reason⟩) ∧ out.2.tally.requests = []
  | .ok buffers => Requests supply operation buffers out

/-- **What a call asks for** accounts for all of its requests. -/
lemma Asks.accounts {out : Except Halt ρ × Frame σ α}
    (h : Asks supply operation demand [] out) : Accounts supply operation demand out := by
  cases demand with
  | error reason => exact h
  | ok buffers =>
    obtain ⟨hrequests, hrefused⟩ := h
    rw [List.length_nil] at hrefused
    rw [List.length_nil, List.nil_append] at hrequests
    rw [← hrequests] at hrefused
    refine ⟨hrequests, ?_, fun hgranted => ?_, ?_, ?_, fun e he => ?_⟩
    · rw [hrequests]
      exact Supply.answers_prefix 0 _
    · rw [hrequests] at hgranted ⊢
      rw [← length_filter_bytes α buffers, ← Supply.answers_bytes hgranted, List.length_map]
    · rw [hrequests]
      exact Supply.answers_granted 0 _
    · split_ifs at hrefused with hgranted
      · refine ⟨fun ⟨e, he⟩ => absurd he (hrefused e), fun ⟨r, hr, hdenied⟩ => ?_⟩
        exact absurd (hgranted r hr) (Bool.eq_false_iff.1 hdenied)
      · refine ⟨fun _ => ?_, fun _ => ⟨_, hrefused⟩⟩
        obtain ⟨r, hr⟩ := not_forall.1 hgranted
        obtain ⟨hr, hdenied⟩ := Classical.not_imp.1 hr
        exact ⟨r, hr, Bool.eq_false_iff.2 hdenied⟩
    · split_ifs at hrefused with hgranted
      · exact absurd he (hrefused e)
      · rw [hrefused] at he
        cases he
        exact ⟨rfl, rfl, rfl⟩

end Call

end AnchoredArrays
