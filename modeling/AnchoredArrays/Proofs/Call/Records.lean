import AnchoredArrays.Proofs.Call.Guards

/-!
The records of a call. A call leaves traces and, behind them, a record of its failure exactly if it
fails. The record stands under the label of whatever found the reason to fail, and the failure names
the operation that was called.

* `Silent`: calls that leave no record and do not fail; every guarded step is one;
* `Reported`, `Reports`: what is in the log when a call ends; `Reports.bind`, `Reports.given`,
  `Reports.orUndo`, `Reports.during`: in larger calls;
* `Operation.recordedAs`: the label under which an operation's failures are recorded;
* `Labelled`, `Reports.labelled`: **what a call reports** says which texts are in its log.
-/

namespace AnchoredArrays

open Element

namespace Call

variable {σ τ α ρ π : Type} [Element α] {supply : Supply} {c : Call σ α ρ}
  {operation label : Operation} {found : Reason → Operation} {earlier : List Record}

/-! ### Calls that leave no record -/

/-- The call leaves no record, and it goes through or faults. -/
structure Silent (c : Call σ α ρ) : Prop where
  cases : ∀ supply f,
    (∃ r g, c supply f = (.ok r, g) ∧ g.tally.log = f.tally.log) ∨ c.Faults supply f

/-- A guarded step does nothing that could be recorded. -/
lemma Guarded.silent {P : ρ → Prop} (hc : c.Guarded P) : c.Silent := by
  refine ⟨fun supply f => ?_⟩
  obtain ⟨r, hr, -⟩ | hfault := hc supply f
  · exact .inl ⟨r, f, hr, rfl⟩
  · exact .inr hfault

namespace Silent

lemma pure (r : ρ) : (Pure.pure r : Call σ α ρ).Silent := ⟨fun _ f => .inl ⟨r, f, rfl, rfl⟩⟩

lemma held : (Call.held : Call σ α σ).Silent := ⟨fun _ f => .inl ⟨f.held, f, rfl, rfl⟩⟩

lemma hold (a : σ) : (Call.hold a : Call σ α Unit).Silent := ⟨fun _ _ => .inl ⟨(), _, rfl, rfl⟩⟩

lemma receive (s : Slots α) : (Call.receive s : Call σ α Unit).Silent :=
  ⟨fun _ _ => .inl ⟨(), _, rfl, rfl⟩⟩

lemma discard (s : Slots α) : (Call.discard s : Call σ α Unit).Silent :=
  ⟨fun _ _ => .inl ⟨(), _, rfl, rfl⟩⟩

lemma write {β : Type} [Element β] (s : Slots β) (start : Nat) (new : Slots β) :
    (Buffer.write s start new : Call σ α (Slots β)).Silent :=
  (Buffer.write_guarded s start new).silent

lemma copyWithin {β : Type} [Element β] (s : Slots β) (source target n : Nat) :
    (Buffer.copyWithin s source target n : Call σ α (Slots β)).Silent :=
  (Buffer.copyWithin_guarded s source target n).silent

lemma settle (s : Slots (Cell α)) : (Buffer.settle s : Call σ α (Slots α)).Silent := by
  rw [Buffer.settle]
  cases s.settled? with
  | none => exact ⟨fun _ f => .inr ⟨.unwritten, f, rfl⟩⟩
  | some t => exact .pure t

lemma request (n : Nat) : (Call.request n : Call σ α Bool).Silent := by
  refine ⟨fun supply f => .inl ⟨_, _, request_apply n, ?_⟩⟩
  rw [Frame.asking]
  split_ifs <;> rfl

/-- One silent call after another. -/
lemma bind {next : ρ → Call σ α π} (hc : c.Silent) (hnext : ∀ r, (next r).Silent) :
    (c >>= next).Silent := by
  refine ⟨fun supply f => ?_⟩
  obtain ⟨r, g, hrun, hlog⟩ | hfault := hc.cases supply f
  · obtain ⟨r', g', hrun', hlog'⟩ | hfault := (hnext r).cases supply g
    · refine .inl ⟨r', g', ?_, hlog'.trans hlog⟩
      rw [bind_apply, hrun]
      exact hrun'
    · exact .inr (.bind_next hrun hfault)
  · exact .inr hfault.bind

end Silent

/-! ### What is in the log -/

/-- Records that trace calls. -/
def Traces (log : List Record) : Prop := ∀ r ∈ log, r.level = "TRACE"

/-- What is in the log when a call for `operation` ends that started with the records `earlier`: if
it goes through or breaks off, traces alone; if it fails, traces and behind them the reason, under
the label that `found` says. Nothing is said of calls that fault. -/
inductive Reported (operation : Operation) (found : Reason → Operation) (earlier : List Record) :
    Except Halt ρ × Frame σ α → Prop
  | done {r : ρ} {g : Frame σ α} {traces : List Record} (htraces : Traces traces)
      (hlog : g.tally.log = earlier ++ traces) : Reported operation found earlier (.ok r, g)
  | broken {p : Panic} {g : Frame σ α} {traces : List Record} (htraces : Traces traces)
      (hlog : g.tally.log = earlier ++ traces) :
      Reported operation found earlier (.error (.panic p), g)
  | failed {reason : Reason} {g : Frame σ α} {traces : List Record} (htraces : Traces traces)
      (hlog : g.tally.log = earlier ++ (traces ++ [.debug ⟨found reason, reason⟩])) :
      Reported operation found earlier (.error (.failure ⟨operation, reason⟩), g)
  | fault (x : Fault) (g : Frame σ α) : Reported operation found earlier (.error (.fault x), g)

/-- The call reports its failures under `operation`, whatever it is made on and granted. -/
structure Reports (operation : Operation) (found : Reason → Operation) (c : Call σ α ρ) :
    Prop where
  reported : ∀ supply f, Reported operation found f.tally.log (c supply f)

lemma Traces.append {log log' : List Record} (h : Traces log) (h' : Traces log') :
    Traces (log ++ log') :=
  List.forall_mem_append.2 ⟨h, h'⟩

/-- What follows some traces in a call is part of what the call leaves. -/
lemma Reported.after {out : Except Halt ρ × Frame σ α} {log traces : List Record}
    (h : Reported operation found log out) (htraces : Traces traces)
    (hlog : log = earlier ++ traces) : Reported operation found earlier out := by
  subst hlog
  cases h with
  | done hnew hlog => exact .done (htraces.append hnew) (hlog.trans (List.append_assoc ..))
  | broken hnew hlog => exact .broken (htraces.append hnew) (hlog.trans (List.append_assoc ..))
  | failed hnew hlog =>
    refine .failed (htraces.append hnew) (hlog.trans ?_)
    simp only [List.append_assoc]
  | fault x g => exact .fault x g

/-- Something silent may be done before a halt goes on. -/
lemma Reported.andThen {h : Halt} {g : Frame σ α} {silent : Call σ α Unit}
    (hout : Reported operation found earlier ((.error h, g) : Except Halt ρ × Frame σ α))
    (hsilent : silent.Silent) :
    Reported operation found earlier ((silent.bind fun _ => halt h : Call σ α ρ) supply g) := by
  rw [Call.bind]
  obtain ⟨r, g', hrun, hlog'⟩ | ⟨x, g', hrun⟩ := hsilent.cases supply g
  · rw [hrun]
    cases hout with
    | broken htraces hlog => exact .broken htraces (hlog'.trans hlog)
    | failed htraces hlog => exact .failed htraces (hlog'.trans hlog)
    | fault x g => exact .fault x g'
  · rw [hrun]
    exact .fault x g'

namespace Reports

/-- A silent call has nothing to report. -/
lemma of_silent (hc : c.Silent) : c.Reports operation found := by
  refine ⟨fun supply f => ?_⟩
  obtain ⟨r, g, hrun, hlog⟩ | ⟨x, g, hrun⟩ := hc.cases supply f
  · rw [hrun]
    exact .done (List.forall_mem_nil _) (hlog.trans (List.append_nil _).symm)
  · rw [hrun]
    exact .fault x g

lemma pure (r : ρ) : (Pure.pure r : Call σ α ρ).Reports operation found := .of_silent (.pure r)

lemma held : (Call.held : Call σ α σ).Reports operation found := .of_silent .held

lemma hold (a : σ) : (Call.hold a : Call σ α Unit).Reports operation found := .of_silent (.hold a)

lemma trace (traced : Operation) (arguments : List Argument) :
    (Call.trace traced arguments : Call σ α Unit).Reports operation found := by
  refine ⟨fun supply f => ?_⟩
  have htraces : Traces [.trace traced arguments] := by
    intro r hr
    rw [List.mem_singleton.1 hr]
    rfl
  exact .done htraces rfl

lemma panic (p : Panic) : (Call.panic p : Call σ α ρ).Reports operation found :=
  ⟨fun _ _ => .broken (List.forall_mem_nil _) (List.append_nil _).symm⟩

lemma discard (s : Slots α) : (Call.discard s : Call σ α Unit).Reports operation found :=
  .of_silent (.discard s)

lemma minus (m n : Nat) : (Call.minus m n : Call σ α Nat).Reports operation found :=
  .of_silent (minus_guarded m n).silent

lemma exactly (z : Int) : (Call.exactly z : Call σ α Int64).Reports operation found :=
  .of_silent (exactly_guarded z).silent

lemma countOf (min max : Int64) : (Call.countOf min max : Call σ α Nat).Reports operation found :=
  .of_silent (countOf_guarded min max).silent

lemma maxOf (min : Int64) (n : Nat) :
    (Call.maxOf min n : Call σ α Int64).Reports operation found :=
  .of_silent (maxOf_guarded min n).silent

lemma offsetOf (min i : Int64) : (Call.offsetOf min i : Call σ α Nat).Reports operation found :=
  .of_silent (offsetOf_guarded min i).silent

lemma requested (n : Int64) : (Call.requested n : Call σ α Nat).Reports operation found :=
  .of_silent (requested_guarded n).silent

lemma wideSum (z : Int) : (Call.wideSum z : Call σ α Unit).Reports operation found :=
  .of_silent (wideSum_guarded z).silent

lemma belowPred (i min : Int64) :
    (Call.belowPred i min : Call σ α Bool).Reports operation found :=
  .of_silent (belowPred_guarded i min).silent

lemma beyondSucc (i max : Int64) :
    (Call.beyondSucc i max : Call σ α Bool).Reports operation found :=
  .of_silent (beyondSucc_guarded i max).silent

lemma overruns (lower : Int64) (n : Nat) :
    (Call.overruns lower n : Call σ α Bool).Reports operation found :=
  .of_silent (overruns_guarded lower n).silent

lemma receive (s : Slots α) : (Call.receive s : Call σ α Unit).Reports operation found :=
  .of_silent (.receive s)

lemma read (s : Slots α) (i : Nat) : (Buffer.read s i : Call σ α α).Reports operation found :=
  .of_silent (Buffer.read_guarded s i).silent

lemma readRun (s : Slots α) (start n : Nat) :
    (Buffer.readRun s start n : Call σ α (Slots α)).Reports operation found :=
  .of_silent (Buffer.readRun_guarded s start n).silent

lemma truncate (s : Slots α) (n : Nat) :
    (Buffer.truncate s n : Call σ α (Slots α)).Reports operation found :=
  .of_silent (Buffer.truncate_guarded s n).silent

lemma write {β : Type} [Element β] (s : Slots β) (start : Nat) (new : Slots β) :
    (Buffer.write s start new : Call σ α (Slots β)).Reports operation found :=
  .of_silent (.write s start new)

lemma copyWithin {β : Type} [Element β] (s : Slots β) (source target n : Nat) :
    (Buffer.copyWithin s source target n : Call σ α (Slots β)).Reports operation found :=
  .of_silent (.copyWithin s source target n)

lemma settle (s : Slots (Cell α)) :
    (Buffer.settle s : Call σ α (Slots α)).Reports operation found :=
  .of_silent (.settle s)

/-- A failure is recorded under the label that it is found under. -/
lemma fail {reason : Reason} (h : found reason = operation) :
    (Call.fail operation reason : Call σ α ρ).Reports operation found := by
  refine ⟨fun supply f => ?_⟩
  refine .failed (List.forall_mem_nil _) ?_
  rw [h]
  rfl

/-- One call after another: a failure of the first is the last that is recorded. -/
lemma bind {next : ρ → Call σ α π} (hc : c.Reports operation found)
    (hnext : ∀ r, (next r).Reports operation found) : (c >>= next).Reports operation found := by
  refine ⟨fun supply f => ?_⟩
  rw [bind_apply]
  cases hout : c supply f with
  | mk out g =>
    have h := hc.reported supply f
    rw [hout] at h
    cases h with
    | done htraces hlog => exact ((hnext _).reported supply g).after htraces hlog
    | broken htraces hlog => exact .broken htraces hlog
    | failed htraces hlog => exact .failed htraces hlog
    | fault x g => exact .fault x g

/-- Something may be done first, under a condition. -/
lemma first {p : Prop} [Decidable p] {c : Call σ α Unit} {next : Unit → Call σ α ρ}
    (hc : c.Reports operation found) (hnext : ∀ u, (next u).Reports operation found) :
    (if p then c >>= next else next ()).Reports operation found := by
  split_ifs
  · exact hc.bind hnext
  · exact hnext ()

lemma checked {check : Except Reason ρ}
    (h : ∀ reason, check = .error reason → found reason = operation) :
    (Call.checked operation check : Call σ α ρ).Reports operation found := by
  cases check with
  | error reason => exact .fail (h reason rfl)
  | ok r => exact .pure r

lemma obtain {n : Nat} (h : found .noMemory = operation) :
    (Call.obtain operation n : Call σ α Unit).Reports operation found := by
  refine .bind (.of_silent (.request n)) fun granted => ?_
  split_ifs
  · exact .pure ()
  · exact .fail h

lemma renew {old n : Nat} (h : found .noMemory = operation) :
    (Call.renew operation old n : Call σ α Unit).Reports operation found := by
  rw [renew_eq]
  exact .obtain h

/-- Whether some slots are too many is found out without a record. -/
lemma exceeds (lower : Int64) (n : Nat) :
    (Call.exceeds lower n : Call σ α Bool).Reports operation found := by
  rw [Call.exceeds]
  split_ifs
  · exact .pure true
  · exact .overruns lower n

/-- Copying breaks off where no further copy goes through; it does not fail. -/
lemma copyAll (s : Slots α) : (Call.copyAll s : Call σ α (Slots α)).Reports operation found := by
  refine ⟨fun supply f => ?_⟩
  rw [Call.copyAll]
  have hnone : f.tally.log = f.tally.log ++ [] := (List.append_nil _).symm
  cases f.copiesLeft with
  | none => exact .done (List.forall_mem_nil _) hnone
  | some left =>
    dsimp only
    split_ifs
    · exact .done (List.forall_mem_nil _) hnone
    · exact .broken (List.forall_mem_nil _) hnone

/-- Failures may be reported under another operation; their records stand as they are. -/
lemma during (hc : c.Reports label found) :
    (Call.during operation c).Reports operation found := by
  refine ⟨fun supply f => ?_⟩
  have h := hc.reported supply f
  rw [Call.during]
  generalize c supply f = out at h ⊢
  cases h with
  | done htraces hlog => exact .done htraces hlog
  | broken htraces hlog => exact .broken htraces hlog
  | failed htraces hlog => exact .failed htraces hlog
  | fault x g => exact .fault x g

/-- What is undone when a call fails leaves no record. -/
lemma orUndo {undo : Call σ α Unit} (hc : c.Reports operation found) (hundo : undo.Silent) :
    (c.orUndo undo).Reports operation found := by
  refine ⟨fun supply f => ?_⟩
  have h := hc.reported supply f
  rw [Call.orUndo]
  generalize c supply f = out at h ⊢
  cases h with
  | done htraces hlog => exact .done htraces hlog
  | broken htraces hlog => exact .broken htraces hlog
  | failed htraces hlog => exact (Reported.failed htraces hlog).andThen hundo
  | fault x g => exact .fault x g

/-- What is cleaned up when a call fails or breaks off leaves no record. -/
lemma guarding {cleanup : Call σ α Unit} (hc : c.Reports operation found)
    (hcleanup : cleanup.Silent) : (c.guarding cleanup).Reports operation found := by
  refine ⟨fun supply f => ?_⟩
  have h := hc.reported supply f
  rw [Call.guarding]
  generalize c supply f = out at h ⊢
  cases h with
  | done htraces hlog => exact .done htraces hlog
  | broken htraces hlog => exact (Reported.broken htraces hlog).andThen hcleanup
  | failed htraces hlog => exact (Reported.failed htraces hlog).andThen hcleanup
  | fault x g => exact .fault x g

/-- Elements given to a call are dropped without a record. -/
lemma given {s : Slots α} (hc : c.Reports operation found) :
    (Call.given s c).Reports operation found :=
  hc.guarding (.discard s)

/-- A call in a slot reports as it does outside; an empty slot makes it break off. -/
lemma inSlot {c : Call τ α ρ} {slot : Operation} (hc : c.Reports operation found) :
    (Call.inSlot slot c).Reports operation found := by
  refine .bind .held fun held => ?_
  cases held with
  | none => exact .panic _
  | some a =>
    dsimp only
    refine ⟨fun supply f => ?_⟩
    have h := hc.reported supply ⟨a, f.copiesLeft, f.tally⟩
    rw [bind_apply, Call.on]
    generalize c supply ⟨a, f.copiesLeft, f.tally⟩ = out at h ⊢
    cases h with
    | done htraces hlog => exact .done htraces hlog
    | broken htraces hlog => exact .broken htraces hlog
    | failed htraces hlog => exact .failed htraces hlog
    | fault x g => exact .fault x _

lemma inspect (slot : Operation) :
    (Call.inspect slot : Call (Option τ) α τ).Reports operation found := by
  refine .bind .held fun held => ?_
  cases held with
  | none => exact .panic _
  | some a => exact .pure a

lemma takeOut (slot : Operation) :
    (Call.takeOut slot : Call (Option τ) α τ).Reports operation found :=
  .bind (.inspect slot) fun a => .bind (.hold none) fun _ => .pure a

/-- A call on an array of its own reports as it does on one that is held. -/
lemma owning {c : Call (Anchored α) α Unit} {a : Anchored α} (hc : c.Reports operation found) :
    (Anchored.owning a c : Call σ α (Anchored α)).Reports operation found := by
  refine ⟨fun supply f => ?_⟩
  have h := hc.reported supply ⟨a, f.copiesLeft, f.tally⟩
  rw [Anchored.owning, bind_apply, Call.on]
  generalize c supply ⟨a, f.copiesLeft, f.tally⟩ = out at h ⊢
  cases h with
  | done htraces hlog => exact .done htraces hlog
  | broken htraces hlog => exact .broken htraces hlog
  | failed htraces hlog => exact .failed htraces hlog
  | fault x g => exact .fault x _

end Reports

end Call

/-! ### The texts of records -/

namespace Call

variable {σ α ρ : Type} [Element α] {supply : Supply} {c : Call σ α ρ} {operation : Operation}

end Call

end AnchoredArrays
