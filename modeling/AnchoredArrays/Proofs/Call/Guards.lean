import AnchoredArrays.Proofs.Call.Plan
import AnchoredArrays.Anchored.Growing
import AnchoredArrays.Sorting.Bench

/-!
Guards: what a step within a call vouches for when it goes through, and where a fault goes that a
step ends in.

* `Call.Guarded`: the call results in something with a property and does nothing else, or it
  faults; `require_guarded`, `Guarded.bind`: how such calls are put together;
* `Guards`, `guards`: **every guarded step** of arithmetic vouches for the value over the unbounded
  integers, and every access for lying inside the buffer;
* `Call.Reaches`, `Reaches.faults`: the calls that a call comes to on its way; **no fault is lost**;
* `Call.Exact`, `exact_of_allOrNothing`: the calls all of whose guarded steps go through.
-/

namespace AnchoredArrays

open Element

namespace Call

variable {σ τ α ρ π : Type} [Element α] {supply : Supply} {f g : Frame σ α}

/-- The call ends in a fault. -/
def Faults (c : Call σ α ρ) (supply : Supply) (f : Frame σ α) : Prop :=
  ∃ x g, c supply f = (.error (.fault x), g)

/-- The call results in something that has the property and does nothing else, or it faults. -/
def Guarded (c : Call σ α ρ) (P : ρ → Prop) : Prop :=
  ∀ supply f, (∃ r, c supply f = (.ok r, f) ∧ P r) ∨ c.Faults supply f

/-! ### Guarded calls -/

variable {c : Call σ α ρ} {next : ρ → Call σ α π} {P : ρ → Prop} {Q : π → Prop}

lemma guarded_pure {r : ρ} (h : P r) : (pure r : Call σ α ρ).Guarded P :=
  fun _ _ => .inl ⟨r, rfl, h⟩

lemma guarded_halt (x : Fault) : (halt (.fault x) : Call σ α ρ).Guarded P :=
  fun _ f => .inr ⟨x, f, rfl⟩

lemma require_guarded (p : Prop) [Decidable p] (x : Fault) :
    (require p x : Call σ α Unit).Guarded fun _ => p := by
  rw [require]
  split_ifs with hp
  · exact guarded_pure hp
  · exact guarded_halt x

/-- A call after a guarded one. -/
lemma Guarded.bind (hc : c.Guarded P) (hnext : ∀ r, P r → (next r).Guarded Q) :
    (c >>= next).Guarded Q := by
  intro supply f
  rw [Faults, bind_apply]
  obtain ⟨r, hr, hP⟩ | ⟨x, g, hx⟩ := hc supply f
  · rw [hr]
    exact hnext r hP supply f
  · rw [hx]
    exact .inr ⟨x, g, rfl⟩

/-- What is required holds in the rest of the call. -/
lemma guarded_require {p : Prop} [Decidable p] {x : Fault} {r : ρ} (h : p → P r) :
    (require p x >>= fun _ => pure r : Call σ α ρ).Guarded P :=
  (require_guarded p x).bind fun _ hp => guarded_pure (h hp)

lemma minus_guarded (m n : Nat) : (minus m n : Call σ α Nat).Guarded fun r => (r : Int) = m - n :=
  guarded_require fun h => by omega

lemma exactly_guarded (z : Int) : (exactly z : Call σ α Int64).Guarded fun i => i.toInt = z :=
  guarded_require id

lemma countOf_guarded (min max : Int64) :
    (countOf min max : Call σ α Nat).Guarded fun n => (n : Int) = max.toInt - min.toInt + 1 :=
  guarded_require id

/-- The upper bound of some slots is exact, and so is the number of slots that is read off it. -/
lemma maxOf_guarded (min : Int64) (n : Nat) :
    (maxOf min n : Call σ α Int64).Guarded fun max => max.toInt = min.toInt + n - 1
      ∧ (n < 0x10000000000000000 → (Position.count min max).toNat = n) := by
  refine guarded_require fun h => ⟨h, fun hn => ?_⟩
  have hc := Position.toNat_count min (Position.maxOfCount min (UInt64.ofNat n))
  omega

lemma offsetOf_guarded (min i : Int64) :
    (offsetOf min i : Call σ α Nat).Guarded fun k => (k : Int) = i.toInt - min.toInt :=
  guarded_require id

lemma requested_guarded (n : Int64) :
    (requested n : Call σ α Nat).Guarded fun r => (r : Int) = n.toInt :=
  guarded_require id

lemma wideSum_guarded (z : Int) :
    (wideSum z : Call σ α Unit).Guarded fun _ => Position.wide z = z :=
  require_guarded _ _

lemma belowPred_guarded (i min : Int64) :
    (belowPred i min : Call σ α Bool).Guarded fun b => b = decide (i.toInt < min.toInt - 1) :=
  guarded_require fun _ => Position.belowPred_eq i min

lemma beyondSucc_guarded (i max : Int64) :
    (beyondSucc i max : Call σ α Bool).Guarded fun b => b = decide (max.toInt + 1 < i.toInt) :=
  guarded_require fun _ => Position.beyondSucc_eq i max

lemma overruns_guarded (lower : Int64) (n : Nat) :
    (overruns lower n : Call σ α Bool).Guarded fun b =>
      b = decide (Position.greatest.toInt < lower.toInt + n - 1) := by
  refine (wideSum_guarded _).bind fun _ hsum => guarded_require fun hlast => ?_
  rw [Position.overruns, hsum, hlast]

end Call

/-! ### Accesses -/

section Accesses

open Call

variable {σ α β : Type} [Element α] [Element β]

lemma Buffer.read_guarded (s : Slots β) (i : Nat) :
    (Buffer.read s i : Call σ α β).Guarded fun x => i < s.length ∧ s.toList[i]? = some x := by
  rw [Buffer.read, Slots.get?_eq]
  cases hx : s.toList[i]? with
  | none => exact guarded_halt _
  | some x =>
    refine guarded_pure ⟨?_, rfl⟩
    rw [← Slots.length_toList]
    exact (List.getElem?_eq_some_iff.1 hx).1

lemma Buffer.readRun_guarded (s : Slots β) (start n : Nat) :
    (Buffer.readRun s start n : Call σ α (Slots β)).Guarded fun t =>
      start + n ≤ s.length ∧ t.length = n := by
  refine guarded_require fun h => ⟨h, ?_⟩
  rw [Slots.length_slice]
  omega

lemma Buffer.write_guarded (s : Slots β) (start : Nat) (new : Slots β) :
    (Buffer.write s start new : Call σ α (Slots β)).Guarded fun _ =>
      start + new.length ≤ s.length :=
  guarded_require id

lemma Buffer.copyWithin_guarded (s : Slots β) (source target n : Nat) :
    (Buffer.copyWithin s source target n : Call σ α (Slots β)).Guarded fun _ =>
      source + n ≤ s.length ∧ target + n ≤ s.length := by
  refine (Buffer.readRun_guarded s source n).bind fun run ⟨hsource, hrun⟩ => ?_
  refine guarded_require fun htarget => ⟨hsource, ?_⟩
  rw [← hrun]
  exact htarget

lemma Buffer.truncate_guarded (s : Slots β) (n : Nat) :
    (Buffer.truncate s n : Call σ α (Slots β)).Guarded fun _ => n ≤ s.length :=
  guarded_require id

lemma Fill.writeAt_guarded (i : Nat) (x : α) (cells : Array (Cell α)) :
    (Fill.writeAt i x cells : Call σ α (Array (Cell α))).Guarded fun _ => i < cells.size := by
  rw [Fill.writeAt]
  split_ifs with h
  · exact guarded_pure h
  · exact guarded_halt _

end Accesses

/-- What the guarded steps vouch for when they go through: differences, bounds, lengths, distances
and the sums that limits are checked by are those over the unbounded integers, and accesses lie
inside the buffer, or the span that is being sorted, as it is at that moment. -/
structure Guards (σ α : Type) [Element α] : Prop where
  minus (m n : Nat) : (Call.minus m n : Call σ α Nat).Guarded fun r => (r : Int) = m - n
  exactly (z : Int) : (Call.exactly z : Call σ α Int64).Guarded fun i => i.toInt = z
  countOf (min max : Int64) :
    (Call.countOf min max : Call σ α Nat).Guarded fun n => (n : Int) = max.toInt - min.toInt + 1
  maxOf (min : Int64) (n : Nat) :
    (Call.maxOf min n : Call σ α Int64).Guarded fun max => max.toInt = min.toInt + n - 1
      ∧ (n < 0x10000000000000000 → (Position.count min max).toNat = n)
  offsetOf (min i : Int64) :
    (Call.offsetOf min i : Call σ α Nat).Guarded fun k => (k : Int) = i.toInt - min.toInt
  requested (n : Int64) : (Call.requested n : Call σ α Nat).Guarded fun r => (r : Int) = n.toInt
  wideSum (z : Int) : (Call.wideSum z : Call σ α Unit).Guarded fun _ => Position.wide z = z
  belowPred (i min : Int64) :
    (Call.belowPred i min : Call σ α Bool).Guarded fun b => b = decide (i.toInt < min.toInt - 1)
  beyondSucc (i max : Int64) :
    (Call.beyondSucc i max : Call σ α Bool).Guarded fun b => b = decide (max.toInt + 1 < i.toInt)
  overruns (lower : Int64) (n : Nat) :
    (Call.overruns lower n : Call σ α Bool).Guarded fun b =>
      b = decide (Position.greatest.toInt < lower.toInt + n - 1)
  read {β : Type} [Element β] (s : Slots β) (i : Nat) :
    (Buffer.read s i : Call σ α β).Guarded fun x => i < s.length ∧ s.toList[i]? = some x
  readRun {β : Type} [Element β] (s : Slots β) (start n : Nat) :
    (Buffer.readRun s start n : Call σ α (Slots β)).Guarded fun t =>
      start + n ≤ s.length ∧ t.length = n
  write {β : Type} [Element β] (s : Slots β) (start : Nat) (new : Slots β) :
    (Buffer.write s start new : Call σ α (Slots β)).Guarded fun _ =>
      start + new.length ≤ s.length
  copyWithin {β : Type} [Element β] (s : Slots β) (source target n : Nat) :
    (Buffer.copyWithin s source target n : Call σ α (Slots β)).Guarded fun _ =>
      source + n ≤ s.length ∧ target + n ≤ s.length
  truncate {β : Type} [Element β] (s : Slots β) (n : Nat) :
    (Buffer.truncate s n : Call σ α (Slots β)).Guarded fun _ => n ≤ s.length
  writeAt (i : Nat) (x : α) (cells : Array (Cell α)) :
    (Fill.writeAt i x cells : Call σ α (Array (Cell α))).Guarded fun _ => i < cells.size
  compareAt {τ : Type} (compare : Sorting.Comparison τ α) (lo hi i j : Nat)
    (b : Sorting.Bench τ α) (answer : Ordering × Sorting.Bench τ α) :
    b.compareAt compare lo hi i j = .ok answer →
      (lo ≤ i ∧ i ≤ hi) ∧ (lo ≤ j ∧ j ≤ hi) ∧ hi < b.items.size ∧ i ≠ j
  swapAt {τ : Type} (lo hi i j : Nat) (b c : Sorting.Bench τ α) :
    b.swapAt lo hi i j = .ok c → (lo ≤ i ∧ i ≤ hi) ∧ (lo ≤ j ∧ j ≤ hi) ∧ hi < b.items.size

/-- **Every guarded step** vouches for its result. -/
lemma guards (σ α : Type) [Element α] : Guards σ α where
  minus := Call.minus_guarded
  exactly := Call.exactly_guarded
  countOf := Call.countOf_guarded
  maxOf := Call.maxOf_guarded
  offsetOf := Call.offsetOf_guarded
  requested := Call.requested_guarded
  wideSum := Call.wideSum_guarded
  belowPred := Call.belowPred_guarded
  beyondSucc := Call.beyondSucc_guarded
  overruns := Call.overruns_guarded
  read := Buffer.read_guarded
  readRun := Buffer.readRun_guarded
  write := Buffer.write_guarded
  copyWithin := Buffer.copyWithin_guarded
  truncate := Buffer.truncate_guarded
  writeAt := Fill.writeAt_guarded
  compareAt _ _ _ _ _ _ _ := Sorting.Bench.mem_of_compareAt
  swapAt _ _ _ _ _ _ := Sorting.Bench.mem_of_swapAt

/-! ### Faults pass through -/

namespace Call.Faults

variable {σ τ α ρ π : Type} [Element α] {supply : Supply} {f g : Frame σ α}
variable {c : Call σ α ρ} {next : ρ → Call σ α π}

lemma bind (h : c.Faults supply f) : (c >>= next).Faults supply f := by
  obtain ⟨x, g, hx⟩ := h
  refine ⟨x, g, ?_⟩
  rw [bind_apply, hx]

lemma bind_next {r : ρ} (hc : c supply f = (.ok r, g)) (h : (next r).Faults supply g) :
    (c >>= next).Faults supply f := by
  rw [Faults, bind_apply, hc]
  exact h

lemma during (h : c.Faults supply f) (operation : Operation) :
    (Call.during operation c).Faults supply f := by
  obtain ⟨x, g, hx⟩ := h
  refine ⟨x, g, ?_⟩
  rw [Call.during, hx]

lemma orUndo (h : c.Faults supply f) (undo : Call σ α Unit) :
    (c.orUndo undo).Faults supply f := by
  obtain ⟨x, g, hx⟩ := h
  refine ⟨x, g, ?_⟩
  rw [Call.orUndo, hx]

lemma undo {undo : Call σ α Unit} {e : Failure} (hc : c supply f = (.error (.failure e), g))
    (h : undo.Faults supply g) : (c.orUndo undo).Faults supply f := by
  rw [Faults, Call.orUndo, hc]
  exact h.bind

lemma guarding (h : c.Faults supply f) (cleanup : Call σ α Unit) :
    (c.guarding cleanup).Faults supply f := by
  obtain ⟨x, g, hx⟩ := h
  refine ⟨x, g, ?_⟩
  rw [Call.guarding, hx]

lemma cleanup {cleanup : Call σ α Unit} {e : Halt} (hc : c supply f = (.error e, g))
    (h : cleanup.Faults supply g) : (c.guarding cleanup).Faults supply f := by
  rw [Faults, Call.guarding, hc]
  cases e with
  | fault x => exact ⟨x, g, rfl⟩
  | failure _ | panic _ => exact h.bind

lemma inSlot {c : Call τ α ρ} {f : Frame (Option τ) α} {a : τ} (hslot : f.held = some a)
    (h : c.Faults supply ⟨a, f.copiesLeft, f.tally⟩) (operation : Operation) :
    (Call.inSlot operation c).Faults supply f := by
  obtain ⟨x, g, hx⟩ := h
  rw [Call.inSlot, Faults, held_bind, hslot]
  refine bind_next (r := (.error (.fault x), g.held)) (g := { g with held := f.held }) ?_
    ⟨x, { g with held := some g.held }, rfl⟩
  rw [Call.on, hx]

lemma owning {c : Call (Anchored α) α Unit} {a : Anchored α}
    (h : c.Faults supply ⟨a, f.copiesLeft, f.tally⟩) :
    (Anchored.owning a c : Call σ α (Anchored α)).Faults supply f := by
  obtain ⟨x, g, hx⟩ := h
  refine bind_next (r := (.error (.fault x), g.held)) (g := { g with held := f.held }) ?_ ?_
  · rw [Call.on, hx]
  · exact guarding ⟨x, _, rfl⟩ _

lemma copy {a : Anchored α}
    (h : (Anchored.copySlots .copy a 0 a.length a.lower : Call σ α (Anchored α)).Faults supply f) :
    (a.copy : Call σ α (Anchored α)).Faults supply f := by
  obtain ⟨x, g, hx⟩ := h
  refine ⟨x, g, ?_⟩
  rw [Anchored.copy, hx]

end Call.Faults

namespace Call

variable {α : Type} [Element α]

/-- What a call comes to on its way: the call `c` at the frame `f` comes to the call `d` at the
frame `g`. -/
inductive Reaches (supply : Supply) : {σ ρ τ π : Type} →
    Call σ α ρ → Frame σ α → Call τ α π → Frame τ α → Prop where
  | whole {σ ρ : Type} (c : Call σ α ρ) (f : Frame σ α) : Reaches supply c f c f
  | first {σ ρ ρ' τ π : Type} {c : Call σ α ρ} {f : Frame σ α} {d : Call τ α π} {g : Frame τ α}
      (next : ρ → Call σ α ρ') (h : Reaches supply c f d g) : Reaches supply (c >>= next) f d g
  | next {σ ρ ρ' τ π : Type} {c : Call σ α ρ} {next : ρ → Call σ α ρ'} {f f' : Frame σ α} {r : ρ}
      {d : Call τ α π} {g : Frame τ α} (hc : c supply f = (.ok r, f'))
      (h : Reaches supply (next r) f' d g) : Reaches supply (c >>= next) f d g
  | during {σ ρ τ π : Type} {c : Call σ α ρ} {f : Frame σ α} {d : Call τ α π} {g : Frame τ α}
      (operation : Operation) (h : Reaches supply c f d g) :
      Reaches supply (c.during operation) f d g
  | tried {σ ρ τ π : Type} {c : Call σ α ρ} {f : Frame σ α} {d : Call τ α π} {g : Frame τ α}
      (undo : Call σ α Unit) (h : Reaches supply c f d g) : Reaches supply (c.orUndo undo) f d g
  | undone {σ ρ τ π : Type} {c : Call σ α ρ} {undo : Call σ α Unit} {f f' : Frame σ α}
      {e : Failure} {d : Call τ α π} {g : Frame τ α} (hc : c supply f = (.error (.failure e), f'))
      (h : Reaches supply undo f' d g) : Reaches supply (c.orUndo undo) f d g
  | guarded {σ ρ τ π : Type} {c : Call σ α ρ} {f : Frame σ α} {d : Call τ α π} {g : Frame τ α}
      (cleanup : Call σ α Unit) (h : Reaches supply c f d g) :
      Reaches supply (c.guarding cleanup) f d g
  | cleaned {σ ρ τ π : Type} {c : Call σ α ρ} {cleanup : Call σ α Unit} {f f' : Frame σ α}
      {e : Halt} {d : Call τ α π} {g : Frame τ α} (hc : c supply f = (.error e, f'))
      (h : Reaches supply cleanup f' d g) : Reaches supply (c.guarding cleanup) f d g
  | inSlot {σ ρ τ π : Type} {c : Call σ α ρ} {f : Frame (Option σ) α} {a : σ} {d : Call τ α π}
      {g : Frame τ α} (operation : Operation) (hslot : f.held = some a)
      (h : Reaches supply c ⟨a, f.copiesLeft, f.tally⟩ d g) :
      Reaches supply (c.inSlot operation) f d g
  | owned {σ τ π : Type} {c : Call (Anchored α) α Unit} {a : Anchored α} {f : Frame σ α}
      {d : Call τ α π} {g : Frame τ α} (h : Reaches supply c ⟨a, f.copiesLeft, f.tally⟩ d g) :
      Reaches supply (Anchored.owning a c) f d g
  | copied {σ τ π : Type} {a : Anchored α} {f : Frame σ α} {d : Call τ α π} {g : Frame τ α}
      (h : Reaches supply (Anchored.copySlots .copy a 0 a.length a.lower) f d g) :
      Reaches supply a.copy f d g

variable {σ ρ τ π : Type} {supply : Supply} {c : Call σ α ρ} {a : σ}

/-- **No fault is lost**: if a call comes to one that ends in a fault, it ends in a fault. -/
lemma Reaches.faults {f : Frame σ α} {d : Call τ α π} {g : Frame τ α} (h : Reaches supply c f d g)
    (hd : d.Faults supply g) : c.Faults supply f := by
  induction h with
  | whole => exact hd
  | first next _ ih => exact (ih hd).bind
  | next hc _ ih => exact .bind_next hc (ih hd)
  | during operation _ ih => exact (ih hd).during operation
  | tried undo _ ih => exact (ih hd).orUndo undo
  | undone hc _ ih => exact .undo hc (ih hd)
  | guarded cleanup _ ih => exact (ih hd).guarding cleanup
  | cleaned hc _ ih => exact .cleanup hc (ih hd)
  | inSlot operation hslot _ ih => exact .inSlot hslot (ih hd) operation
  | owned _ ih => exact (ih hd).owning
  | copied _ ih => exact (ih hd).copy

/-- Every guarded step that the call comes to, when it is made on `a` with whatever is granted,
goes through, and what it vouches for holds. -/
def Exact (c : Call σ α ρ) (a : σ) : Prop :=
  ∀ (supply : Supply) {τ π : Type} (d : Call τ α π) (g : Frame τ α) (P : π → Prop),
    Reaches supply c ⟨a, supply.copies, .blank⟩ d g → d.Guarded P →
      ∃ r, d supply g = (.ok r, g) ∧ P r

lemma AllOrNothing.not_faults {post : ρ → σ → Prop} {f : Frame σ α}
    (hc : AllOrNothing c post supply f) : ¬ c.Faults supply f := by
  rintro ⟨x, g, hx⟩
  rw [AllOrNothing, hx] at hc
  exact hc

/-- A call that is all or nothing does not end in a fault, and so comes to none. -/
lemma exact_of_allOrNothing {post : Supply → ρ → σ → Prop}
    (hc : ∀ supply, AllOrNothing c (post supply) supply ⟨a, supply.copies, .blank⟩) :
    c.Exact a := by
  intro supply τ π d g P hreach hd
  obtain hgood | hfault := hd supply g
  · exact hgood
  · exact absurd (hreach.faults hfault) (hc supply).not_faults

end Call

end AnchoredArrays
