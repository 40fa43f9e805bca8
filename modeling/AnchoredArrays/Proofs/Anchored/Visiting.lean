import AnchoredArrays.Proofs.Anchored.Making
import Mathlib.Data.Int.Range

/-!
Arrays that a function makes. The function may depend on what its earlier calls left behind, so it
matters for which positions it is called, how often and in which order.

* `Calls`: the calls of a function, each with its position and its value; `visit_calls`: **the calls
  that are made** for consecutive positions;
* `fillBy`, `madeBy`: the slots are written one after the other, and the call holds what the
  function left behind, also when it halts; `ofFn_eq_madeBy`: this is how `ofFn` makes an array;
* `toInt_visited`: no position wraps on the way from the lower to the upper bound;
* `Visits`, `positions_visited`: **every position is visited once**, in ascending order.
-/

namespace AnchoredArrays.Anchored

open Element Call Draft

variable {α σ τ : Type} [Element α] {supply : Supply} {lower upper : Int64} {g : τ → Int64 → α × τ}
  {t : τ}

/-! ### The calls of a function -/

/-- Calls of a function one after the other, each of which finds what the one before it left behind:
from the memory `t` to the memory `t'`, with their positions and values. -/
inductive Calls (g : τ → Int64 → α × τ) : τ → List (Int64 × α) → τ → Prop
  | none (t : τ) : Calls g t [] t
  | cons {t t' t'' : τ} {i : Int64} {x : α} {log : List (Int64 × α)} (hcall : g t i = (x, t'))
      (hrest : Calls g t' log t'') : Calls g t ((i, x) :: log) t''

/-- The `n` positions from the `k`-th one behind `start` on. -/
def visited (start : Int64) (k n : Nat) : List Int64 :=
  (List.range' k n).map fun j => start + Int64.ofNat j

lemma visited_succ (start : Int64) (k n : Nat) :
    visited start k (n + 1) = (start + Int64.ofNat k) :: visited start (k + 1) n := rfl

/-- **The calls that are made** are one for each position, and their values are those visited. -/
lemma visit_calls {β : Type} (g : τ → Int64 → β × τ) (start : Int64) (n k : Nat) (t : τ) :
    ∃ log, Calls g t log (values g start n k t).2 ∧ log.map Prod.fst = visited start k n
      ∧ log.map Prod.snd = (values g start n k t).1 := by
  induction n generalizing k t with
  | zero => exact ⟨[], .none t, rfl, rfl⟩
  | succ n ih =>
    obtain ⟨log, hcalls, hpositions, hvalues⟩ := ih (k + 1) (g t (start + Int64.ofNat k)).2
    refine ⟨(start + Int64.ofNat k, (g t (start + Int64.ofNat k)).1) :: log, .cons rfl hcalls,
      ?_, ?_⟩
    · rw [List.map_cons, hpositions, visited_succ]
    · rw [List.map_cons, hvalues, values]

/-! ### One slot after the other -/

/-- The next call of a function, whose memory is the value held. -/
def ask (g : τ → Int64 → α × τ) (i : Int64) : Call τ α α := do
  let t ← held
  let (x, t) ← produce g t i
  hold t
  pure x

/-- Writes the values of a function into `n` cells, the first of them cell `k`. -/
def fillBy (g : τ → Int64 → α × τ) (start : Int64) :
    Nat → Nat → Slots (Cell α) → Call τ α (Slots (Cell α))
  | 0, _, cells => pure cells
  | n + 1, k, cells => do
    let x ← ask g (start + Int64.ofNat k)
    let cells ← Buffer.write cells k (Slots.single x).cells
    fillBy g start n (k + 1) cells

/-- The array of the values of a function, written one after the other. The call holds the memory of
the function, so that it is there whatever comes of the call. -/
def madeBy (lower upper : Int64) (g : τ → Int64 → α × τ) : Call τ α (Anchored α) := do
  let draft ← during .ofFn (allocate lower upper)
  let slots ← fillBy g lower draft.length 0 draft.slots
  finish { draft with slots }

lemma ask_bind {ρ : Type} (i : Int64) (next : α → Call τ α ρ) (f : Frame τ α) :
    (ask g i >>= next) supply f
      = next (g f.held i).1 supply
          (Frame.receiving { f with held := (g f.held i).2 } (.single (g f.held i).1)) := rfl

/-- Cells that are written one after the other hold the values visited. -/
lemma fillBy_apply (supply : Supply) (start : Int64) {cells : Slots (Cell α)}
    {front old : List (Cell α)} (hcells : cells.toList = front ++ old) (f : Frame τ α) :
    fillBy g start old.length front.length cells supply f
      = (.ok (.ofList (front
            ++ (values g start old.length front.length f.held).1.map Cell.written)),
          Frame.receiving { f with held := (values g start old.length front.length f.held).2 }
            (.ofList (values g start old.length front.length f.held).1.reverse)) := by
  induction old generalizing front cells f with
  | nil =>
    have hsame : cells = .ofList (front ++ []) := Slots.eq_ofList hcells
    rw [hsame]
    simp [fillBy, values, pure_apply]
  | cons c old ih =>
    have hgap : cells.toList = front ++ [c] ++ old := by simpa using hcells
    have hone : ∀ x : α, (Slots.single x).cells.length = [c].length := fun x => by
      rw [← Slots.length_toList, Slots.toList_cells, List.length_map, Slots.length_toList]
      exact Slots.length_single x
    rw [List.length_cons, fillBy, ask_bind, Buffer.write_gap hgap (hone _), pure_bind,
      Slots.toList_cells, Slots.toList_single]
    rcases hcall : g f.held (start + Int64.ofNat front.length) with ⟨x, t⟩
    have hnext := ih (Slots.toList_ofList (front ++ [Cell.written x] ++ old))
      (Frame.receiving { f with held := t } (.single x))
    rw [List.length_append, List.length_singleton] at hnext
    rw [List.map_singleton, hnext]
    simp only [values, hcall, List.map_cons, List.append_assoc, List.singleton_append]
    have hreceived := Frame.receiving_receiving
      (f := { f with held := (values g start old.length (front.length + 1) t).2 }) (.single x)
      (.ofList (values g start old.length (front.length + 1) t).1.reverse)
    rw [ofList_reverse_append] at hreceived
    exact congrArg _ hreceived

/-- Cells of a draft that are written one after the other make an array of the values visited. -/
lemma fillBy_finish {d : Draft α} (h : d.WellFormed) (supply : Supply) (f : Frame τ α) :
    (do
        let slots ← fillBy g d.lower d.length 0 d.slots
        finish { d with slots } : Call τ α (Anchored α)) supply f
      = (.ok (laid d.lower (values g d.lower d.length 0 f.held).1),
          Frame.receiving { f with held := (values g d.lower d.length 0 f.held).2 }
            (.ofList (values g d.lower d.length 0 f.held).1.reverse)) := by
  have hcells : d.slots.toList = [] ++ d.toList := rfl
  have hfill := fillBy_apply (g := g) supply d.lower hcells f
  rw [List.length_nil, List.nil_append, ← h.length_eq'] at hfill
  have hlength : (values g d.lower d.length 0 f.held).1.length = d.toList.length := by
    rw [length_values, h.length_eq']
  rw [bind_apply, hfill]
  dsimp only
  rw [(finish_with_slots h (Slots.toList_ofList _) hlength).1, pure_apply]

/-- Whether a draft can be allocated has nothing to do with the value held. -/
lemma allocate_uniform (supply : Supply) (lower upper : Int64) (copies : Option Nat)
    (t : Tally α) :
    ∃ t', (∃ d : Draft α, (d.WellFormed ∧ d.lower = lower ∧ d.upper = upper)
          ∧ ∀ (σ : Type) (a : σ), (allocate lower upper : Call σ α (Draft α)) supply ⟨a, copies, t⟩
            = (.ok d, ⟨a, copies, t'⟩))
        ∨ ∃ reason, ∀ (σ : Type) (a : σ),
          (allocate lower upper : Call σ α (Draft α)) supply ⟨a, copies, t⟩
            = (.error (.failure ⟨.allocate, reason⟩), ⟨a, copies, t'⟩) := by
  obtain ⟨u, hu⟩ : ∃ u : Tally α, u = (Frame.leaving (⟨(), copies, t⟩ : Frame Unit α)
    (.trace .allocate [.position lower, .position upper])).tally := ⟨_, rfl⟩
  have htrace : ∀ (σ : Type) (a : σ) (next : Unit → Call σ α (Draft α)),
      (trace .allocate [.position lower, .position upper] >>= next) supply ⟨a, copies, t⟩
        = next () supply ⟨a, copies, u⟩ := fun _ _ _ => hu ▸ rfl
  simp only [allocate_eq, htrace]
  cases hn : allocation α lower upper with
  | error reason =>
    let refused := Frame.leaving (⟨(), copies, u⟩ : Frame Unit α) (.debug ⟨.allocate, reason⟩)
    exact ⟨refused.tally, .inr ⟨reason, fun _ _ => rfl⟩⟩
  | ok n =>
    obtain ⟨hwell, hupper⟩ := allocation_laid hn
    obtain ⟨t', hgranted | hrefused⟩ := obtain_uniform supply .allocate n copies u
    · refine ⟨t', .inl ⟨_, ⟨hwell, rfl, hupper⟩, fun σ a => ?_⟩⟩
      rw [checked_ok, pure_bind, bind_apply, hgranted σ a]
      rfl
    · refine ⟨t', .inr ⟨.noMemory, fun σ a => ?_⟩⟩
      rw [checked_ok, pure_bind, bind_apply, hrefused σ a]

/-- **Making an array by a function** is writing its values one after the other: the memory that is
left in the end is the one that is held. -/
lemma ofFn_eq_madeBy (supply : Supply) (lower upper : Int64) (g : τ → Int64 → α × τ) (t : τ)
    (f : Frame σ α) :
    ofFn lower upper g t supply f = (do
      let (out, t) ← on t (madeBy lower upper g)
      match out with
      | .ok a => pure (a, t)
      | .error h => halt h) supply f := by
  obtain ⟨held, copies, tally⟩ := f
  obtain ⟨tally', ⟨d, ⟨hwell, rfl, -⟩, hok⟩ | ⟨reason, hfailed⟩⟩ :=
    allocate_uniform supply lower upper copies tally
  · have hvalues := (finish_values supply ⟨held, copies, tally'⟩ hwell g t).1
    have hfill := fillBy_finish (g := g) hwell supply ⟨t, copies, tally'⟩
    rw [ofFn, madeBy, bind_apply, during, hok σ held]
    dsimp only at hvalues hfill ⊢
    rw [hvalues, bind_apply, on, bind_apply, during, hok τ t]
    dsimp only
    rw [hfill, hwell.length_eq']
    rfl
  · rw [ofFn, madeBy, bind_apply, during, hfailed σ held, bind_apply, on, bind_apply, during,
      hfailed τ t]
    rfl

/-! ### Every position once -/

variable {n : Nat} {items : List α} {log : List (Int64 × α)}

/-- The positions of slots that found a place do not wrap. -/
lemma toInt_add_ofNat (h : Room α lower n) {j : Nat} (hj : j < n) :
    (lower + Int64.ofNat j).toInt = lower.toInt + j := by
  have hends := h.ends
  have hfits := Nat.le_trans h.fits (maxLength_le α)
  have hl := lower.le_toInt
  rw [Position.byteLimit] at hfits
  rw [Position.toInt_greatest] at hends
  rw [Int64.toInt_add, Int64.toInt_ofNat_of_lt (by omega)]
  exact Int.bmod_eq_of_le (by omega) (by omega)

/-- The positions that are visited are all those from the lower bound on, in ascending order. -/
lemma toInt_visited (h : Room α lower n) :
    (visited lower 0 n).map Int64.toInt = Int.range lower.toInt (lower.toInt + n) := by
  have hn : (lower.toInt + n - lower.toInt).toNat = n := by omega
  rw [visited, List.map_map, Int.range, hn, List.range_eq_range']
  refine List.map_congr_left fun j hj => ?_
  exact toInt_add_ofNat h ((List.mem_range'_1.1 hj).2.trans_eq (Nat.zero_add n))

/-- An element that was the value of a call is at the position that the call was made for. -/
lemma get?_of_mem_log (h : Room α lower items.length)
    (hpositions : log.map Prod.fst = visited lower 0 items.length)
    (hvalues : log.map Prod.snd = items) {c : Int64 × α} (hc : c ∈ log) :
    (laid lower items).get? c.1 = some c.2 := by
  obtain ⟨j, hj⟩ := List.mem_iff_getElem?.1 hc
  have hvalue : items[j]? = some c.2 := by
    rw [← hvalues, List.getElem?_map, hj]
    rfl
  obtain ⟨hlt, -⟩ := List.getElem?_eq_some_iff.1 hvalue
  have hposition : c.1 = lower + Int64.ofNat j := by
    have hat : (log.map Prod.fst)[j]? = some c.1 := by
      rw [List.getElem?_map, hj]
      rfl
    rw [hpositions, visited, List.getElem?_map, List.getElem?_range' hlt] at hat
    simpa using hat.symm
  have hint := toInt_add_ofNat h hlt
  have hslot : slotOf lower c.1 = j := by
    rw [slotOf, hposition, hint]
    omega
  rw [h.wellFormed.get?_eq, laid_lower, laid_toList, hslot, hvalue, if_pos]
  rw [hposition, hint]
  omega

/-- What is promised of an array that a function with the memory `t` makes over some bounds, where
`draft` is what comes of allocating over them, and `t'` is the memory that is left. If there is a
draft, the function is called once for each position, in ascending order, and the array has these
bounds and holds the value of each call at its position. Otherwise the function is not called, and
the failure is the same but for the operation that reports it. -/
def Visits (g : τ → Int64 → α × τ) (t t' : τ) (lower upper : Int64)
    (draft : Except Halt (Draft α)) (out : Except Halt (Anchored α)) : Prop :=
  ∃ log, Calls g t log t' ∧
    match draft with
    | .ok _ => (log.length : Int) = upper.toInt - lower.toInt + 1
      ∧ log.map (fun c => c.1.toInt) = Int.range lower.toInt (upper.toInt + 1)
      ∧ ∃ a, out = .ok a ∧ a.WellFormed ∧ a.lower = lower ∧ a.upper = upper
        ∧ ∀ c ∈ log, a.get? c.1 = some c.2
    | .error h => log = [] ∧ ∃ e, h = .failure e
      ∧ out = .error (.failure { e with operation := .ofFn })

/-- Making an array keeps the promise, beside any value at which the draft is allocated. -/
lemma madeBy_visits (lower upper : Int64) (g : τ → Int64 → α × τ) (t : τ) (supply : Supply)
    (held : σ) :
    Visits g t ((madeBy lower upper g).run supply t).2.held lower upper
      ((allocate lower upper : Call σ α (Draft α)).run supply held).1
      ((madeBy lower upper g).run supply t).1 := by
  obtain ⟨tally, ⟨d, ⟨hwell, rfl, rfl⟩, hok⟩ | ⟨reason, hfailed⟩⟩ :=
    allocate_uniform (α := α) supply lower upper supply.copies .blank
  · obtain ⟨log, hcalls, hpositions, hvalues⟩ := visit_calls g d.lower d.length 0 t
    obtain ⟨items, hitems⟩ : ∃ items, items = (values g d.lower d.length 0 t).1 := ⟨_, rfl⟩
    have hlength : items.length = d.toList.length := by
      rw [hitems, length_values, hwell.length_eq']
    have hroom : Room α d.lower items.length := by
      rw [hlength]
      exact (finish_values supply ⟨held, none, .blank⟩ hwell g t).2
    have hupper := hwell.toInt_upper
    rw [← hlength] at hupper
    rw [hwell.length_eq', ← hlength] at hpositions
    have hcount : log.length = items.length := by
      rw [hitems, ← hvalues, List.length_map]
    have hrange : log.map (fun c => c.1.toInt)
        = Int.range d.lower.toInt (d.upper.toInt + 1) := by
      have hend : d.upper.toInt + 1 = d.lower.toInt + items.length := by omega
      rw [hend, ← toInt_visited hroom, ← hpositions, List.map_map]
      rfl
    rw [Call.run, Call.run, madeBy, bind_apply, during, hok τ t, hok σ held]
    dsimp only
    rw [fillBy_finish hwell, ← hitems]
    refine ⟨log, hcalls, by omega, hrange, _, rfl, hroom.wellFormed, rfl, ?_, fun c hc =>
      get?_of_mem_log hroom hpositions (hvalues.trans hitems.symm) hc⟩
    exact Int64.toInt_inj.1 (hroom.toInt_upper.trans hupper.symm)
  · rw [Call.run, Call.run, madeBy, bind_apply, during, hfailed τ t, hfailed σ held]
    exact ⟨[], .none t, rfl, _, rfl, rfl⟩

/-- **Every position is visited once.** Making an array over any bounds, by any function and on any
supply, is writing the values of its calls one after the other. If a draft can be allocated over the
bounds, the function is called once for each position from the lower to the upper one, in ascending
order and without a wrap-around; the array has these bounds, and at each position the value of the
call for it. Otherwise the function is not called, and the failure is that of the allocation under
the name of this operation. -/
theorem positions_visited (lower upper : Int64) (g : τ → Int64 → α × τ) (t : τ)
    (supply : Supply) (held : σ) :
    let run := (madeBy lower upper g).run supply t
    ((ofFn lower upper g t).run supply held).1 = run.1.map (fun a => (a, run.2.held))
      ∧ Visits g t run.2.held lower upper
        ((allocate lower upper : Call σ α (Draft α)).run supply held).1 run.1 := by
  refine ⟨?_, madeBy_visits lower upper g t supply held⟩
  rw [Call.run, ofFn_eq_madeBy, bind_apply, on, Call.run]
  rcases madeBy lower upper g supply ⟨t, supply.copies, .blank⟩ with ⟨e | a, f⟩
  · rfl
  · rfl

end AnchoredArrays.Anchored
