import AnchoredArrays.Proofs.Anchored.Copies
import AnchoredArrays.Proofs.Anchored.Drafts
import AnchoredArrays.Proofs.Anchored.Filling

/-!
Making arrays. Whatever an array is made of, it is well-formed, has the bounds that were asked for
and holds the given elements in order; nothing else is touched.

* `ofList_eq`, `singletonAt_allOrNothing`, `pair_allOrNothing`: given elements;
* `ofFn_allOrNothing`: the values of a function;
* `replicate_allOrNothing`: one element repeated;
* `reanchor_eq`: **the same elements at another anchor**, by a plan that asks for nothing.
-/

namespace AnchoredArrays.Anchored

open Element Call Draft

variable {α σ τ : Type} [Element α] {supply : Supply} {lower upper : Int64} {f : Frame σ α}

/-- An empty array is made, where it has an upper bound. -/
lemma empty_allOrNothing (lower : Int64) :
    AllOrNothing (empty lower : Call σ α (Anchored α))
      (fun a s => a.WellFormed ∧ s = f.held) supply f :=
  emptyFor_allOrNothing lower

/-- The plan for an array of given elements beside a value that is held. -/
def placing (held : σ) (lower : Int64) (items : List α) : Except Reason (Plan σ (Anchored α)) :=
  if items.length = 0 ∧ lower = Position.least then .error .noEmptyAnchor
  else if maxLength α < items.length
      ∨ Position.greatest.toInt < lower.toInt + items.length - 1 then .error .noMemory
  else .ok ⟨[items.length], held, laid lower items⟩

/-- Elements that are placed find a place. -/
lemma placing_room {held : σ} {items : List α} {p : Plan σ (Anchored α)}
    (hp : placing held lower items = .ok p) :
    Room α lower items.length ∧ p = ⟨[items.length], held, laid lower items⟩ := by
  rw [placing] at hp
  split_ifs at hp with hnone hlong
  cases hp
  obtain ⟨hfits, hends⟩ := not_or.1 hlong
  exact ⟨⟨Nat.not_lt.1 hfits, Int.not_lt.1 hends, fun hz hlower => hnone ⟨hz, hlower⟩⟩, rfl⟩

/-- **An array of given elements** carries out the plan for it, and drops them if there is none. -/
lemma ofList_eq (lower : Int64) (items : List α) :
    ofList lower items supply f
      = given (.ofList items) (carryOut .ofList (placing f.held lower items)) supply f := by
  rw [ofList]
  simp only [exceeds_eq, pure_bind, decide_eq_true_eq]
  apply given_congr
  have hg := lower.toInt_lt
  rw [placing]
  by_cases hnone : items.length = 0
  · have hshort : ¬ (maxLength α < items.length
        ∨ Position.greatest.toInt < lower.toInt + items.length - 1) := by
      rw [hnone, Position.toInt_greatest]
      omega
    rw [if_pos hnone, emptyFor_eq]
    by_cases hlower : lower = Position.least
    · rw [if_pos hlower, if_pos ⟨hnone, hlower⟩]
      rfl
    · rw [if_neg hlower, if_neg fun h => hlower h.2, if_neg hshort, carryOut_cons, hnone,
        obtain_zero, List.eq_nil_of_length_eq_zero hnone]
      rfl
  · have hne := fun h : items.length = 0 ∧ lower = Position.least => hnone h.1
    rw [if_neg hnone, if_neg hne]
    by_cases hlong : maxLength α < items.length
        ∨ Position.greatest.toInt < lower.toInt + items.length - 1
    · rw [if_pos hlong, if_pos hlong]
      rfl
    · have hplan : placing f.held lower items = .ok ⟨[items.length], f.held, laid lower items⟩ := by
        rw [placing, if_neg hne, if_neg hlong]
      rw [if_neg hlong, if_neg hlong, carryOut_cons]
      refine obtain_bind_congr fun g hheld => ?_
      rw [(placing_room hplan).1.maxOf, pure_bind, ← hheld]
      rfl

/-- The elements of a list are the elements of the array. -/
lemma ofList_allOrNothing (lower : Int64) (items : List α) :
    AllOrNothing (ofList lower items)
      (fun a s => (a = laid lower items ∧ a.WellFormed) ∧ s = f.held) supply f := by
  refine .of_eq (ofList_eq lower items) (.given (carryOut_allOrNothing _ fun p hp => ?_) _)
  obtain ⟨hroom, rfl⟩ := placing_room hp
  exact ⟨⟨rfl, hroom.wellFormed⟩, rfl⟩

/-- One element at a position. -/
lemma singletonAt_allOrNothing (start : Int64) (x : α) :
    AllOrNothing (singletonAt start x)
      (fun a s => (a = laid start [x] ∧ a.WellFormed) ∧ s = f.held) supply f := by
  refine .given (.bind (.obtain .singleton 1) fun _ g hfits hg => .pure ⟨?_, hg⟩) _
  have hg' := start.toInt_lt
  have hroom : Room α start [x].length :=
    ⟨hfits, by rw [Position.toInt_greatest, List.length_singleton]; omega, fun hz => nomatch hz⟩
  have hlaid : (⟨start, start, .single x⟩ : Anchored α) = laid start [x] :=
    hroom.mk_eq_laid (by rw [List.length_singleton]; omega)
  rw [hlaid]
  exact ⟨rfl, hroom.wellFormed⟩

/-- Two elements at positions 1 and 2. -/
lemma pair_allOrNothing (x y : α) :
    AllOrNothing (pair x y)
      (fun a s => (a = laid 1 [x, y] ∧ a.WellFormed) ∧ s = f.held) supply f := by
  refine .given (.bind (.obtain .pair 2) fun _ g hfits hg => .pure ⟨?_, hg⟩) _
  have hends : (1 : Int) + (2 : Nat) - 1 ≤ 0x7fffffffffffffff := by decide
  have hroom : Room α 1 [x, y].length := ⟨hfits, hends, fun hz => nomatch hz⟩
  have hlaid : (⟨1, 2, .ofList [x, y]⟩ : Anchored α) = laid 1 [x, y] := hroom.mk_eq_laid rfl
  rw [hlaid]
  exact ⟨rfl, hroom.wellFormed⟩

/-! ### Arrays made of drafts -/

/-- The values of a function at `n` positions, the first of them `k` behind `start`, and what its
calls leave behind. -/
def values {β : Type} (g : τ → Int64 → β × τ) (start : Int64) : Nat → Nat → τ → List β × τ
  | 0, _, t => ([], t)
  | n + 1, k, t =>
    let (x, t) := g t (start + Int64.ofNat k)
    let (rest, t) := values g start n (k + 1) t
    (x :: rest, t)

/-- There are as many values as positions. -/
lemma length_values {β : Type} (g : τ → Int64 → β × τ) (start : Int64) (n k : Nat) (t : τ) :
    (values g start n k t).1.length = n := by
  induction n generalizing k t with
  | zero => rfl
  | succ n ih =>
    rw [values]
    exact congrArg Nat.succ (ih ..)

/-- The first of some elements comes after the others in reverse. -/
lemma ofList_reverse_append (x : α) (items : List α) :
    Slots.ofList items.reverse ++ Slots.single x = Slots.ofList (x :: items).reverse :=
  Slots.ext (by simp)

/-- The values of the calls come into being one after the other, the latest first in the tally. -/
lemma visit_eq (g : τ → Int64 → α × τ) (start : Int64) (n k : Nat) (t : τ) :
    visit g start n k t supply f
      = (.ok (values g start n k t),
          f.receiving (.ofList (values g start n k t).1.reverse)) := by
  induction n generalizing k t f with
  | zero => exact congrArg (Prod.mk _) Frame.receiving_nil.symm
  | succ n ih =>
    rcases hcall : g t (start + Int64.ofNat k) with ⟨x, t'⟩
    rw [visit, produce_bind, hcall]
    dsimp only
    rw [bind_apply, ih]
    simp only [values, hcall, pure_apply, Frame.receiving_receiving, ofList_reverse_append]

/-- A draft whose cells are replaced by written ones is finished. -/
lemma finish_with_slots {d : Draft α} (h : d.WellFormed) {slots : Slots (Cell α)} {items : List α}
    (hslots : slots.toList = items.map Cell.written) (hlength : items.length = d.toList.length) :
    (finish { d with slots } : Call σ α (Anchored α)) = pure (laid d.lower items)
      ∧ Room α d.lower items.length := by
  have hfilled : Filled ({ d with slots } : Draft α) items :=
    ⟨h.with_slots (by rw [hslots, List.length_map, hlength]), hslots⟩
  exact ⟨hfilled.finish_eq, hfilled.room⟩

/-- Writing the values of a function into a draft and finishing it goes through. -/
lemma finish_values (supply : Supply) (f : Frame σ α) {d : Draft α} (h : d.WellFormed)
    (g : τ → Int64 → α × τ) (t : τ) :
    (do
        let (values, t) ← visit g d.lower d.length 0 t
        let slots ← Buffer.write d.slots 0 (Slots.ofList values).cells
        let a ← finish { d with slots }
        pure (a, t) : Call σ α (Anchored α × τ)) supply f
      = (.ok (laid d.lower (values g d.lower d.toList.length 0 t).1,
            (values g d.lower d.toList.length 0 t).2),
          f.receiving (.ofList (values g d.lower d.toList.length 0 t).1.reverse))
      ∧ Room α d.lower d.toList.length := by
  rw [h.length_eq', bind_apply, visit_eq]
  obtain ⟨items, hitems⟩ : ∃ items, items = (values g d.lower d.toList.length 0 t).1 := ⟨_, rfl⟩
  have hlength : items.length = d.toList.length := by rw [hitems, length_values]
  have hcells : (Slots.ofList items).cells.length = d.toList.length := by
    rw [← Slots.length_toList, Slots.toList_cells, Slots.toList_ofList, List.length_map, hlength]
  have hwrite : (Buffer.write d.slots 0 (Slots.ofList items).cells : Call σ α (Slots (Cell α)))
      = pure (.ofList (items.map Cell.written)) := by
    have hall : d.slots.toList = [] ++ d.toList ++ [] := (List.append_nil _).symm
    have hgap := Buffer.write_gap (σ := σ) (α := α) hall hcells
    rw [List.nil_append, List.append_nil, Slots.toList_cells, Slots.toList_ofList] at hgap
    exact hgap
  obtain ⟨hfinish, hroom⟩ :=
    finish_with_slots (σ := σ) h (Slots.toList_ofList (items.map Cell.written)) hlength
  dsimp only
  rw [← hitems, hwrite, pure_bind, hfinish, pure_bind]
  exact ⟨rfl, hlength ▸ hroom⟩

/-- The values of a function, called for one position after the other. -/
lemma ofFn_allOrNothing (lower upper : Int64) (g : τ → Int64 → α × τ) (t : τ) :
    AllOrNothing (ofFn lower upper g t)
      (fun r s => (r.1.WellFormed ∧ r.1.lower = lower
        ∧ (r.1.toList, r.2) = values g lower r.1.toList.length 0 t) ∧ s = f.held) supply f := by
  refine .bind (.during (allocate_allOrNothing lower upper) .ofFn) ?_
  intro d f' hd hf'
  obtain ⟨hwell, rfl, -, -⟩ := hd
  obtain ⟨hvalues, hroom⟩ := finish_values supply f' hwell g t
  have hlength := length_values g d.lower d.toList.length 0 t
  refine .of_ok hvalues ⟨⟨Room.wellFormed (hlength.symm ▸ hroom), rfl, ?_⟩, hf'⟩
  rw [laid_toList, hlength]

/-- Finishing a draft that was filled with one element goes through. -/
lemma finish_repeated {d : Draft α} (h : d.WellFormed) {x : α} {cells : Array (Cell α)}
    (hcells : cells.toList = (if d.slots.toList.toArray.size = 0 then []
      else List.replicate (d.slots.toList.toArray.size - 1) (Element.copy x) ++ [x]).map
        Cell.written) :
    ∃ items, items = (if items.length = 0 then []
        else List.replicate (items.length - 1) (Element.copy x) ++ [x])
      ∧ cells.toList = items.map Cell.written ∧ Room α d.lower items.length
      ∧ (finish { d with slots := .ofList cells.toList } : Call σ α (Anchored α))
        = pure (laid d.lower items) := by
  have hsize : d.slots.toList.toArray.size = d.toList.length := List.size_toArray
  rw [hsize] at hcells
  obtain ⟨items, hitems⟩ : ∃ items, items = if d.toList.length = 0 then []
    else List.replicate (d.toList.length - 1) (Element.copy x) ++ [x] := ⟨_, rfl⟩
  have hlength : items.length = d.toList.length := by
    rw [hitems]
    split_ifs with hnone
    · exact hnone.symm
    · rw [List.length_append, List.length_replicate, List.length_singleton]
      omega
  rw [← hitems] at hcells
  have hslots : (Slots.ofList cells.toList).toList = items.map Cell.written := by
    rw [Slots.toList_ofList, hcells]
  obtain ⟨hfinish, hroom⟩ := finish_with_slots (σ := σ) h hslots hlength
  rw [← hlength] at hitems
  exact ⟨items, hitems, hcells, hroom, hfinish⟩

/-- One element in every slot: its copies and, in the last slot, the element itself. -/
lemma replicate_allOrNothing (lower upper : Int64) (x : α) :
    AllOrNothing (replicate lower upper x)
      (fun a s => (a.WellFormed ∧ a.lower = lower
        ∧ a.toList = if a.toList.length = 0 then []
          else List.replicate (a.toList.length - 1) (Element.copy x) ++ [x]) ∧ s = f.held)
      supply f := by
  refine .trace (.bind (.given (.during (allocate_allOrNothing lower upper) .replicate) _) ?_)
  intro d f' hd hf'
  obtain ⟨hwell, rfl, -, -⟩ := hd
  refine .bind (Fill.repeatedly_allOrNothing x d.slots.toList.toArray f') ?_
  intro cells g hcells hg
  obtain ⟨items, hitems, -, hroom, hfinish⟩ := finish_repeated (σ := σ) hwell hcells
  rw [hfinish]
  exact .pure ⟨⟨hroom.wellFormed, rfl, by rwa [laid_toList]⟩, hg.trans hf'⟩

/-! ### Another anchor -/

/-- The plan for moving the elements to another anchor: nothing is asked for. -/
def reanchoring (a : Anchored α) (start : Int64) : Except Reason (Plan (Anchored α) Unit) :=
  if (a.toList.length ≠ 0 ∧ Position.greatest.toInt < start.toInt + a.toList.length - 1)
      ∨ (a.toList.length = 0 ∧ start = Position.least) then .error .noSuchAnchor
  else .ok ⟨[], laid start a.toList, ()⟩

/-- The check of another anchor. -/
lemma misplaced_eq (start : Int64) {n : Nat} (hn : n ≤ maxLength α) :
    (misplaced start n : Call σ α Bool)
      = pure (decide ((n ≠ 0 ∧ Position.greatest.toInt < start.toInt + n - 1)
          ∨ (n = 0 ∧ start = Position.least))) := by
  rw [misplaced]
  by_cases hnone : n = 0
  · simp [hnone]
  · rw [if_neg hnone, overruns_of_lt start (lt_word_of_le hn)]
    simp [hnone]

/-- Elements that are moved to another anchor find a place there. -/
lemma reanchoring_room {a : Anchored α} (h : a.WellFormed) {start : Int64}
    {p : Plan (Anchored α) Unit} (hp : reanchoring a start = .ok p) :
    Room α start a.toList.length ∧ p = ⟨[], laid start a.toList, ()⟩ := by
  rw [reanchoring] at hp
  split_ifs at hp with hnowhere
  cases hp
  obtain ⟨hpast, hleast⟩ := not_or.1 hnowhere
  have hg := start.toInt_lt
  refine ⟨⟨h.room.fits, ?_, fun hnone hstart => hleast ⟨hnone, hstart⟩⟩, rfl⟩
  by_cases hnone : a.toList.length = 0
  · rw [hnone, Position.toInt_greatest]
    omega
  · exact Int.not_lt.1 fun hlt => hpast ⟨hnone, hlt⟩

/-- **Moving the elements to another anchor** carries out the plan for it. -/
lemma reanchor_eq {f : Frame (Anchored α) α} (h : f.held.WellFormed) (start : Int64) :
    reanchor start supply f = (do
      trace .reanchor [f.held.bounds, .position start]
      carryOut .reanchor (reanchoring f.held start)) supply f := by
  have hplan : ∀ p, reanchoring f.held start = .ok p → _ := fun _ => reanchoring_room h
  have hslots : f.held.slots = .ofList f.held.toList := Slots.eq_ofList rfl
  rw [reanchor, held_bind, trace_bind, trace_bind, h.length_eq', misplaced_eq start h.room.fits,
    pure_bind]
  simp only [decide_eq_true_eq]
  rw [reanchoring] at hplan ⊢
  split_ifs at hplan ⊢ with hnowhere
  · rfl
  · rw [(hplan _ rfl).1.maxOf, pure_bind, laid, ← hslots]
    rfl

/-- Elements that are moved to another anchor are the same ones in the same order. -/
lemma reanchor_allOrNothing (start : Int64) {f : Frame (Anchored α) α} (h : f.held.WellFormed) :
    AllOrNothing (reanchor start)
      (fun _ a => a = laid start f.held.toList ∧ a.WellFormed) supply f := by
  refine .of_eq (reanchor_eq h start) (.trace (carryOut_allOrNothing _ fun p hp => ?_))
  obtain ⟨hroom, rfl⟩ := reanchoring_room (a := f.held) h hp
  exact ⟨rfl, hroom.wellFormed⟩

end AnchoredArrays.Anchored
