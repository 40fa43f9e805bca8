import AnchoredArrays.Proofs.Anchored.Demands
import AnchoredArrays.Proofs.Slices.Moved

/-!
The requests of every operation. An operation either fails at its checks, before any request, or its
demand says how many buffers it needs and how long they are; then it asks for those with bytes, one
after the other, and fails exactly if one is refused.

* `Selection.copyDemand`, `Selection.moveDemand`: the demands of slices;
* `Selection.copied_asks`, `Selection.moved_asks`: **a slice asks** for what its demand says;
* `Accounted`, `requests_accounted`: **every operation** but the copy of an array accounts for its
  requests.
-/

namespace AnchoredArrays.Session

open Element Anchored Call

variable {α σ : Type} [Element α] {supply : Supply} {a b : Anchored α} {operation : Operation}

/-! ### Slices -/

/-- The demand of a copying slice: one buffer for the elements that it selects. -/
def Selection.copyDemand (a : Anchored α) (selection : Selection) : Except Reason (List Nat) :=
  (selection.target a).map fun t => [(a.between t.first t.last).length]

/-- The buffers for a proper part of `n` elements and for the others. What is behind a head moves
out, and what is in front of everything else stays; what stays comes last. -/
def Selection.splitting (a : Anchored α) (n : Nat) : Selection → List Nat
  | .head _ => [a.toList.length - n, n]
  | _ => [n, a.toList.length - n]

/-- The demand of a moving slice: two buffers for a proper part, and none if nothing or everything
is selected. -/
def Selection.moveDemand (a : Anchored α) (selection : Selection) : Except Reason (List Nat) :=
  (selection.target a).map fun t =>
    let n := (a.between t.first t.last).length
    if n = 0 ∨ n = a.toList.length then [] else selection.splitting a n

/-- A part that is placed is as long as what is selected. -/
lemma Placed.length_between {p : Part} {t : Target} (h : Placed a p t) :
    (a.between t.first t.last).length = p.count := by
  rw [h.selected, h.within.length_elements]

/-- A buffer without slots is not asked for. -/
lemma asks_zero {ρ : Type} {earlier : List Request} {buffers : List Nat}
    {out : Except Halt ρ × Frame σ α} (h : Asks supply operation (.ok buffers) earlier out) :
    Asks supply operation (.ok (0 :: buffers)) earlier out := by
  rw [Asks, List.map_cons, Nat.zero_mul, Supply.answers, if_pos rfl]
  exact h

/-- A copying slice asks for a buffer for what it selects. -/
lemma Selection.copied_asks (h : a.WellFormed) (selection : Selection) (f : Frame σ α) :
    Asks supply selection.copyOperation (selection.copyDemand a) f.tally.requests
      (selection.copied a supply f) := by
  rw [copied_eq h, copyDemand, trace_bind]
  have hreaches := selection.part_reaches h
  generalize selection.part a = part at *
  generalize selection.target a = target at *
  cases hreaches with
  | refused reason => exact ⟨rfl, rfl⟩
  | @unplaced p hnone hleast =>
    rw [checked_ok, pure_bind, copyPart, if_pos hnone, emptyFor_eq, if_pos hleast]
    exact ⟨rfl, rfl⟩
  | @placed p t hplaced =>
    rw [checked_ok, pure_bind, copyPart, Except.map, hplaced.length_between]
    split_ifs with hnone
    · have hplace := hplaced.room.starts hnone
      rw [hplaced.anchor_empty hnone] at hplace
      rw [hnone, emptyFor_eq, if_neg hplace]
      exact asks_zero (.of_quiet (f := f.leaving _) (.pure _))
    · rw [copySlots_eq hplaced.within.le (hplaced.within.room hnone)]
      exact .cons (f := f.leaving _) (hplaced.within.room hnone).fits
        (.of_quiet (.bind (.copyAll _) fun _ _ => .pure _))

/-- The buffers of a plan that moves the part that a slice settles on. -/
lemma moving_buffers {part : Except Reason Part} {target : Except Reason Target}
    (hreaches : Reaches a part target) (buffers : Nat → List Nat) (kept : Int64) :
    (part >>= fun p => moving a p (buffers p.count) kept).map Plan.buffers
      = target.map fun t =>
          let n := (a.between t.first t.last).length
          if n = 0 ∨ n = a.toList.length then [] else buffers n := by
  cases hreaches with
  | refused reason => rfl
  | @unplaced p hnone hleast =>
    change (moving a p (buffers p.count) kept).map Plan.buffers = _
    rw [moving, if_pos hnone, if_pos hleast]
    rfl
  | @placed p t hplaced =>
    change (moving a p (buffers p.count) kept).map Plan.buffers = _
    rw [moving, Except.map, hplaced.length_between]
    by_cases hnone : p.count = 0
    · have hplace := hplaced.room.starts hnone
      rw [hplaced.anchor_empty hnone] at hplace
      rw [if_pos hnone, if_neg hplace, if_pos (.inl hnone)]
      rfl
    rw [if_neg hnone]
    dsimp only
    split_ifs with hall hpart hpart
    · rfl
    · exact absurd (.inr hall) hpart
    · exact absurd (hpart.resolve_left hnone) hall
    · rfl

/-- The buffers of the plan of a moving slice. -/
lemma Selection.movePlan_buffers (h : a.WellFormed) (selection : Selection) :
    (selection.movePlan a).map Plan.buffers = selection.moveDemand a := by
  cases selection with
  | head stop =>
    exact moving_buffers (headPart_reaches h stop) (fun n => [a.toList.length - n, n]) _
  | tail start =>
    change (tailMove a start).map Plan.buffers = _
    rw [tailMove]
    split_ifs with hall
    · obtain rfl := Int64.toInt_inj.1 hall
      obtain ⟨htarget, hitems⟩ := target_whole h
      rw [moveDemand, htarget]
      simp only [Except.map, hitems, or_true, if_true]
    · exact moving_buffers (tailPart_reaches h start) (fun n => [n, a.toList.length - n]) _
  | range start stop =>
    exact moving_buffers (rangePart_reaches h start stop) (fun n => [n, a.toList.length - n]) _
  | run start n =>
    exact moving_buffers (runPart_reaches h start n) (fun n => [n, a.toList.length - n]) _

/-- A moving slice asks for a buffer for a proper part, and for one for the others. -/
lemma Selection.moved_asks (h : a.WellFormed) (selection : Selection)
    {f : Frame (Option (Anchored α)) α} (hslot : f.held = some a) :
    Asks supply selection.moveOperation (selection.moveDemand a) f.tally.requests
      (selection.moved supply f) := by
  rw [moved_eq hslot h, trace_bind, ← movePlan_buffers h]
  refine carryOut_asks (f := f.leaving _) _ fun p hp n hn => ?_
  have hparting := selection.movePlan_parting h
  cases htarget : selection.target a with
  | error reason =>
    rw [htarget, hp] at hparting
    exact nomatch hparting.1
  | ok t =>
    rw [htarget, hp] at hparting
    obtain ⟨q, hq, hbuffers, -⟩ := hparting
    cases hq
    exact Nat.le_trans (hbuffers n hn) h.room.fits

/-! ### All operations -/

/-- The requests of all operations but the copy of an array: for calls from a blank tally on `a`, on
both arrays, or beside some value that is held. What is written into a draft, read, replaced, sorted
or taken out asks for nothing, under whatever label. -/
structure Accounted (supply : Supply) (a b : Anchored α) (held : σ) : Prop where
  empty : ∀ lower, Accounts supply .empty
    (if lower = Position.least then .error .noEmptyAnchor else .ok [])
    ((Anchored.empty lower : Call σ α (Anchored α)).run supply held)
  ofList : ∀ lower (items : List α), Accounts supply .ofList
    (placeDemand α lower items.length) ((ofList lower items).run supply held)
  ofFn : ∀ (τ : Type) lower upper (g : τ → Int64 → α × τ) (t : τ), Accounts supply .ofFn
    ((Draft.allocation α lower upper).map ([·])) ((ofFn lower upper g t).run supply held)
  replicate : ∀ lower upper (x : α), Accounts supply .replicate
    ((Draft.allocation α lower upper).map ([·])) ((replicate lower upper x).run supply held)
  singleton : ∀ x : α, Accounts supply .singleton (literalDemand α 1)
    ((singleton x).run supply held)
  singletonAt : ∀ start (x : α), Accounts supply .singleton (literalDemand α 1)
    ((singletonAt start x).run supply held)
  pair : ∀ x y : α, Accounts supply .pair (literalDemand α 2) ((pair x y).run supply held)
  allocate : ∀ lower upper, Accounts supply .allocate
    ((Draft.allocation α lower upper).map ([·]))
    ((Draft.allocate lower upper : Call σ α (Draft α)).run supply held)
  resize : ∀ (d : Draft α) n, Accounts supply .resize (placeDemand α d.lower n)
    ((Draft.resize n).run supply d)
  writeFrom : ∀ label (d : Draft α) start (new : Slots α), Accounts supply label (.ok [])
    ((Draft.writeFrom start new).run supply d)
  finish : ∀ label (d : Draft α), Accounts supply label (.ok [])
    ((Draft.finish d : Call σ α (Anchored α)).run supply held)
  copied : ∀ selection : Selection, Accounts supply selection.copyOperation
    (selection.copyDemand a) ((selection.copied a).run supply held)
  moved : ∀ selection : Selection, Accounts supply selection.moveOperation
    (selection.moveDemand a) (selection.moved.run supply (some a))
  push : ∀ x, Accounts supply .push (growthDemand a 1) ((push x).run supply a)
  extend : ∀ x, Accounts supply .extend (growthDemand a 1) ((extend a x).run supply held)
  append : Accounts supply .append (growthDemand a b.toList.length) ((append b).run supply a)
  concat : Accounts supply .concat (growthDemand a b.toList.length)
    ((concat a b).run supply held)
  insert : ∀ i x, Accounts supply .insert (insertionDemand a i 1)
    ((Anchored.insert i x).run supply a)
  insertMoved : ∀ i, Accounts supply .insertMoved (insertionDemand a i b.toList.length)
    ((insertMoved i b).run supply a)
  insertCopy : ∀ i, Accounts supply .insertCopy (copiesDemand supply a i b.toList.length)
    ((insertCopy i b).run supply a)
  insertSelf : ∀ i, Accounts supply .insertSelf (copiesDemand supply a i a.toList.length)
    ((insertSelf i).run supply a)
  remove : ∀ i, Accounts supply .remove (removalDemand a i) ((remove i).run supply a)
  swapRemove : ∀ i, Accounts supply .swapRemove (removalDemand a i) ((swapRemove i).run supply a)
  removeRun : ∀ i n, Accounts supply .removeRun (runDemand a i n) ((removeRun i n).run supply a)
  reanchor : ∀ start, Accounts supply .reanchor (anchorDemand a start)
    ((reanchor start).run supply a)
  read : ∀ label i, Accounts supply label (.ok []) ((read a i).run supply held)
  set? : ∀ label i x, Accounts supply label (.ok []) ((set? i x).run supply a)
  replace : ∀ label i x, Accounts supply label (.ok []) ((replace i x).run supply a)
  update : ∀ label (change : α → α), Accounts supply label (.ok [])
    ((update change).run supply a)
  sort : ∀ label direction (τ : Type) (compare : Sorting.Comparison τ α) (memory : τ),
    Accounts supply label (.ok []) ((sort direction compare memory).run supply a)
  take : ∀ label (d : Drain α) n, Accounts supply label (.ok []) ((Drain.take n).run supply d)

/-- **Every operation** on well-formed arrays but the copy of one accounts for its requests, on any
supply. If its arguments and the limits of its result pass, it asks for the buffers of its demand
that have bytes, in order and none after a refusal, and it fails exactly if one is refused, for want
of memory; otherwise it fails before any request. -/
theorem requests_accounted (h : a.WellFormed) (hb : b.WellFormed) (supply : Supply) (held : σ) :
    Accounted supply a b held where
  empty lower := (emptyFor_asks .empty lower).accounts
  ofList lower items := (ofList_asks lower items).accounts
  ofFn _ lower upper g t := (ofFn_asks lower upper g t).accounts
  replicate lower upper x := (replicate_asks lower upper x).accounts
  singleton x := (singletonAt_asks 1 x).accounts
  singletonAt start x := (singletonAt_asks start x).accounts
  pair x y := (pair_asks x y).accounts
  allocate lower upper := (allocate_asks lower upper).accounts
  resize d n := (resize_asks n (f := ⟨d, _, .blank⟩)).accounts
  writeFrom _ _ start new := (Asks.of_quiet (writeFrom_quiet start new)).accounts
  finish _ d := (Asks.of_quiet (finish_quiet d)).accounts
  copied selection := (selection.copied_asks h ⟨held, _, .blank⟩).accounts
  moved selection := (selection.moved_asks h (f := ⟨_, _, .blank⟩) rfl).accounts
  push x := (push_asks (f := ⟨a, _, .blank⟩) h x).accounts
  extend x := (extend_asks h x ⟨held, _, .blank⟩).accounts
  append := (append_asks (f := ⟨a, _, .blank⟩) h hb).accounts
  concat := (concat_asks h hb ⟨held, _, .blank⟩).accounts
  insert i x := (insert_asks (f := ⟨a, _, .blank⟩) h i x).accounts
  insertMoved i := (insertMoved_asks (f := ⟨a, _, .blank⟩) h i hb).accounts
  insertCopy i := (insertCopy_asks (f := ⟨a, _, .blank⟩) h i hb rfl).accounts
  insertSelf i := (insertSelf_asks (f := ⟨a, _, .blank⟩) h i rfl).accounts
  remove i := (remove_asks (f := ⟨a, _, .blank⟩) h i).accounts
  swapRemove i := (swapRemove_asks (f := ⟨a, _, .blank⟩) h i).accounts
  removeRun i n := (removeRun_asks (f := ⟨a, _, .blank⟩) h i n).accounts
  reanchor start := (reanchor_asks (f := ⟨a, _, .blank⟩) h start).accounts
  read _ i := (Asks.of_quiet (read_quiet a i)).accounts
  set? _ i x := (Asks.of_quiet (set?_quiet i x)).accounts
  replace _ i x := (Asks.of_quiet (replace_quiet i x)).accounts
  update _ change := (Asks.of_quiet (update_quiet change)).accounts
  sort _ direction _ compare memory :=
    (Asks.of_quiet (sort_quiet direction compare memory)).accounts
  take _ _ n := (Asks.of_quiet (take_quiet n)).accounts

/-- Copies of three values are granted a buffer, the longer buffer for them is refused. -/
theorem requests_accounted_refused :
    lowestThree.WellFormed
      ∧ ((insertSelf Position.least).run (.limited 1000 (some 1) none) lowestThree).2.tally.requests
        = [⟨3 * size Traced, true⟩, ⟨6 * size Traced, false⟩]
      ∧ ∃ e, ((insertSelf Position.least).run (.limited 1000 (some 1) none) lowestThree).1
          = .error (.failure e) ∧ e.operation = .insertSelf ∧ e.kind = .memory := by
  have hself : Requests (.limited 1000 (some 1) none) .insertSelf [3, 6]
      ((insertSelf Position.least).run (.limited 1000 (some 1) none) lowestThree) :=
    (requests_accounted lowestThree_wellFormed lowestThree_wellFormed
      (.limited 1000 (some 1) none) ()).insertSelf Position.least
  have hrequests : ((insertSelf Position.least).run (.limited 1000 (some 1) none)
      lowestThree).2.tally.requests = [⟨3 * size Traced, true⟩, ⟨6 * size Traced, false⟩] :=
    hself.made.trans (by decide)
  obtain ⟨e, he⟩ := hself.refused.2 ⟨⟨6 * size Traced, false⟩, by rw [hrequests]; simp, rfl⟩
  obtain ⟨hoperation, hkind, -⟩ := hself.reason e he
  exact ⟨lowestThree_wellFormed, hrequests, e, he, hoperation, hkind⟩

end AnchoredArrays.Session
