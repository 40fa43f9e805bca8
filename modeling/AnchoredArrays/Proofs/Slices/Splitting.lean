import AnchoredArrays.Proofs.Call.Balance
import AnchoredArrays.Proofs.Slices.Moved

/-!
Splitting an array. Heads and tails are moved out of a slot one after the other; whatever is asked
for and whatever is refused, what was moved out and what is still in the slot are together the array
that was there at first, each element at the position that it had.

* `Cut`, `Splitting`, `Splitting.cutAll`: the moves, a slot with what was cut off, and many moves;
* `Filled`: well-formed arrays that are not empty;
* `Tiles`: some arrays have the positions and elements of another one between them; `Tiles.refine`,
  `tiles_split`: one of them may be split;
* `Cut.plan_tiles`, `Splitting.Keeps`: what one cut does to an array, and what it preserves;
* `splitting_keeps`: **after any cuts** the positions are kept.
-/

namespace AnchoredArrays.Session

open Element Anchored Call

variable {α : Type} [Element α] {supply : Supply} {a r : Anchored α} {n : Nat}
  {bs cs : List (Anchored α)}

/-! ### Cutting off heads and tails -/

/-- A move of elements from one end of what is in a slot. -/
inductive Cut where
  | head (stop : Int64)
  | tail (start : Int64)
  deriving DecidableEq, Repr

/-- What a cut selects. -/
def Cut.selection : Cut → Selection
  | .head stop => .head stop
  | .tail start => .tail start

/-- A slot, the arrays that were moved out of it so far, the latest first, and how many copies of
elements were made. -/
structure Splitting (α : Type) [Element α] where
  slot : Option (Anchored α)
  pieces : List (Anchored α)
  copies : Nat

namespace Splitting

/-- Nothing was moved out of the slot yet. -/
def whole (a : Anchored α) : Splitting α := ⟨some a, [], 0⟩

/-- One cut, and what is granted to it. If it fails, nothing was moved out. -/
def cut (s : Splitting α) (cut : Cut) (supply : Supply) : Splitting α :=
  let (out, f) := cut.selection.moved.run supply s.slot
  { slot := f.held
    pieces := match out with
      | .ok b => b :: s.pieces
      | .error _ => s.pieces
    copies := s.copies + f.tally.copied.length }

/-- Cuts one after the other. -/
def cutAll (s : Splitting α) : List (Cut × Supply) → Splitting α
  | [] => s
  | c :: rest => (s.cut c.1 c.2).cutAll rest

/-- The array that is still in the slot, if there is one, and the arrays that were moved out and are
not empty. -/
def parts (s : Splitting α) : List (Anchored α) :=
  s.slot.toList ++ s.pieces.filter fun b => !b.isEmpty

end Splitting

/-! ### Tilings -/

/-- Every position of an array is one of exactly one of the parts, which have no other positions,
and each part has the same elements at its positions. -/
structure Tiles (a : Anchored α) (parts : List (Anchored α)) : Prop where
  once : ∀ i, parts.countP (·.contains i) = if a.contains i then 1 else 0
  agrees : ∀ b ∈ parts, ∀ i, b.contains i = true → b.get? i = a.get? i

namespace Tiles

lemma refl (a : Anchored α) : Tiles a [a] where
  once i := by simp [List.countP_cons]
  agrees b hb i _ := by rw [List.mem_singleton.1 hb]

lemma perm (h : Tiles a bs) (hperm : bs.Perm cs) : Tiles a cs where
  once i := (hperm.countP_eq _).symm.trans (h.once i)
  agrees b hb := h.agrees b (hperm.mem_iff.2 hb)

/-- A part has no other positions than the array. -/
lemma contains_of_mem (h : Tiles a bs) {b : Anchored α} (hb : b ∈ bs) {i : Int64}
    (hi : b.contains i = true) : a.contains i = true := by
  by_contra hout
  have hnone := h.once i
  rw [if_neg hout, List.countP_eq_zero] at hnone
  exact hnone b hb hi

/-- Parts of a part may stand for it. -/
lemma refine (h : Tiles a (r :: cs)) (hr : Tiles r bs) : Tiles a (bs ++ cs) where
  once i := by
    have hone := h.once i
    rw [List.countP_cons] at hone
    rw [List.countP_append, hr.once i, Nat.add_comm, hone]
  agrees b hb i hi := by
    obtain hb | hb := List.mem_append.1 hb
    · calc b.get? i = r.get? i := hr.agrees b hb i hi
        _ = a.get? i := h.agrees r List.mem_cons_self i (hr.contains_of_mem hb hi)
    · exact h.agrees b (List.mem_cons_of_mem r hb) i hi

/-- No two parts have a position in common. -/
lemma disjoint (h : Tiles a bs) :
    bs.Pairwise fun b c => ∀ i, ¬ (b.contains i = true ∧ c.contains i = true) := by
  have hmany : ∀ i, bs.countP (·.contains i) ≤ 1 := fun i => by
    rw [h.once i]
    split_ifs <;> omega
  clear h
  induction bs with
  | nil => exact .nil
  | cons b bs ih =>
    simp only [List.countP_cons] at hmany
    refine .cons (fun c hc i hi => ?_) (ih fun i => Nat.le_trans (Nat.le_add_right ..) (hmany i))
    have hone := hmany i
    have hpos : 0 < bs.countP (·.contains i) := List.countP_pos_iff.2 ⟨c, hc, hi.2⟩
    rw [if_pos hi.1] at hone
    omega

/-- Every position of the array is one of a part. -/
lemma covers (h : Tiles a bs) (i : Int64) :
    a.contains i = true ↔ ∃ b ∈ bs, b.contains i = true := by
  refine ⟨fun hi => ?_, fun ⟨b, hb, hi⟩ => h.contains_of_mem hb hi⟩
  have hone := h.once i
  rw [if_pos hi] at hone
  exact List.countP_pos_iff.1 (by omega)

end Tiles

/-- A well-formed array that is not empty. -/
structure Filled (b : Anchored α) : Prop where
  wellFormed : b.WellFormed
  isEmpty : b.isEmpty = false

namespace Filled

lemma toList_ne_nil (h : Filled r) : r.toList ≠ [] := h.wellFormed.nonempty_iff.1 h.isEmpty

/-- An array is filled by the elements that it holds. -/
lemma of_holds {anchor : Int} {items : List α} (hr : r.Holds anchor items) (hsome : items ≠ [])
    (hfits : items.length ≤ maxLength α) : Filled r :=
  have h := hr.wellFormed hsome hfits
  ⟨h, h.nonempty_iff.2 (hr.toList ▸ hsome)⟩

end Filled

/-- The elements in front of a slot and those from it on are two parts of an array. -/
lemma tiles_split (h : r.WellFormed) (hpos : n ≠ 0) (hn : n < r.toList.length)
    {front back : Anchored α} (hfront : front.Holds r.lower.toInt (r.toList.take n))
    (hback : back.Holds (r.lower.toInt + n) (r.toList.drop n)) :
    Filled front ∧ Filled back ∧ Tiles r [front, back] := by
  have hfits := h.room.fits
  have hlength : (r.toList.take n).length = n := List.length_take_of_le (Nat.le_of_lt hn)
  have hlength' : (r.toList.drop n).length = r.toList.length - n := List.length_drop ..
  have hfilled : Filled front :=
    .of_holds hfront (List.ne_nil_of_length_pos (by omega)) (by omega)
  have hfilled' : Filled back :=
    .of_holds hback (List.ne_nil_of_length_pos (by omega)) (by omega)
  have hin : ∀ i, front.contains i = true
      ↔ r.contains i = true ∧ i.toInt < r.lower.toInt + n := by
    intro i
    rw [hfront.contains_iff, h.holds.contains_iff, hlength]
    omega
  have hin' : ∀ i, back.contains i = true
      ↔ r.contains i = true ∧ r.lower.toInt + n ≤ i.toInt := by
    intro i
    rw [hback.contains_iff, h.holds.contains_iff, hlength']
    omega
  refine ⟨hfilled, hfilled', fun i => ?_, fun b hb i hi => ?_⟩
  · rw [List.countP_cons, List.countP_cons, List.countP_nil]
    simp only [hin, hin']
    by_cases hi : r.contains i = true
    · rcases Int.lt_or_le i.toInt (r.lower.toInt + n) with hlow | hhigh
      · simp [hi, hlow, Int.not_le.2 hlow]
      · simp [hi, hhigh, Int.not_lt.2 hhigh]
    · simp [hi]
  · rcases List.mem_cons.1 hb with rfl | hb
    · obtain ⟨hi', hlt⟩ := (hin i).1 hi
      have hlow := (h.holds.contains_iff.1 hi').1
      rw [hfront.get?_eq hi, h.holds.get?_eq hi', List.getElem?_take_of_lt (by omega)]
    · obtain rfl := List.mem_singleton.1 hb
      obtain ⟨hi', hlow⟩ := (hin' i).1 hi
      rw [hback.get?_eq hi, h.holds.get?_eq hi', List.getElem?_drop]
      congr 1
      omega

/-! ### One cut -/

namespace Cut

/-- What a cut leaves in the slot and what it moves out of it are two parts of the array, if neither
is empty. -/
lemma tiles_of_leaves (hr : Filled r) (cut : Cut) {t : Target}
    (ht : cut.selection.target r = .ok t) (hnone : ¬ cut.selection.TakesAll r)
    {b rest : Anchored α} (hitems : r.between t.first t.last ≠ [])
    (hb : b.Holds t.anchor.toInt (r.between t.first t.last))
    (hrest : rest.Holds (cut.selection.restAnchor r) (r.outside t.first t.last)) :
    Filled b ∧ Filled rest ∧ Tiles r [rest, b] := by
  have h := hr.wellFormed
  have hu := h.toInt_upper
  have hlast : ¬ t.last < t.first := mt between_of_lt hitems
  rw [between] at hb
  rw [outside] at hrest
  cases cut with
  | head stop =>
    -- the head is in front of the slot behind its last position
    rw [selection, Selection.TakesAll, not_and, Int.not_le] at hnone
    have hstop := hnone hr.toList_ne_nil
    rw [selection, Selection.target] at ht
    split_ifs at ht
    cases ht
    dsimp only at hb hrest hlast
    obtain ⟨n, hn⟩ : ∃ n : Nat, (n : Int) = stop.toInt - r.lower.toInt + 1 :=
      ⟨_, Int.toNat_of_nonneg (by omega)⟩
    rw [Int.sub_self, Int.toNat_zero, List.drop_zero,
      show (min stop.toInt r.upper.toInt - r.lower.toInt + 1).toNat = n by omega] at hb
    rw [Int.sub_self, Int.toNat_zero, List.take_zero, List.nil_append,
      show (min stop.toInt r.upper.toInt - r.lower.toInt + 1).toNat = n by omega,
      show (selection (.head stop)).restAnchor r = r.lower.toInt + n by
        rw [selection, Selection.restAnchor]; omega] at hrest
    obtain ⟨hfilled, hfilled', htiles⟩ := tiles_split h (by omega) (by omega) hb hrest
    exact ⟨hfilled, hfilled', htiles.perm (.swap ..)⟩
  | tail start =>
    -- the tail is what there is from the slot of its first position on
    rw [selection, Selection.TakesAll, ← Int64.toInt_inj] at hnone
    rw [selection, Selection.target] at ht
    split_ifs at ht with hlow hleast hbehind
    · cases ht
      exact absurd hbehind hlast
    · cases ht
      dsimp only at hb hrest hlast
      obtain ⟨n, hn⟩ : ∃ n : Nat, (n : Int) = start.toInt - r.lower.toInt :=
        ⟨_, Int.toNat_of_nonneg (by omega)⟩
      rw [show (start.toInt - r.lower.toInt).toNat = n by omega,
        List.take_of_length_le (by rw [List.length_drop]; omega),
        show start.toInt = r.lower.toInt + n by omega] at hb
      rw [show (start.toInt - r.lower.toInt).toNat = n by omega, List.drop_eq_nil_of_le (by omega),
        List.append_nil] at hrest
      obtain ⟨hfilled, hfilled', htiles⟩ := tiles_split h (by omega) (by omega) hrest hb
      exact ⟨hfilled', hfilled, htiles⟩

/-- A cut that takes everything selects all elements, at their positions. -/
lemma selects_all (hr : Filled r) (cut : Cut) {t : Target}
    (ht : cut.selection.target r = .ok t) (hall : cut.selection.TakesAll r) :
    t.anchor = r.lower ∧ r.between t.first t.last = r.toList := by
  have hu := hr.wellFormed.toInt_upper
  have hpos := List.length_pos_iff.2 hr.toList_ne_nil
  cases cut with
  | head stop =>
    have hup := hall.2
    rw [selection, Selection.target] at ht
    split_ifs at ht
    cases ht
    refine ⟨rfl, ?_⟩
    dsimp only
    rw [between, Int.sub_self, Int.toNat_zero, List.drop_zero, List.take_of_length_le (by omega)]
  | tail start =>
    rw [selection, Selection.TakesAll] at hall
    subst hall
    obtain ⟨htarget, hitems⟩ := Selection.target_whole hr.wellFormed
    rw [selection, htarget] at ht
    cases ht
    exact ⟨rfl, hitems⟩

/-- **What a cut plans to do**: the array that is moved out, if it is not empty, and the one that
stays in the slot, if there is one, are the parts of the array that was in the slot. -/
lemma plan_tiles (hr : Filled r) (cut : Cut) {q : Plan (Option (Anchored α)) (Anchored α)}
    (hq : cut.selection.movePlan r = .ok q) :
    Tiles r (q.after.toList ++ [q.result].filter fun b => !b.isEmpty)
      ∧ ∀ b, q.after = some b → Filled b := by
  have h := hr.wellFormed
  have hparting := cut.selection.movePlan_parting h
  rw [hq] at hparting
  cases htarget : cut.selection.target r with
  | error reason =>
    rw [htarget] at hparting
    exact nomatch hparting.1
  | ok t =>
    rw [htarget] at hparting
    obtain ⟨q', hq', -, hleaves⟩ := hparting
    cases hq'
    cases hafter : q.after with
    | none =>
      obtain ⟨hanchor, hall⟩ := cut.selects_all hr htarget (hleaves.emptied.1 hafter)
      have hwhole : q.result = r := by
        have htaken := hleaves.taken
        rw [hanchor, hall] at htaken
        exact htaken.unique h.holds
      refine ⟨?_, fun b hb => nomatch hb⟩
      simpa [hwhole, hr.isEmpty] using Tiles.refl r
    | some rest =>
      have hnone : ¬ cut.selection.TakesAll r := fun hall =>
        nomatch hafter.symm.trans (hleaves.emptied.2 hall)
      by_cases hitems : r.between t.first t.last = []
      · have hempty : q.result.isEmpty = true := (hitems ▸ hleaves.taken).isEmpty
        rw [hleaves.unchanged rest hafter hitems]
        refine ⟨by simpa [hempty] using Tiles.refl r, ?_⟩
        rintro _ ⟨⟩
        exact hr
      · have hkept := hleaves.kept rest hafter hitems
        obtain ⟨hresult, hrest, htiles⟩ :=
          cut.tiles_of_leaves hr htarget hnone hitems hleaves.taken hkept
        refine ⟨by simpa [hresult.isEmpty] using htiles, ?_⟩
        rintro _ ⟨⟩
        exact hrest

end Cut

namespace Splitting

variable {s : Splitting α} {c : Cut} {f : Frame (Option (Anchored α)) α}

lemma cut_of_ok {b : Anchored α} (hrun : c.selection.moved.run supply s.slot = (.ok b, f))
    (hcopied : f.tally.copied = .nil) : s.cut c supply = ⟨f.held, b :: s.pieces, s.copies⟩ := by
  simp only [cut, hrun, hcopied, Slots.length_nil, Nat.add_zero]

lemma cut_of_error {e : Halt} (hrun : c.selection.moved.run supply s.slot = (.error e, f))
    (hcopied : f.tally.copied = .nil) (hheld : f.held = s.slot) : s.cut c supply = s := by
  simp only [cut, hrun, hcopied, hheld, Slots.length_nil, Nat.add_zero]

/-- **A cut** does what it plans to do with the array in the slot, or changes nothing. -/
lemma cut_cases (s : Splitting α) (c : Cut) (supply : Supply)
    (h : ∀ r, s.slot = some r → r.WellFormed) :
    s.cut c supply = s ∨ ∃ r q, s.slot = some r ∧ c.selection.movePlan r = .ok q
      ∧ s.cut c supply = ⟨q.after, q.result :: s.pieces, s.copies⟩ := by
  cases hslot : s.slot with
  | none =>
    -- the call breaks off
    left
    obtain ⟨e, hrun⟩ : ∃ e, c.selection.moved.run supply s.slot
        = (.error e, ⟨none, supply.copies, .blank⟩) := by
      rw [hslot]
      cases c with
      | head stop => exact ⟨_, rfl⟩
      | tail start => exact ⟨_, rfl⟩
    exact cut_of_error hrun rfl hslot.symm
  | some r =>
    let start : Frame (Option (Anchored α)) α := ⟨s.slot, supply.copies, .blank⟩
    have hmoved : c.selection.moved supply start = _ :=
      Selection.moved_eq hslot (h r hslot) c.selection
    rw [trace_bind] at hmoved
    obtain ⟨q, g, hq, hrun, halike⟩ | ⟨e, g, hrun, halike⟩ := carryOut_cases supply
      c.selection.moveOperation (c.selection.movePlan r)
      (start.leaving (.trace c.selection.moveOperation (c.selection.arguments r)))
    · have hheld : g.held = q.after := halike.held
      exact .inr ⟨r, q, rfl, hq, hheld ▸ cut_of_ok (hmoved.trans hrun) halike.copied⟩
    · exact .inl (cut_of_error (hmoved.trans hrun) halike.copied halike.held)

end Splitting

/-! ### Any number of cuts -/

/-- What cuts preserve. -/
structure Splitting.Keeps (a : Anchored α) (s : Splitting α) : Prop where
  tiles : Tiles a s.parts
  slot : ∀ r, s.slot = some r → Filled r
  copies : s.copies = 0

namespace Splitting.Keeps

variable {s : Splitting α}

lemma whole (ha : Filled a) : Keeps a (.whole a) where
  tiles := .refl a
  slot := by
    rintro _ ⟨⟩
    exact ha
  copies := rfl

/-- **One cut**, granted or refused, preserves what cuts preserve. -/
lemma cut (hs : Keeps a s) (c : Cut) (supply : Supply) : Keeps a (s.cut c supply) := by
  obtain hsame | ⟨r, q, hslot, hq, hcut⟩ :=
    s.cut_cases c supply fun r hr => (hs.slot r hr).wellFormed
  · rwa [hsame]
  · obtain ⟨hparts, hafter⟩ := c.plan_tiles (hs.slot r hslot) hq
    have htiles := hs.tiles
    rw [parts, hslot] at htiles
    rw [hcut]
    refine ⟨?_, hafter, hs.copies⟩
    rw [parts, ← List.singleton_append, List.filter_append, ← List.append_assoc]
    exact htiles.refine hparts

/-- **Any cuts** do. -/
lemma cutAll (hs : Keeps a s) (cuts : List (Cut × Supply)) : Keeps a (s.cutAll cuts) := by
  induction cuts generalizing s with
  | nil => exact hs
  | cons c rest ih => exact ih (hs.cut c.1 c.2)

end Splitting.Keeps

/-- **Splitting keeps positions.** Heads and tails are moved out of a slot that an array was put
into, any number of them, with any ends, in any order, and with any buffers refused. What was moved
out and is not empty, and what is in the slot, have no positions in common and together those of the
array, and at each position the element that the array had there, without a copy of any. What is
left in the slot is never empty. -/
theorem splitting_keeps (h : a.WellFormed) (hsome : a.isEmpty = false)
    (cuts : List (Cut × Supply)) :
    let s := (Splitting.whole a).cutAll cuts
    s.parts.Pairwise (fun b c => ∀ i, ¬ (b.contains i = true ∧ c.contains i = true))
      ∧ (∀ i, a.contains i = true ↔ ∃ b ∈ s.parts, b.contains i = true)
      ∧ (∀ b ∈ s.parts, ∀ i, b.contains i = true →
          ∃ x, b.get? i = some x ∧ a.get? i = some x)
      ∧ s.copies = 0
      ∧ ∀ r, s.slot = some r → r.isEmpty = false := by
  intro s
  obtain ⟨htiles, hslot, hcopies⟩ : s.Keeps a := .cutAll (.whole ⟨h, hsome⟩) cuts
  refine ⟨htiles.disjoint, htiles.covers, ?_, hcopies, fun r hr => (hslot r hr).isEmpty⟩
  intro b hb i hi
  obtain ⟨x, hx⟩ := h.exists_get? (htiles.contains_of_mem hb hi)
  exact ⟨x, (htiles.agrees b hb i hi).trans hx, hx⟩

/-- A tail and a head are moved out from the smallest position on; before that, the second of the
buffers for the tail was refused once. -/
theorem splitting_keeps_lowest :
    let s := (Splitting.whole lowestThree).cutAll
      [(.tail (Position.least + 2), .limited 1000 (some 1) none),
        (.tail (Position.least + 2), .ample), (.head Position.least, .ample)]
    lowestThree.WellFormed ∧ lowestThree.isEmpty = false
      ∧ s.slot.map toList = some [⟨20, 0⟩]
      ∧ s.pieces.map toList = [[⟨10, 0⟩], [⟨30, 0⟩]]
      ∧ (∀ i, lowestThree.contains i = true ↔ ∃ b ∈ s.parts, b.contains i = true)
      ∧ s.copies = 0 := by
  intro s
  have hsome : lowestThree.isEmpty = false := by decide
  obtain ⟨-, hcovers, -, hcopies, -⟩ := splitting_keeps lowestThree_wellFormed hsome
    [(.tail (Position.least + 2), .limited 1000 (some 1) none),
      (.tail (Position.least + 2), .ample), (.head Position.least, .ample)]
  exact ⟨lowestThree_wellFormed, hsome, by decide, by decide, hcovers, hcopies⟩

end AnchoredArrays.Session
