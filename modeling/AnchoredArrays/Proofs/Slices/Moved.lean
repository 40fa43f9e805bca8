import AnchoredArrays.Proofs.Anchored.Moves
import AnchoredArrays.Proofs.Slices.Copied

/-!
Moving slices beside copying ones. Both select the same positions; the moving slice takes the
elements themselves, and the slot keeps what is left of the array.

* `Selection.TakesAll`: the selections after which the slot is empty;
* `Leaves`: what is promised of the slot; `moving_leaves`, `Selection.movePlan_parting`: **a plan
  for a moving slice** keeps that promise;
* `moved_slices`: **the moving slices agree with the copying ones** and keep the rest.
-/

namespace AnchoredArrays.Session

open Element Anchored Call

variable {α σ : Type} [Element α] {supply : Supply} {a : Anchored α}

namespace Selection

/-- The label of the moving slice. -/
def moveOperation : Selection → Operation
  | .head _ => .moveHead
  | .tail _ => .moveTail
  | .range .. => .moveRange
  | .run .. => .moveRun

/-- The whole array is selected; of an empty one only a tail takes everything. -/
def TakesAll (a : Anchored α) : Selection → Prop
  | .head stop => a.toList ≠ [] ∧ a.upper.toInt ≤ stop.toInt
  | .tail start => start = a.lower
  | .range start stop => a.toList ≠ [] ∧ start = a.lower ∧ a.upper.toInt ≤ stop.toInt
  | .run start n => a.toList ≠ [] ∧ start = a.lower ∧ a.toList.length ≤ n.toInt

/-- The position from which on the rest of an array is kept: what is behind a head stays where it
is, all else is closed up at the lower bound. -/
def restAnchor (a : Anchored α) : Selection → Int
  | .head stop => stop.toInt + 1
  | _ => a.lower.toInt

/-- The plan of the moving slice. -/
def movePlan (a : Anchored α) : Selection → Except Reason (Plan (Option (Anchored α)) (Anchored α))
  | .head stop => headMove a stop
  | .tail start => tailMove a start
  | .range start stop => partMove a (rangePart a start stop)
  | .run start n => partMove a (runPart a start n)

/-- A moving slice carries out its plan. -/
lemma moved_eq {f : Frame (Option (Anchored α)) α} (hslot : f.held = some a) (h : a.WellFormed)
    (selection : Selection) :
    selection.moved supply f = (do
      trace selection.moveOperation (selection.arguments a)
      carryOut selection.moveOperation (selection.movePlan a)) supply f := by
  cases selection with
  | head stop => exact moveHead_eq hslot h stop
  | tail start => exact moveTail_eq hslot h start
  | range start stop => exact moveRange_eq hslot h start stop
  | run start n => exact moveRun_eq hslot h start n

end Selection

/-! ### What a slot is left with -/

/-- What is promised of the elements at the positions of a target that are moved into `b`, and of
the slot they come from: it is empty if everything was taken; otherwise it holds the array as it
was if nothing was taken, and else what is left of it, from `anchor` on. -/
structure Leaves (a : Anchored α) (t : Target) (all : Prop) (anchor : Int) (b : Anchored α)
    (slot : Option (Anchored α)) : Prop where
  taken : b.Holds t.anchor.toInt (a.between t.first t.last)
  emptied : slot = none ↔ all
  unchanged : ∀ rest, slot = some rest → a.between t.first t.last = [] → rest = a
  kept : ∀ rest, slot = some rest → a.between t.first t.last ≠ [] →
    rest.Holds anchor (a.outside t.first t.last)

section

variable {t : Target} {p : Part} {all : Prop} {rest : Int}

/-- Nothing is taken from an array that is not at the smallest position. -/
lemma Leaves.nothing (hplace : a.lower ≠ Position.least) (hall : ¬ all)
    (hnothing : a.between t.first t.last = []) (hanchor : t.anchor = a.lower) :
    Leaves a t all rest (laid a.lower []) (some a) where
  taken := by
    rw [hnothing, hanchor]
    exact laid_holds (.zero hplace)
  emptied := ⟨fun hslot => absurd hslot (Option.some_ne_none a), fun htakes => absurd htakes hall⟩
  unchanged := by
    rintro _ ⟨⟩ -
    rfl
  kept := fun _ _ hsome => absurd hnothing hsome

/-- The array itself is handed over if everything is taken. -/
lemma Leaves.everything (h : a.WellFormed) (hall : all)
    (hitems : a.between t.first t.last = a.toList) (hanchor : t.anchor = a.lower) :
    Leaves a t all rest a none where
  taken := by
    rw [hitems, hanchor]
    exact h.holds
  emptied := ⟨fun _ => hall, fun _ => rfl⟩
  unchanged := fun rest hslot => absurd hslot.symm (Option.some_ne_none rest)
  kept := fun rest hslot => absurd hslot.symm (Option.some_ne_none rest)

/-- A part is taken, and the rest finds a place. -/
lemma Leaves.part (hplaced : Placed a p t) (hsome : p.count ≠ 0) (hall : ¬ all) {kept : Int64}
    (hkept : Room α kept (a.toList.length - p.count)) :
    Leaves a t all kept.toInt (laid p.anchor (p.elements a))
      (some (laid kept (a.toList.take p.start ++ a.toList.drop (p.start + p.count)))) where
  taken := by
    rw [hplaced.selected, hplaced.anchor_eq hsome]
    refine laid_holds ?_
    rw [hplaced.within.length_elements, ← hplaced.anchor_eq hsome]
    exact hplaced.room
  emptied := ⟨fun hslot => absurd hslot (Option.some_ne_none _), fun htakes => absurd htakes hall⟩
  unchanged := by
    have hlength := hplaced.within.length_elements
    intro rest _ hnothing
    rw [← hplaced.selected, hnothing] at hlength
    exact absurd hlength.symm hsome
  kept := by
    have hle := hplaced.within.le
    have hothers : (a.toList.take p.start ++ a.toList.drop (p.start + p.count)).length
        = a.toList.length - p.count := by
      simp only [List.length_append, List.length_take, List.length_drop]
      omega
    rintro _ ⟨⟩ -
    rw [hplaced.others]
    refine laid_holds ?_
    rwa [hothers]

/-- The plan for moving a part that finds a place. -/
lemma moving_leaves (h : a.WellFormed) (hplaced : Placed a p t) {buffers : List Nat} {kept : Int64}
    (hbuffers : ∀ n ∈ buffers, n ≤ a.toList.length)
    (hwhole : p.count ≠ 0 → p.count = a.toList.length → p.anchor = a.lower)
    (hkept : p.count ≠ 0 → p.count ≠ a.toList.length →
      Room α kept (a.toList.length - p.count) ∧ kept.toInt = rest)
    (hall : all ↔ p.count ≠ 0 ∧ p.count = a.toList.length) :
    ∃ q, moving a p buffers kept = .ok q ∧ (∀ n ∈ q.buffers, n ≤ a.toList.length)
      ∧ Leaves a t all rest q.result q.after := by
  have hlength := hplaced.within.length_elements
  have hle := hplaced.within.le
  rw [moving]
  by_cases hnone : p.count = 0
  · have hnothing : p.elements a = [] := List.eq_nil_of_length_eq_zero (hlength.trans hnone)
    have hanchor := hplaced.anchor_empty hnone
    have hplace : a.lower ≠ Position.least := hanchor ▸ hplaced.room.starts hnone
    rw [if_pos hnone, if_neg hplace]
    exact ⟨_, rfl, fun n hn => absurd hn List.not_mem_nil,
      .nothing hplace (fun htakes => (hall.1 htakes).1 hnone) (hplaced.selected.trans hnothing)
        hanchor⟩
  rw [if_neg hnone]
  by_cases hpart : p.count = a.toList.length
  · have hitems : p.elements a = a.toList := by
      rw [Part.elements, show p.start = 0 by omega, List.drop_zero, hpart, List.take_length]
    rw [if_pos hpart]
    exact ⟨_, rfl, fun n hn => absurd hn List.not_mem_nil,
      .everything h (hall.2 ⟨hnone, hpart⟩) (hplaced.selected.trans hitems)
        ((hplaced.anchor_eq hnone).trans (hwhole hnone hpart))⟩
  · obtain ⟨hplace, rfl⟩ := hkept hnone hpart
    rw [if_neg hpart]
    exact ⟨_, rfl, hbuffers, .part hplaced hnone (fun htakes => hpart (hall.1 htakes).2) hplace⟩

end

/-- The plan of a moving slice keeps the promise for its target, or fails if there is none. -/
def Parting (a : Anchored α) (all : Prop) (rest : Int)
    (plan : Except Reason (Plan (Option (Anchored α)) (Anchored α))) :
    Except Reason Target → Prop
  | .error reason => plan = .error reason ∧ ¬ all
  | .ok t => ∃ q, plan = .ok q ∧ (∀ n ∈ q.buffers, n ≤ a.toList.length)
      ∧ Leaves a t all rest q.result q.after

/-- A plan that moves the part that a slice settles on. -/
lemma parting_of_reaches (h : a.WellFormed) {part : Except Reason Part}
    {target : Except Reason Target} (hreaches : Reaches a part target)
    {buffers : Part → List Nat} {kept : Int64} {rest : Int} {all : Prop}
    (hbuffers : ∀ p, p.Within a → ∀ n ∈ buffers p, n ≤ a.toList.length)
    (hwhole : ∀ p, part = .ok p → p.count ≠ 0 → p.count = a.toList.length → p.anchor = a.lower)
    (hkept : ∀ p, part = .ok p → p.count ≠ 0 → p.count ≠ a.toList.length → p.Within a →
      Room α kept (a.toList.length - p.count) ∧ kept.toInt = rest)
    (hall : all ↔ ∃ p, part = .ok p ∧ p.count ≠ 0 ∧ p.count = a.toList.length) :
    Parting a all rest (part >>= fun p => moving a p (buffers p) kept) target := by
  cases hreaches with
  | refused reason => exact ⟨rfl, fun htakes => (hall.1 htakes).elim fun p hp => (nomatch hp.1)⟩
  | @unplaced p hnone hleast =>
    refine ⟨?_, ?_⟩
    · change moving a p (buffers p) kept = _
      rw [moving, if_pos hnone, if_pos hleast]
    · intro htakes
      obtain ⟨_, ⟨⟩, hsome, -⟩ := hall.1 htakes
      exact hsome hnone
  | @placed p t hplaced =>
    refine moving_leaves h hplaced (hbuffers p hplaced.within) (hwhole p rfl)
      (fun hsome hpart => hkept p rfl hsome hpart hplaced.within) ?_
    rw [hall]
    constructor
    · rintro ⟨_, ⟨⟩, htakes⟩
      exact htakes
    · exact fun htakes => ⟨p, rfl, htakes⟩

/-- The numbers of slots of a part and of the rest are those of buffers in any order. -/
lemma buffers_le_of_within {p : Part} (hp : p.Within a) {buffers : List Nat}
    (hbuffers : ∀ n ∈ buffers, n = p.count ∨ n = a.toList.length - p.count) :
    ∀ n ∈ buffers, n ≤ a.toList.length := by
  intro n hn
  have hle := hp.le
  rcases hbuffers n hn with rfl | rfl <;> omega

/-- What is left of a proper part at the lower bound finds a place there. -/
lemma room_rest (h : a.WellFormed) {p : Part} (hp : p.Within a)
    (hpart : p.count ≠ a.toList.length) :
    Room α a.lower (a.toList.length - p.count) ∧ a.lower.toInt = a.lower.toInt :=
  ⟨h.room_kept hpart (Nat.le_trans (Nat.le_add_left ..) hp.le), rfl⟩

lemma headMove_parting (h : a.WellFormed) (stop : Int64) :
    Parting a (Selection.TakesAll a (.head stop)) (Selection.restAnchor a (.head stop))
      (headMove a stop) (Selection.target a (.head stop)) := by
  have hu := h.toInt_upper
  have hl := a.lower.le_toInt
  have hg := a.upper.toInt_lt
  refine parting_of_reaches h (headPart_reaches h stop)
    (fun p hp => buffers_le_of_within hp (by simp [or_comm])) ?_ ?_ ?_
  · intro p hp _ _
    rw [headPart] at hp
    split_ifs at hp
    cases hp
    rfl
  · intro p hp hsome hpart _
    rw [headPart] at hp
    split_ifs at hp
    cases hp
    dsimp only at hsome hpart ⊢
    exact ⟨h.room_behind (by omega) (by omega), Int64.toInt_ofInt_of_le (by omega) (by omega)⟩
  · rw [Selection.TakesAll, ← List.length_pos_iff, headPart]
    constructor
    · rintro ⟨hsome, hup⟩
      exact ⟨_, if_neg (by omega), by dsimp only; omega, by dsimp only; omega⟩
    · rintro ⟨p, hp, hsome, hpart⟩
      split_ifs at hp
      cases hp
      dsimp only at hsome hpart
      omega

/-- A tail that starts behind the lower bound is not the whole array. -/
lemma tailPart_count_ne (h : a.WellFormed) {start : Int64} (hne : start.toInt ≠ a.lower.toInt)
    {p : Part} (hp : tailPart a start = .ok p) (hsome : p.count ≠ 0) :
    p.count ≠ a.toList.length := by
  have hu := h.toInt_upper
  rw [tailPart] at hp
  split_ifs at hp
  · cases hp
    simp only [slotOf]
    omega
  · cases hp
    exact absurd rfl hsome

lemma tailMove_parting (h : a.WellFormed) (start : Int64) :
    Parting a (Selection.TakesAll a (.tail start)) a.lower.toInt (tailMove a start)
      (Selection.target a (.tail start)) := by
  rw [tailMove]
  by_cases hall : start = a.lower
  · subst hall
    obtain ⟨htarget, hitems⟩ := Selection.target_whole h
    rw [if_pos rfl, htarget]
    exact ⟨_, rfl, fun n hn => absurd hn List.not_mem_nil, .everything h rfl hitems rfl⟩
  · have hne : start.toInt ≠ a.lower.toInt := mt Int64.toInt_inj.1 hall
    rw [if_neg hne]
    refine parting_of_reaches h (tailPart_reaches h start)
      (fun p hp => buffers_le_of_within hp (by simp)) ?_
      (fun p _ _ hpart hp => room_rest h hp hpart) ?_
    · exact fun p hp hsome hpart => absurd hpart (tailPart_count_ne h hne hp hsome)
    · refine ⟨fun htakes => absurd htakes hall, ?_⟩
      rintro ⟨p, hp, hsome, hpart⟩
      exact absurd hpart (tailPart_count_ne h hne hp hsome)

/-- A range or a run is moved as the part that it settles on. -/
lemma partMove_parting (h : a.WellFormed) {part : Except Reason Part}
    {target : Except Reason Target} (hreaches : Reaches a part target)
    (hanchor : ∀ p, part = .ok p → p.anchor = a.lower) {all : Prop}
    (hall : all ↔ ∃ p, part = .ok p ∧ p.count ≠ 0 ∧ p.count = a.toList.length) :
    Parting a all a.lower.toInt (partMove a part) target :=
  parting_of_reaches h hreaches (fun p hp => buffers_le_of_within hp (by simp))
    (fun p hp _ _ => hanchor p hp) (fun p _ _ hpart hp => room_rest h hp hpart) hall

lemma rangeMove_parting (h : a.WellFormed) (start stop : Int64) :
    Parting a (Selection.TakesAll a (.range start stop)) a.lower.toInt
      (partMove a (rangePart a start stop)) (Selection.target a (.range start stop)) := by
  have hu := h.toInt_upper
  refine partMove_parting h (rangePart_reaches h start stop) ?_ ?_
  · intro p hp
    rw [rangePart] at hp
    split_ifs at hp
    cases hp
    rfl
  · rw [Selection.TakesAll, ← List.length_pos_iff, ← Int64.toInt_inj, rangePart]
    constructor
    · rintro ⟨hsome, hstart, hup⟩
      exact ⟨_, by rw [if_neg (by omega), if_neg (by omega)], by dsimp only; omega,
        by dsimp only; omega⟩
    · rintro ⟨p, hp, hsome, hpart⟩
      split_ifs at hp
      cases hp
      dsimp only at hsome hpart
      omega

lemma runMove_parting (h : a.WellFormed) (start n : Int64) :
    Parting a (Selection.TakesAll a (.run start n)) a.lower.toInt
      (partMove a (runPart a start n)) (Selection.target a (.run start n)) := by
  have hu := h.toInt_upper
  refine partMove_parting h (runPart_reaches h start n) ?_ ?_
  · intro p hp
    rw [runPart] at hp
    split_ifs at hp
    cases hp
    rfl
  · rw [Selection.TakesAll, ← List.length_pos_iff, ← Int64.toInt_inj, runPart]
    simp only [slotOf]
    constructor
    · rintro ⟨hsome, hstart, hn⟩
      exact ⟨_, if_neg (by omega), by dsimp only; omega, by dsimp only; omega⟩
    · rintro ⟨p, hp, hsome, hpart⟩
      split_ifs at hp
      cases hp
      dsimp only at hsome hpart
      omega

/-- **A plan for a moving slice** keeps the promise for what the slice selects. -/
lemma Selection.movePlan_parting (h : a.WellFormed) (selection : Selection) :
    Parting a (selection.TakesAll a) (selection.restAnchor a) (selection.movePlan a)
      (selection.target a) := by
  cases selection with
  | head stop => exact headMove_parting h stop
  | tail start => exact tailMove_parting h start
  | range start stop => exact rangeMove_parting h start stop
  | run start n => exact runMove_parting h start n

/-! ### Moving slices -/

/-- The call moves the elements at the positions of a target, or fails if there is none and leaves
the slot as it was; nothing is copied. -/
def Moving (a : Anchored α) (operation : Operation) (all : Prop) (rest : Int)
    (out : Except Halt (Anchored α) × Frame (Option (Anchored α)) α) :
    Except Reason Target → Prop
  | .error reason => Declines out reason.kind operation reason ∧ out.2.held = some a ∧ ¬ all
  | .ok t => ∃ b, out.1 = .ok b ∧ Leaves a t all rest b out.2.held
      ∧ out.2.tally.copied.toList = []

/-- A moving slice does what its target says. -/
lemma Selection.moved_run (h : a.WellFormed) (selection : Selection)
    (hgenerous : supply.Generous) :
    Moving a selection.moveOperation (selection.TakesAll a) (selection.restAnchor a)
      (selection.moved.run supply (some a)) (selection.target a) := by
  rw [Call.run, moved_eq rfl h, trace_bind]
  have hparting := selection.movePlan_parting h
  generalize selection.movePlan a = plan at *
  generalize selection.target a = target at *
  cases target with
  | error reason =>
    obtain ⟨rfl, hall⟩ := hparting
    exact ⟨⟨⟨rfl, rfl⟩, Slots.toList_nil⟩, rfl, hall⟩
  | ok t =>
    obtain ⟨q, rfl, hbuffers, hleaves⟩ := hparting
    rw [carryOut_generous hgenerous _ fun n hn => Nat.le_trans (hbuffers n hn) h.room.fits]
    exact ⟨q.result, rfl, hleaves, Slots.toList_nil⟩

/-- **The moving slices agree with the copying ones** on a generous supply. Both fail, for the same
reason, and the slot is as it was; or both go through. Then the arrays have the same bounds, the one
that was moved consists of the elements at the selected positions themselves, without a copy of any,
and the other one of copies of these. The slot is empty exactly if everything is selected; otherwise
it is as it was if nothing is selected, and else holds all other elements, those behind a head at
their positions and all else closed up at the lower bound. -/
theorem moved_slices (h : a.WellFormed) (selection : Selection) (held : σ)
    (hgenerous : supply.Generous) (hcopies : supply.Lets a.toList.length) :
    ∃ f g,
      ((∃ reason,
          (selection.copied a).run supply held
            = (.error (.failure ⟨selection.copyOperation, reason⟩), f)
          ∧ selection.moved.run supply (some a)
            = (.error (.failure ⟨selection.moveOperation, reason⟩), g)
          ∧ g.held = some a)
        ∨ ∃ t b c, selection.target a = .ok t
          ∧ (selection.copied a).run supply held = (.ok c, f)
          ∧ selection.moved.run supply (some a) = (.ok b, g)
          ∧ b.lower = c.lower ∧ b.upper = c.upper
          ∧ b.toList = a.between t.first t.last ∧ c.toList = b.toList.map Element.copy
          ∧ ∀ rest, g.held = some rest → (b.toList = [] → rest = a)
            ∧ (b.toList ≠ [] → rest.Holds (selection.restAnchor a) (a.outside t.first t.last)))
      ∧ g.tally.copied.toList = []
      ∧ (g.held = none ↔ selection.TakesAll a) := by
  have hcopying := selection.copied_run h held hgenerous hcopies
  have hmoving := selection.moved_run h hgenerous
  cases htarget : selection.target a with
  | error reason =>
    rw [htarget] at hcopying hmoving
    obtain ⟨⟨hcopy, -⟩, -⟩ := hcopying
    obtain ⟨⟨⟨hmove, -⟩, hcopied⟩, hslot, hall⟩ := hmoving
    refine ⟨_, _, .inl ⟨reason, Prod.ext hcopy rfl, Prod.ext hmove rfl, hslot⟩, hcopied, ?_⟩
    rw [hslot]
    exact ⟨fun hnone => (nomatch hnone), fun htakes => absurd htakes hall⟩
  | ok t =>
    rw [htarget] at hcopying hmoving
    obtain ⟨c, hcopy, hc, -⟩ := hcopying
    obtain ⟨b, hmove, hleaves, hcopied⟩ := hmoving
    have hb := hleaves.taken
    have hlower : b.lower = c.lower := Int64.toInt_inj.1 (hb.lower.trans hc.lower.symm)
    have hupper : b.upper = c.upper := by
      apply Int64.toInt_inj.1
      rw [hb.upper, hc.upper, List.length_map]
    refine ⟨_, _, .inr ⟨t, b, c, rfl, Prod.ext hcopy rfl, Prod.ext hmove rfl, hlower, hupper,
      hb.toList, ?_, ?_⟩, hcopied, hleaves.emptied⟩
    · rw [hc.toList, hb.toList]
    · intro rest hrest
      rw [hb.toList]
      exact ⟨hleaves.unchanged rest hrest, hleaves.kept rest hrest⟩

/-- Two of three values are moved out from the smallest position on; the third stays where it is. -/
theorem moved_slices_lowest :
    lowestThree.WellFormed ∧ Supply.ample.Generous ∧ Supply.ample.Lets lowestThree.toList.length
      ∧ ∃ b rest g, (moveHead (Position.least + 1)).run .ample (some lowestThree) = (.ok b, g)
        ∧ b.toList = [⟨10, 0⟩, ⟨20, 0⟩] ∧ g.tally.copied.toList = [] ∧ g.held = some rest
        ∧ rest.Holds (Position.least.toInt + 2) [⟨30, 0⟩] := by
  refine ⟨lowestThree_wellFormed, Supply.ample_generous, Supply.ample_lets _, ?_⟩
  obtain ⟨f, g, houtcome, hcopied, hslot⟩ := moved_slices lowestThree_wellFormed
    (.head (Position.least + 1)) () Supply.ample_generous (Supply.ample_lets _)
  obtain ⟨reason, hcopy, -⟩ | ⟨t, b, c, htarget, -, hmove, -, -, hb, -, hkept⟩ := houtcome
  · exact nomatch congrArg Prod.fst hcopy
  · cases htarget
    obtain ⟨rest, hrest⟩ := Option.ne_none_iff_exists'.1
      (mt hslot.1 fun htakes => absurd htakes.2 (by decide))
    exact ⟨b, rest, g, hmove, hb, hcopied, hrest, (hkept rest hrest).2 (hb ▸ by decide)⟩

end AnchoredArrays.Session
