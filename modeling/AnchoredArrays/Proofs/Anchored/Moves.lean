import AnchoredArrays.Proofs.Anchored.Copies
import AnchoredArrays.Proofs.Anchored.Removal

/-!
Moving slices. A moving slice selects the same part as the copying one, and takes it out of the
array in a slot: nothing of it, and the slot stays as it is; all of it, and the slot is empty
afterwards; or a proper part, for which it asks for two buffers.

* `moving`: the plan for taking a part out of a slot, and `moving_wellFormed`;
* `moveHead_eq`, `moveTail_eq`, `moveRange_eq`, `moveRun_eq`: **a moving slice** carries out the
  plan for its part;
* `moveHead_allOrNothing` and its companions: what a slot holds stays well-formed.
-/

namespace AnchoredArrays.Anchored

open Element Call

variable {α σ : Type} [Element α] {supply : Supply} {operation : Operation}
  {a : Anchored α} {f : Frame (Option (Anchored α)) α} {start n : Nat} {p : Part}

/-! ### The plan -/

/-- The plan for moving a part out of a slot. What stays of a proper part's array is closed up and
anchored at `kept`. -/
def moving (a : Anchored α) (p : Part) (buffers : List Nat) (kept : Int64) :
    Except Reason (Plan (Option (Anchored α)) (Anchored α)) :=
  if p.count = 0 then
    if a.lower = Position.least then .error .noEmptyAnchor
    else .ok ⟨[], some a, laid a.lower []⟩
  else if p.count = a.toList.length then .ok ⟨[], none, a⟩
  else
    .ok ⟨buffers, some (laid kept (a.toList.take p.start ++ a.toList.drop (p.start + p.count))),
      laid p.anchor (p.elements a)⟩

/-- A slice that moves its part leaves well-formed arrays. -/
lemma moving_wellFormed (h : a.WellFormed) (hp : p.Within a) {buffers : List Nat} {kept : Int64}
    (hkept : p.count ≠ 0 → p.count ≠ a.toList.length → Room α kept (a.toList.length - p.count))
    {q : Plan (Option (Anchored α)) (Anchored α)} (hq : moving a p buffers kept = .ok q) :
    q.result.WellFormed ∧ ∀ b, q.after = some b → b.WellFormed := by
  rw [moving] at hq
  split_ifs at hq with hnone hleast hall
  · cases hq
    refine ⟨Room.wellFormed (.zero hleast), ?_⟩
    intro b hb
    cases hb
    exact h
  · cases hq
    exact ⟨h, fun b hb => nomatch hb⟩
  · cases hq
    refine ⟨?_, ?_⟩
    · apply Room.wellFormed
      rw [hp.length_elements]
      exact hp.room hnone
    · intro b hb
      cases hb
      have hle := hp.le
      have hlength : (a.toList.take p.start ++ a.toList.drop (p.start + p.count)).length
          = a.toList.length - p.count := by
        simp only [List.length_append, List.length_take, List.length_drop]
        omega
      apply Room.wellFormed
      rw [hlength]
      exact hkept hnone hall

/-! ### What a slot does -/

lemma inspect_bind (hslot : f.held = some a)
    {next : Anchored α → Call (Option (Anchored α)) α (Anchored α)} :
    (inspect operation >>= next) supply f = next a supply f := by
  rw [inspect, bind_assoc, held_bind, hslot]
  rfl

/-- An empty slot makes the call break off. -/
lemma inspect_none (hslot : f.held = none)
    {next : Anchored α → Call (Option (Anchored α)) α (Anchored α)}
    {post : Anchored α → Option (Anchored α) → Prop} :
    AllOrNothing (inspect operation >>= next) post supply f := by
  have hpanic : (inspect operation >>= next) supply f
      = (Call.panic (.consumed operation) : Call _ α _) supply f := by
    rw [inspect, bind_assoc, held_bind, hslot]
    rfl
  exact .of_eq hpanic (.panic _)

/-- A whole array is handed over. -/
lemma takeOut_eq (hslot : f.held = some a) :
    takeOut operation supply f = carryOut operation (.ok ⟨[], none, a⟩) supply f := by
  rw [takeOut, inspect_bind hslot]
  rfl

/-- An empty array is made beside the one in the slot. -/
lemma emptyFor_carryOut (hslot : f.held = some a) :
    emptyFor operation a.lower supply f
      = carryOut operation
          (if a.lower = Position.least then .error .noEmptyAnchor
          else .ok ⟨[], some a, laid a.lower []⟩) supply f := by
  rw [emptyFor_eq, ← hslot]
  split_ifs
  · rfl
  · rfl

/-- Nothing is moved, the whole array, or a run that is cut out of it. -/
lemma cutPart_eq (hslot : f.held = some a) (h : a.WellFormed)
    (hn : start + n ≤ a.toList.length) :
    (if n = 0 then emptyFor operation a.lower
      else if n = a.toList.length then takeOut operation
      else inSlot operation (cutRun operation start n)) supply f
      = carryOut operation
          (moving a ⟨start, n, a.lower⟩ [n, a.toList.length - n] a.lower) supply f := by
  rw [moving]
  split_ifs with hnone hleast hall
  · rw [emptyFor_carryOut hslot, if_pos hleast]
  · rw [emptyFor_carryOut hslot, if_neg hleast]
  · exact takeOut_eq hslot
  · refine inSlot_carryOut operation ⟨[n, a.toList.length - n], laid _ _, laid _ _⟩ hslot ?_
    intro g hg
    subst hg
    exact cutRun_slots h hn fun hends => absurd hends (by omega)

/-! ### The moving slices -/

/-- The plan of a moving head: what is behind the head moves into a buffer of its own, and the head
is what the shortened buffer holds. -/
def headMove (a : Anchored α) (stop : Int64) :
    Except Reason (Plan (Option (Anchored α)) (Anchored α)) := do
  let p ← headPart a stop
  moving a p [a.toList.length - p.count, p.count] (Int64.ofInt (stop.toInt + 1))

/-- The plan of a moving tail. Everything is handed over from the lower bound on, also if there is
no element. -/
def tailMove (a : Anchored α) (start : Int64) :
    Except Reason (Plan (Option (Anchored α)) (Anchored α)) :=
  if start.toInt = a.lower.toInt then .ok ⟨[], none, a⟩
  else do
    let p ← tailPart a start
    moving a p [p.count, a.toList.length - p.count] a.lower

/-- The plan of a moving range or run. -/
def partMove (a : Anchored α) (part : Except Reason Part) :
    Except Reason (Plan (Option (Anchored α)) (Anchored α)) := do
  let p ← part
  moving a p [p.count, a.toList.length - p.count] a.lower

/-- The elements in front of a slot stay, those behind are moved out. -/
lemma moveOut_shrinkTo {g : Frame (Anchored α) α} {anchor : Int64} (h : g.held.WellFormed)
    (hn : n ≤ g.held.toList.length) (hpos : n ≠ 0)
    (hroom : Room α anchor (g.held.toList.length - n)) {after r : Anchored α}
    {next : Anchored α → Call (Anchored α) α (Anchored α)}
    (hnext : ∀ g' : Frame (Anchored α) α,
      g'.held = laid g.held.lower (g.held.toList.take n) →
      next (laid anchor (g.held.toList.drop n)) supply g' = (.ok r, { g' with held := after })) :
    (do
        let out ← moveOut operation g.held n (g.held.toList.length - n) anchor
        shrinkTo operation n
        next out) supply g
      = carryOut operation (.ok ⟨[g.held.toList.length - n, n], after, r⟩) supply g := by
  have hout : (g.held.toList.drop n).take (g.held.toList.length - n) = g.held.toList.drop n :=
    List.take_of_length_le (Nat.le_of_eq (List.length_drop ..))
  rw [carryOut_cons, moveOut_eq (by omega) hroom, hout]
  simp only [bind_assoc, pure_bind]
  refine obtain_bind_congr ?_
  intro g' hg'
  rw [← hg'] at h hn hroom hnext ⊢
  rw [bind_congr_left _ (shrinkTo_eq hn (h.room.of_le hn fun hz => absurd hz hpos))]
  exact carryOut_bind operation _ hnext

/-- What is behind a head finds a place behind its end. -/
lemma WellFormed.room_behind (h : a.WellFormed) {stop : Int64}
    (hn : (n : Int) = stop.toInt - a.lower.toInt + 1) (hlt : n < a.toList.length) :
    Room α (Int64.ofInt (stop.toInt + 1)) (a.toList.length - n) := by
  have hu := h.toInt_upper
  have hl := a.lower.le_toInt
  have hg := a.upper.toInt_lt
  have hnext : (Int64.ofInt (stop.toInt + 1)).toInt = stop.toInt + 1 :=
    Int64.toInt_ofInt_of_le (by omega) (by omega)
  refine ⟨Nat.le_trans (Nat.sub_le ..) h.room.fits, ?_, fun hz => absurd hz (by omega)⟩
  rw [hnext, Position.toInt_greatest]
  omega

/-- A proper head is split off: what is behind it moves out, and then the two change places. -/
lemma splitHead_eq (hslot : f.held = some a) (h : a.WellFormed) {stop : Int64}
    (hn : (n : Int) = stop.toInt - a.lower.toInt + 1) (hpos : n ≠ 0) (hlt : n < a.toList.length) :
    (inSlot .moveHead do
        let n ← countOf a.lower stop
        let behind ← minus a.length n
        let next ← exactly (stop.toInt + 1)
        let rest ← moveOut .moveHead a n behind next
        shrinkTo .moveHead n
        let front ← held
        hold rest
        pure front) supply f
      = carryOut .moveHead (moving a ⟨0, n, a.lower⟩ [a.toList.length - n, n]
          (Int64.ofInt (stop.toInt + 1))) supply f := by
  have hu := h.toInt_upper
  have hword := h.room.lt_word
  have hl := a.lower.le_toInt
  have hg := a.upper.toInt_lt
  rw [moving, if_neg hpos, if_neg (Nat.ne_of_lt hlt)]
  refine inSlot_carryOut _ ⟨[a.toList.length - n, n], laid _ _, laid _ _⟩ hslot ?_
  intro g hg
  subst hg
  have hroom : Room α (Int64.ofInt (stop.toInt + 1)) (g.held.toList.length - n) :=
    h.room_behind hn hlt
  rw [countOf_of_le hn (by omega), pure_bind, h.length_eq', minus_of_le (by omega), pure_bind,
    exactly_of_mem (by rw [Position.toInt_least]; omega) (by rw [Position.toInt_greatest]; omega),
    pure_bind, Nat.zero_add]
  refine moveOut_shrinkTo h (by omega) hpos hroom ?_
  intro g' hg'
  rw [held_bind, hg']
  rfl

/-- **A moving head** carries out its plan. -/
lemma moveHead_eq (hslot : f.held = some a) (h : a.WellFormed) (stop : Int64) :
    moveHead stop supply f = (do
      trace .moveHead [a.bounds, .position stop]
      carryOut .moveHead (headMove a stop)) supply f := by
  have hu := h.toInt_upper
  obtain ⟨n, hn⟩ : ∃ n, n = min (stop.toInt - a.lower.toInt + 1).toNat a.toList.length := ⟨_, rfl⟩
  rw [moveHead, inspect_bind hslot, trace_bind, trace_bind, headMove, headPart, ← hn]
  by_cases hsome : a.lower ≤ stop ∧ a.isEmpty = false
  · have hpos : n ≠ 0 := hn ▸ (h.head_iff stop).1 hsome
    rw [if_pos hsome, if_neg (show ¬ stop.toInt < a.lower.toInt - 1 by omega)]
    change _ = carryOut _ (moving a ⟨0, n, a.lower⟩ [a.toList.length - n, n] _) _ _
    by_cases hall : a.upper ≤ stop
    · have hup := Int64.le_iff_toInt_le.1 hall
      rw [if_pos hall, moving, if_neg hpos, if_pos (show n = a.toList.length by omega)]
      exact takeOut_eq (f := f.leaving _) hslot
    · have hup := mt Int64.le_iff_toInt_le.2 hall
      rw [if_neg hall]
      exact splitHead_eq (f := f.leaving _) hslot h (by omega) hpos (by omega)
  rw [if_neg hsome, belowPred_eq, pure_bind]
  by_cases hbelow : stop.toInt < a.lower.toInt - 1
  · rw [if_pos (by simpa using hbelow), if_pos hbelow]
    rfl
  · have hnone : n = 0 := by
      rw [hn]
      exact not_not.1 (mt (h.head_iff stop).2 hsome)
    rw [if_neg (by simpa using hbelow), if_neg hbelow]
    change _ = carryOut _ (moving a ⟨0, n, a.lower⟩ [a.toList.length - n, n] _) _ _
    rw [moving, if_pos hnone]
    exact emptyFor_carryOut (f := f.leaving _) hslot

/-- A proper tail is split off: it moves out, and what is in front of it stays. -/
lemma splitTail_eq (hslot : f.held = some a) (h : a.WellFormed) {start : Int64}
    (hn : (n : Int) = start.toInt - a.lower.toInt) (hpos : n ≠ 0) (hlt : n < a.toList.length) :
    (inSlot .moveTail do
        let n ← offsetOf a.lower start
        let behind ← minus a.length n
        let out ← moveOut .moveTail a n behind start
        shrinkTo .moveTail n
        pure out) supply f
      = carryOut .moveTail (moving a ⟨n, a.toList.length - n, start⟩
          [a.toList.length - n, a.toList.length - (a.toList.length - n)] a.lower) supply f := by
  have hfront : a.toList.length - (a.toList.length - n) = n := by omega
  have htail : (⟨n, a.toList.length - n, start⟩ : Part).elements a = a.toList.drop n :=
    List.take_of_length_le (Nat.le_of_eq (List.length_drop ..))
  have hoffset : (start.toInt - a.lower.toInt).toNat = n := by omega
  rw [moving, if_neg (show a.toList.length - n ≠ 0 by omega),
    if_neg (show a.toList.length - n ≠ a.toList.length by omega), hfront, htail,
    show n + (a.toList.length - n) = a.toList.length by omega, List.drop_length, List.append_nil]
  refine inSlot_carryOut _ ⟨[a.toList.length - n, n], laid _ _, laid _ _⟩ hslot ?_
  intro g hg
  subst hg
  have hroom : Room α start (g.held.toList.length - n) := by
    have hends := h.room.ends
    exact ⟨Nat.le_trans (Nat.sub_le ..) h.room.fits, by omega, fun hz => absurd hz (by omega)⟩
  rw [offsetOf_of_le (by omega), pure_bind, hoffset, h.length_eq', minus_of_le (by omega),
    pure_bind]
  refine moveOut_shrinkTo h (by omega) hpos hroom ?_
  intro g' hg'
  rw [← hg']
  rfl

/-- **A moving tail** carries out its plan. -/
lemma moveTail_eq (hslot : f.held = some a) (h : a.WellFormed) (start : Int64) :
    moveTail start supply f = (do
      trace .moveTail [a.bounds, .position start]
      carryOut .moveTail (tailMove a start)) supply f := by
  have hu := h.toInt_upper
  rw [moveTail, inspect_bind hslot, trace_bind, trace_bind, tailMove, tailPart]
  by_cases hlow : start < a.lower
  · have hlow' := Int64.lt_iff_toInt_lt.1 hlow
    rw [if_pos hlow, if_neg (by omega), if_pos hlow']
    rfl
  rw [if_neg hlow]
  rw [Int64.lt_iff_toInt_lt] at hlow
  by_cases hall : start = a.lower
  · rw [if_pos hall, if_pos (congrArg Int64.toInt hall)]
    exact takeOut_eq (f := f.leaving _) hslot
  have hne : start.toInt ≠ a.lower.toInt := mt Int64.toInt_inj.1 hall
  rw [if_neg hall, if_neg hne, if_neg hlow]
  by_cases hup : start ≤ a.upper
  · have hup' := Int64.le_iff_toInt_le.1 hup
    have hn : (slotOf a.lower start : Int) = start.toInt - a.lower.toInt := by
      simp only [slotOf]
      omega
    rw [if_pos hup, if_pos hup']
    exact splitTail_eq (f := f.leaving _) hslot h hn (by omega) (by omega)
  · rw [if_neg hup, if_neg (mt Int64.le_iff_toInt_le.2 hup)]
    change _ = carryOut _ (moving a ⟨a.toList.length, 0, a.lower⟩ [0, a.toList.length - 0] a.lower)
      _ _
    rw [moving, if_pos rfl]
    exact emptyFor_carryOut (f := f.leaving _) hslot

/-- **A moving range** carries out its plan. -/
lemma moveRange_eq (hslot : f.held = some a) (h : a.WellFormed) (start stop : Int64) :
    moveRange start stop supply f = (do
      trace .moveRange [a.bounds, .position start, .position stop]
      carryOut .moveRange (partMove a (rangePart a start stop))) supply f := by
  have hu := h.toInt_upper
  rw [moveRange, inspect_bind hslot, trace_bind, trace_bind, partMove, rangePart]
  by_cases hlow : start < a.lower
  · rw [if_pos hlow, if_pos (Int64.lt_iff_toInt_lt.1 hlow)]
    rfl
  rw [if_neg hlow]
  rw [Int64.lt_iff_toInt_lt] at hlow
  rw [if_neg hlow, rangeLength_eq h (by omega)]
  by_cases hstop : min stop.toInt a.upper.toInt < start.toInt - 1
  · rw [if_pos hstop, if_pos hstop]
    rfl
  obtain ⟨n, hn⟩ : ∃ n, n = (min stop.toInt a.upper.toInt - start.toInt + 1).toNat := ⟨_, rfl⟩
  rw [if_neg hstop, if_neg hstop, checked_ok, pure_bind, ← hn]
  change _ = carryOut _ (moving a ⟨slotOf a.lower start, n, a.lower⟩ [n, a.toList.length - n]
    a.lower) _ _
  rw [h.length_eq', offsetOf_of_le (by omega), pure_bind]
  exact cutPart_eq (f := f.leaving _) hslot h (by omega)

/-- **A moving run** carries out its plan. -/
lemma moveRun_eq (hslot : f.held = some a) (h : a.WellFormed) (start n : Int64) :
    moveRun start n supply f = (do
      trace .moveRun [a.bounds, .position start, .position n]
      carryOut .moveRun (partMove a (runPart a start n))) supply f := by
  rw [moveRun, inspect_bind hslot, trace_bind, trace_bind, partMove, runPart]
  simp only [Int64.lt_iff_toInt_lt, Int64.toInt_zero]
  by_cases hbad : start.toInt < a.lower.toInt ∨ n.toInt < 0
  · rw [if_pos hbad, if_pos hbad]
    rfl
  obtain ⟨hlow, hn⟩ := not_or.1 hbad
  obtain ⟨slot, hs⟩ : ∃ slot, slot = min (slotOf a.lower start) a.toList.length := ⟨_, rfl⟩
  obtain ⟨m, hm⟩ : ∃ m, m = min n.toInt.toNat (a.toList.length - slot) := ⟨_, rfl⟩
  rw [if_neg hbad, if_neg hbad, ← hs, ← hm,
    runLength_eq h (Int.not_lt.1 hlow) (Int.not_lt.1 hn) (show m = _ by omega), pure_bind,
    h.length_eq', offsetOf_of_le (Int.not_lt.1 hlow)]
  refine .trans ?_ (cutPart_eq (f := f.leaving _) hslot h
    (show slot + m ≤ a.toList.length by omega))
  by_cases hnone : m = 0
  · rw [if_pos hnone, if_pos hnone]
  · have hslot' : slot = slotOf a.lower start := by omega
    rw [if_neg hnone, if_neg hnone, hslot']
    rfl

/-! ### All or nothing -/

/-- What holds of a plan for every part that may be selected holds of the plan for a slice. -/
lemma plan_of_part {part : Except Reason Part} {P : Plan (Option (Anchored α)) (Anchored α) → Prop}
    {plan : Part → Except Reason (Plan (Option (Anchored α)) (Anchored α))}
    (hplan : ∀ p, part = .ok p → ∀ q, plan p = .ok q → P q) :
    ∀ q, (part >>= plan) = .ok q → P q := by
  intro q hq
  cases hpart : part with
  | error reason =>
    rw [hpart] at hq
    cases hq
  | ok p =>
    rw [hpart] at hq
    exact hplan p hpart q hq

/-- What stays of an array whose anchor does not move finds a place. -/
lemma WellFormed.room_kept (h : a.WellFormed) (hpart : n ≠ a.toList.length)
    (hle : n ≤ a.toList.length) : Room α a.lower (a.toList.length - n) :=
  h.room.of_le (Nat.sub_le ..) fun hz => absurd hz (by omega)

lemma moveHead_allOrNothing (hslot : f.held = some a) (h : a.WellFormed) (stop : Int64) :
    AllOrNothing (moveHead stop)
      (fun b slot => b.WellFormed ∧ ∀ c, slot = some c → c.WellFormed) supply f := by
  refine .of_eq (moveHead_eq hslot h stop) (.trace (carryOut_allOrNothing _ ?_))
  refine plan_of_part fun p hp q hq =>
    moving_wellFormed h (headPart_within h hp) (?_) hq
  intro hnone hpart
  rw [headPart] at hp
  split_ifs at hp
  cases hp
  exact h.room_behind (by dsimp only at *; omega) (by dsimp only at *; omega)

lemma moveTail_allOrNothing (hslot : f.held = some a) (h : a.WellFormed) (start : Int64) :
    AllOrNothing (moveTail start)
      (fun b slot => b.WellFormed ∧ ∀ c, slot = some c → c.WellFormed) supply f := by
  refine .of_eq (moveTail_eq hslot h start) (.trace (carryOut_allOrNothing _ ?_))
  intro q hq
  rw [tailMove] at hq
  split_ifs at hq with hall
  · cases hq
    exact ⟨h, fun b hb => nomatch hb⟩
  · refine plan_of_part (fun p hp q hq => moving_wellFormed h (tailPart_within h hp)
      (fun _ hpart => h.room_kept hpart ?_) hq) q hq
    exact Nat.le_trans (Nat.le_add_left ..) (tailPart_within h hp).le

/-- A range or a run that is moved out leaves a well-formed array. -/
lemma partMove_allOrNothing {part : Except Reason Part} (h : a.WellFormed)
    (hpart : ∀ p, part = .ok p → p.Within a) :
    AllOrNothing (carryOut operation (partMove a part))
      (fun b slot => b.WellFormed ∧ ∀ c, slot = some c → c.WellFormed) supply f :=
  carryOut_allOrNothing _ <| plan_of_part fun p hp _ hq =>
    moving_wellFormed h (hpart p hp) (fun _ hne => h.room_kept hne
      (Nat.le_trans (Nat.le_add_left ..) (hpart p hp).le)) hq

lemma moveRange_allOrNothing (hslot : f.held = some a) (h : a.WellFormed) (start stop : Int64) :
    AllOrNothing (moveRange start stop)
      (fun b slot => b.WellFormed ∧ ∀ c, slot = some c → c.WellFormed) supply f :=
  .of_eq (moveRange_eq hslot h start stop)
    (.trace (partMove_allOrNothing h fun _ hp => rangePart_within h hp))

lemma moveRun_allOrNothing (hslot : f.held = some a) (h : a.WellFormed) (start n : Int64) :
    AllOrNothing (moveRun start n)
      (fun b slot => b.WellFormed ∧ ∀ c, slot = some c → c.WellFormed) supply f :=
  .of_eq (moveRun_eq hslot h start n)
    (.trace (partMove_allOrNothing h fun _ hp => runPart_within h hp))

end AnchoredArrays.Anchored
