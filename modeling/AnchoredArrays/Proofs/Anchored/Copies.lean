import AnchoredArrays.Proofs.Anchored.Shifting
import AnchoredArrays.Anchored.Copying

/-!
Copying slices. A slice first settles on a part of the array, by its number of slots, and the same
part is selected whether its elements are copied or moved out.

* `emptyFor_eq`: an empty array is made without a buffer, where it has an upper bound;
* `Part`, `headPart`, `tailPart`, `rangePart`, `runPart`: the part that a slice selects, and the
  reasons for which there is none;
* `copySlots_eq`, `copySlots_whole`: copies of consecutive elements take one buffer;
  `copySlots_allOrNothing`, `copy_allOrNothing`: they are a well-formed array;
* `copyHead_eq`, `copyTail_eq`, `copyRange_eq`, `copyRun_eq`: **a copying slice** copies its part.
-/

namespace AnchoredArrays.Anchored

open Element Call

variable {α σ : Type} [Element α] {supply : Supply} {operation : Operation}
  {a : Anchored α} {f : Frame σ α} {start n : Nat} {anchor : Int64}

/-! ### Empty arrays and consecutive slots -/

/-- An empty array has an upper bound unless it is anchored at the smallest position. -/
lemma emptyFor_eq (lower : Int64) :
    (emptyFor operation lower : Call σ α (Anchored α))
      = checked operation
          (if lower = Position.least then .error .noEmptyAnchor else .ok (laid lower [])) := by
  rw [emptyFor, Position.emptyAt]
  split_ifs with hlower
  · rfl
  · have hroom : Room α lower 0 := .zero hlower
    have hp := hroom.pred
    have hg := lower.toInt_lt
    have hupper : Int64.ofInt (lower.toInt - 1) = Position.maxOfCount lower (UInt64.ofNat 0) := by
      apply Int64.toInt_inj.1
      rw [hroom.toInt_upper, Int64.toInt_ofInt_of_le] <;>
        rw [Position.toInt_least] at hp <;> omega
    rw [checked_ok, checked_ok, pure_bind, obtain_zero, pure_bind,
      exactly_of_mem (by omega) (by rw [Position.toInt_greatest]; omega), pure_bind, hupper]
    rfl

/-- An empty array is well-formed, if there is one. -/
lemma emptyFor_allOrNothing (lower : Int64) :
    AllOrNothing (emptyFor operation lower : Call σ α (Anchored α))
      (fun b s => b.WellFormed ∧ s = f.held) supply f := by
  rw [emptyFor_eq]
  refine (AllOrNothing.checked operation _).mono fun b s hb => ⟨?_, hb.2⟩
  have hb := hb.1
  split_ifs at hb with hlower
  cases hb
  exact Room.wellFormed (.zero hlower)

/-- Copies of consecutive elements take one buffer. -/
lemma copySlots_eq (hn : start + n ≤ a.toList.length) (hroom : Room α anchor n) :
    (copySlots operation a start n anchor : Call σ α (Anchored α)) = (do
      obtain operation n
      let copies ← copyAll (.ofList ((a.toList.drop start).take n))
      pure ⟨anchor, Position.maxOfCount anchor (UInt64.ofNat n), copies⟩) := by
  have hs : a.slots.slice start n = .ofList ((a.toList.drop start).take n) :=
    Slots.eq_ofList (Slots.toList_slice ..)
  rw [copySlots, Buffer.readRun_of_le (by rwa [← length_toList]), hs]
  simp only [pure_bind, hroom.maxOf]

/-- Copies of a whole array, asked for as one buffer. -/
lemma copySlots_whole (h : a.WellFormed) :
    (copySlots operation a 0 a.toList.length a.lower : Call σ α (Anchored α)) = (do
      obtain operation a.toList.length
      let copies ← copyAll a.slots
      pure { a with slots := copies }) := by
  have hslots : Slots.ofList a.toList = a.slots := (Slots.eq_ofList rfl).symm
  have hupper : Position.maxOfCount a.lower (UInt64.ofNat a.toList.length) = a.upper :=
    (congrArg Anchored.upper h.eq_laid).symm
  rw [copySlots_eq (Nat.le_of_eq (Nat.zero_add _)) h.room, List.drop_zero, List.take_length,
    hslots, hupper]

/-- Copies of consecutive elements are an array of their own. -/
lemma copySlots_allOrNothing (hn : start + n ≤ a.toList.length) (hroom : Room α anchor n) :
    AllOrNothing (copySlots operation a start n anchor)
      (fun b s => b = laid anchor (((a.toList.drop start).take n).map Element.copy) ∧ s = f.held)
      supply f := by
  rw [copySlots_eq hn hroom]
  refine (AllOrNothing.obtain operation n).bind ?_
  intro _ g _ hg
  refine (AllOrNothing.copyAll _).bind fun copies g' hcopies hg' => .pure ⟨?_, by rw [hg', hg]⟩
  have hl : (((a.toList.drop start).take n).map Element.copy).length = n := by
    rw [List.length_map, List.length_take, List.length_drop]
    omega
  rw [hcopies, laid, hl]
  congr 1
  exact Slots.eq_ofList (by simp)

/-- A copy of a whole array breaks off where another copy fails. -/
lemma copy_allOrNothing (h : a.WellFormed) :
    AllOrNothing (copy a) (fun b s => b.WellFormed ∧ s = f.held) supply f := by
  have hslots : AllOrNothing (copySlots .copy a 0 a.toList.length a.lower)
      (fun b s => b = laid a.lower (((a.toList.drop 0).take a.toList.length).map Element.copy)
        ∧ s = f.held) supply f :=
    copySlots_allOrNothing (Nat.le_of_eq (Nat.zero_add _)) h.room
  obtain ⟨b, g, hrun, hb, hg⟩ | ⟨e, g, hrun, hheld, hexact⟩ := hslots.cases
  · refine .of_ok (r := b) (g := g) ?_ ⟨?_, hg⟩
    · rw [copy, h.length_eq', hrun]
    · rw [hb]
      apply Room.wellFormed
      rw [List.length_map, List.drop_zero, List.take_length]
      exact h.room
  · cases e with
    | failure e =>
      refine .of_error (e := .panic (.outOfMemory .copy)) ?_ hheld fun x hx => nomatch hx
      rw [copy, h.length_eq', hrun]
    | panic p => exact .of_error (by rw [copy, h.length_eq', hrun]) hheld hexact
    | fault x => exact (hexact x rfl).elim

/-! ### Parts -/

/-- A part of an array: its first slot, its number of slots, and the anchor for an array of its
elements. -/
structure Part where
  start : Nat
  count : Nat
  anchor : Int64

/-- The part is inside the array, and finds a place at its anchor if there is anything in it. -/
structure Part.Within (p : Part) (a : Anchored α) : Prop where
  le : p.start + p.count ≤ a.toList.length
  room : p.count ≠ 0 → Room α p.anchor p.count

/-- The elements of a part. -/
def Part.elements (p : Part) (a : Anchored α) : List α := (a.toList.drop p.start).take p.count

/-- The elements of a part inside an array are as many as it says. -/
lemma Part.Within.length_elements {p : Part} (hp : p.Within a) :
    (p.elements a).length = p.count := by
  have hle := hp.le
  rw [Part.elements, List.length_take, List.length_drop]
  omega

/-- The elements from the lower bound to `stop`. -/
def headPart (a : Anchored α) (stop : Int64) : Except Reason Part :=
  if stop.toInt < a.lower.toInt - 1 then .error .stopTooLow
  else .ok ⟨0, min (stop.toInt - a.lower.toInt + 1).toNat a.toList.length, a.lower⟩

/-- The elements from `start` to the upper bound, at their positions. -/
def tailPart (a : Anchored α) (start : Int64) : Except Reason Part :=
  if start.toInt < a.lower.toInt then .error .startTooLow
  else if start.toInt ≤ a.upper.toInt then
    .ok ⟨slotOf a.lower start, a.toList.length - slotOf a.lower start, start⟩
  else .ok ⟨a.toList.length, 0, a.lower⟩

/-- The elements from `start` to `stop`, anchored at the lower bound. -/
def rangePart (a : Anchored α) (start stop : Int64) : Except Reason Part :=
  if start.toInt < a.lower.toInt then .error .startTooLow
  else if min stop.toInt a.upper.toInt < start.toInt - 1 then .error .stopBeforeStart
  else .ok ⟨slotOf a.lower start, (min stop.toInt a.upper.toInt - start.toInt + 1).toNat, a.lower⟩

/-- Up to `n` elements from `start` on, anchored at the lower bound. -/
def runPart (a : Anchored α) (start n : Int64) : Except Reason Part :=
  if start.toInt < a.lower.toInt ∨ n.toInt < 0 then .error .badRun
  else
    let slot := min (slotOf a.lower start) a.toList.length
    .ok ⟨slot, min n.toInt.toNat (a.toList.length - slot), a.lower⟩

/-- Copies a part of an array. -/
def copyPart (operation : Operation) (a : Anchored α) (p : Part) : Call σ α (Anchored α) :=
  if p.count = 0 then emptyFor operation a.lower
  else copySlots operation a p.start p.count p.anchor

/-- A copied part is a well-formed array. -/
lemma copyPart_allOrNothing {p : Part} (hp : p.Within a) :
    AllOrNothing (copyPart operation a p) (fun b s => b.WellFormed ∧ s = f.held) supply f := by
  rw [copyPart]
  split_ifs with hcount
  · exact emptyFor_allOrNothing a.lower
  · refine (copySlots_allOrNothing hp.le (hp.room hcount)).mono fun b s hb => ⟨?_, hb.2⟩
    have hlength : ((p.elements a).map Element.copy).length = p.count := by
      rw [List.length_map, hp.length_elements]
    rw [hb.1, ← Part.elements]
    apply Room.wellFormed
    rw [hlength]
    exact hp.room hcount

/-- A slice that copies its part is all or nothing. -/
lemma sliced_allOrNothing {part : Except Reason Part} (hpart : ∀ p, part = .ok p → p.Within a)
    (arguments : List Argument) :
    AllOrNothing (do
        trace operation arguments
        let p ← checked operation part
        copyPart operation a p)
      (fun b s => b.WellFormed ∧ s = f.held) supply f := by
  refine .trace (.bind (.checked operation part) ?_)
  intro p g hp hg
  rw [Frame.leaving_held] at hg
  rw [← hg]
  exact copyPart_allOrNothing (hpart p hp)

/-! ### The parts that slices select -/

/-- A part anchored at the lower bound finds a place. -/
lemma WellFormed.within (h : a.WellFormed) {start n : Nat} (hn : start + n ≤ a.toList.length) :
    (⟨start, n, a.lower⟩ : Part).Within a :=
  ⟨hn, fun hpos =>
    h.room.of_le (Nat.le_trans (Nat.le_add_left n start) hn) fun hz => absurd hz hpos⟩

lemma headPart_within (h : a.WellFormed) {stop : Int64} {p : Part}
    (hp : headPart a stop = .ok p) : p.Within a := by
  rw [headPart] at hp
  split_ifs at hp
  cases hp
  exact h.within (by omega)

lemma tailPart_within (h : a.WellFormed) {start : Int64} {p : Part}
    (hp : tailPart a start = .ok p) : p.Within a := by
  rw [tailPart] at hp
  have hu := h.toInt_upper
  split_ifs at hp with hlow hup
  · cases hp
    have hslot : (slotOf a.lower start : Int) = start.toInt - a.lower.toInt := by
      simp only [slotOf]
      omega
    have hroom := h.room
    refine ⟨by dsimp only; omega, fun hpos => ⟨?_, ?_, fun hz => absurd hz hpos⟩⟩
    · exact Nat.le_trans (Nat.sub_le ..) hroom.fits
    · have he := hroom.ends
      dsimp only
      omega
  · cases hp
    exact h.within (Nat.le_refl _)

lemma rangePart_within (h : a.WellFormed) {start stop : Int64} {p : Part}
    (hp : rangePart a start stop = .ok p) : p.Within a := by
  rw [rangePart] at hp
  have hu := h.toInt_upper
  split_ifs at hp with hlow hstop
  cases hp
  refine h.within ?_
  simp only [slotOf]
  omega

lemma runPart_within (h : a.WellFormed) {start n : Int64} {p : Part}
    (hp : runPart a start n = .ok p) : p.Within a := by
  rw [runPart] at hp
  split_ifs at hp
  cases hp
  exact h.within (by omega)

/-! ### The copying slices -/

/-- A head has elements if the array has some and they start at or before its end. -/
lemma WellFormed.head_iff (h : a.WellFormed) (stop : Int64) :
    (a.lower ≤ stop ∧ a.isEmpty = false)
      ↔ min (stop.toInt - a.lower.toInt + 1).toNat a.toList.length ≠ 0 := by
  rw [Int64.le_iff_toInt_le, ← Bool.not_eq_true, h.isEmpty_iff']
  omega

/-- **A copying head** copies the head. -/
lemma copyHead_eq (h : a.WellFormed) (stop : Int64) :
    (copyHead a stop : Call σ α (Anchored α)) = (do
      trace .copyHead [a.bounds, .position stop]
      let p ← checked .copyHead (headPart a stop)
      copyPart .copyHead a p) := by
  have hu := h.toInt_upper
  have hword := h.room.lt_word
  obtain ⟨n, hn⟩ : ∃ n, n = min (stop.toInt - a.lower.toInt + 1).toNat a.toList.length := ⟨_, rfl⟩
  rw [copyHead, headPart, ← hn]
  congr 1
  funext _
  by_cases hsome : a.lower ≤ stop ∧ a.isEmpty = false
  · have hpos : n ≠ 0 := hn ▸ (h.head_iff stop).1 hsome
    have hcount : (n : Int) = (min stop a.upper).toInt - a.lower.toInt + 1 := by
      rw [Position.toInt_min]
      omega
    rw [if_pos hsome, if_neg (by omega), countOf_of_le hcount (by omega), checked_ok, pure_bind,
      pure_bind, copyPart, if_neg hpos]
  rw [if_neg hsome, belowPred_eq, pure_bind]
  by_cases hbelow : stop.toInt < a.lower.toInt - 1
  · rw [if_pos (by simpa using hbelow), if_pos hbelow, checked_error, fail_bind]
  · have hnone : n = 0 := by
      rw [hn]
      exact not_not.1 (mt (h.head_iff stop).2 hsome)
    rw [if_neg (by simpa using hbelow), if_neg hbelow, checked_ok, pure_bind, copyPart,
      if_pos hnone]

/-- **A copying tail** copies the tail. -/
lemma copyTail_eq (h : a.WellFormed) (start : Int64) :
    (copyTail a start : Call σ α (Anchored α)) = (do
      trace .copyTail [a.bounds, .position start]
      let p ← checked .copyTail (tailPart a start)
      copyPart .copyTail a p) := by
  have hu := h.toInt_upper
  have hword := h.room.lt_word
  rw [copyTail, tailPart]
  congr 1
  funext _
  by_cases hlow : start < a.lower
  · rw [if_pos hlow, if_pos (Int64.lt_iff_toInt_lt.1 hlow), checked_error, fail_bind]
  rw [if_neg hlow]
  rw [Int64.lt_iff_toInt_lt] at hlow
  rw [if_neg hlow]
  by_cases hup : start ≤ a.upper
  · have hup' := Int64.le_iff_toInt_le.1 hup
    have hslot : (slotOf a.lower start : Int) = start.toInt - a.lower.toInt := by
      simp only [slotOf]
      omega
    have hcount : ((a.toList.length - slotOf a.lower start : Nat) : Int)
        = a.upper.toInt - start.toInt + 1 := by omega
    rw [if_pos hup, if_pos hup', offsetOf_of_le (by omega), countOf_of_le hcount (by omega),
      checked_ok, pure_bind, pure_bind, pure_bind, copyPart, if_neg (by dsimp only; omega)]
    rfl
  · rw [if_neg hup, if_neg (mt Int64.le_iff_toInt_le.2 hup), checked_ok, pure_bind, copyPart,
      if_pos rfl]

/-- The check of the number of elements of a range. -/
lemma rangeLength_eq (h : a.WellFormed) {start : Int64} (hlow : a.lower.toInt ≤ start.toInt)
    (stop : Int64) :
    (rangeLength operation a start stop : Call σ α Nat)
      = checked operation
          (if min stop.toInt a.upper.toInt < start.toInt - 1 then .error .stopBeforeStart
          else .ok (min stop.toInt a.upper.toInt - start.toInt + 1).toNat) := by
  have hu := h.toInt_upper
  have hword := h.room.lt_word
  rw [rangeLength, belowPred_eq, pure_bind, Position.toInt_min]
  by_cases hstop : min stop.toInt a.upper.toInt < start.toInt - 1
  · rw [if_pos (by simpa using hstop), if_pos hstop, checked_error]
  · rw [if_neg (by simpa using hstop), if_neg hstop, checked_ok]
    refine countOf_of_le ?_ (by omega)
    rw [Position.toInt_min]
    omega

/-- **A copying range** copies the range. -/
lemma copyRange_eq (h : a.WellFormed) (start stop : Int64) :
    (copyRange a start stop : Call σ α (Anchored α)) = (do
      trace .copyRange [a.bounds, .position start, .position stop]
      let p ← checked .copyRange (rangePart a start stop)
      copyPart .copyRange a p) := by
  rw [copyRange, rangePart]
  congr 1
  funext _
  by_cases hlow : start < a.lower
  · rw [if_pos hlow, if_pos (Int64.lt_iff_toInt_lt.1 hlow), checked_error, fail_bind]
  rw [if_neg hlow]
  rw [Int64.lt_iff_toInt_lt] at hlow
  rw [if_neg hlow, rangeLength_eq h (by omega)]
  split_ifs with hstop
  · rw [checked_error, checked_error, fail_bind, fail_bind]
  · rw [checked_ok, checked_ok, pure_bind, pure_bind, copyPart, offsetOf_of_le (by omega)]
    rfl

/-- The number of elements of a run, if there are any. -/
lemma runLength_eq (h : a.WellFormed) {start n : Int64} (hlow : a.lower.toInt ≤ start.toInt)
    (hn : 0 ≤ n.toInt) {m : Nat}
    (hm : m = min n.toInt.toNat (a.toList.length - slotOf a.lower start)) :
    (runLength a start n : Call σ α (Option Nat)) = pure (if m = 0 then none else some m) := by
  have hu := h.toInt_upper
  have hword := h.room.lt_word
  simp only [slotOf] at hm
  rw [runLength]
  by_cases hsome : n ≠ 0 ∧ start ≤ a.upper ∧ a.isEmpty = false
  · have hup := Int64.le_iff_toInt_le.1 hsome.2.1
    have hpos : n.toInt ≠ (0 : Int64).toInt := mt Int64.toInt_inj.1 hsome.1
    have hcount : ((a.toList.length - slotOf a.lower start : Nat) : Int)
        = a.upper.toInt - start.toInt + 1 := by
      simp only [slotOf]
      omega
    rw [Int64.toInt_zero] at hpos
    rw [if_pos hsome, countOf_of_le hcount (by omega), pure_bind, requested_of_nonneg hn,
      pure_bind, slotOf, if_neg (by omega), hm]
  · have hzero : m = 0 := by
      by_contra hne
      refine hsome ⟨?_, Int64.le_iff_toInt_le.2 (by omega), ?_⟩
      · intro hz
        rw [hz, Int64.toInt_zero] at hm
        omega
      · rw [← Bool.not_eq_true]
        exact mt h.isEmpty_iff'.1 (by omega)
    rw [if_neg hsome, if_pos hzero]

/-- **A copying run** copies the run. -/
lemma copyRun_eq (h : a.WellFormed) (start n : Int64) :
    (copyRun a start n : Call σ α (Anchored α)) = (do
      trace .copyRun [a.bounds, .position start, .position n]
      let p ← checked .copyRun (runPart a start n)
      copyPart .copyRun a p) := by
  rw [copyRun, runPart]
  congr 1
  funext _
  simp only [Int64.lt_iff_toInt_lt, Int64.toInt_zero]
  by_cases hbad : start.toInt < a.lower.toInt ∨ n.toInt < 0
  · rw [if_pos hbad, if_pos hbad, checked_error, fail_bind]
  obtain ⟨hlow, hn⟩ := not_or.1 hbad
  rw [if_neg hbad, if_neg hbad, runLength_eq h (Int.not_lt.1 hlow) (Int.not_lt.1 hn) rfl,
    checked_ok, pure_bind, pure_bind, copyPart]
  by_cases hzero : min n.toInt.toNat (a.toList.length - slotOf a.lower start) = 0
  · rw [if_pos hzero, if_pos (by dsimp only; omega)]
  · have hslot : min (slotOf a.lower start) a.toList.length = slotOf a.lower start := by omega
    rw [if_neg hzero, if_neg (by dsimp only; omega), hslot]
    dsimp only
    rw [offsetOf_of_le (Int.not_lt.1 hlow), pure_bind]
    rfl

end AnchoredArrays.Anchored
