import AnchoredArrays.Proofs.Anchored.Contents
import AnchoredArrays.Proofs.Anchored.Copies
import AnchoredArrays.Session.Action

/-!
What a slice selects, said over the unbounded integers: the first and the last position, and the
anchor for an array of the elements there; or the reason for which there is no such array.

* `Target`, `Selection.target`: the positions that a slice selects;
* `Placed`, `Reaches`, `Selection.part_reaches`: **the part of the slots** that a slice settles on
  holds the elements at these positions.
-/

namespace AnchoredArrays.Session

open Element Anchored

variable {α : Type} [Element α] {a : Anchored α}

/-- The positions from `first` to `last`, of which there are none if `last` is smaller, and the
anchor for an array of the elements at them. -/
structure Target where
  first : Int
  last : Int
  anchor : Int64

namespace Selection

/-- The positions that a slice selects. An empty selection needs an anchor as well, which the
smallest position cannot be; that of a tail behind the last position is the lower bound. -/
def target (a : Anchored α) : Selection → Except Reason Target
  | .head stop =>
    if stop.toInt < a.lower.toInt - 1 then .error .stopTooLow
    else .ok ⟨a.lower.toInt, min stop.toInt a.upper.toInt, a.lower⟩
  | .tail start =>
    if start.toInt < a.lower.toInt then .error .startTooLow
    else if a.upper.toInt < start.toInt ∧ a.lower = Position.least then .error .noEmptyAnchor
    else .ok ⟨start.toInt, a.upper.toInt, if a.upper.toInt < start.toInt then a.lower else start⟩
  | .range start stop =>
    let last := min stop.toInt a.upper.toInt
    if start.toInt < a.lower.toInt then .error .startTooLow
    else if last < start.toInt - 1 then .error .stopBeforeStart
    else if last = start.toInt - 1 ∧ a.lower = Position.least then .error .noEmptyAnchor
    else .ok ⟨start.toInt, last, a.lower⟩
  | .run start n =>
    if start.toInt < a.lower.toInt ∨ n.toInt < 0 then .error .badRun
    else if (n.toInt = 0 ∨ a.upper.toInt < start.toInt) ∧ a.lower = Position.least then
      .error .noEmptyAnchor
    else .ok ⟨start.toInt, min (start.toInt + n.toInt - 1) a.upper.toInt, a.lower⟩

/-- The part of the slots that a slice settles on. -/
def part (a : Anchored α) : Selection → Except Reason Part
  | .head stop => headPart a stop
  | .tail start => tailPart a start
  | .range start stop => rangePart a start stop
  | .run start n => runPart a start n

/-- The part is inside the array. -/
lemma part_within (h : a.WellFormed) (selection : Selection) {p : Part}
    (hp : selection.part a = .ok p) : p.Within a := by
  cases selection with
  | head stop => exact headPart_within h hp
  | tail start => exact tailPart_within h hp
  | range start stop => exact rangePart_within h hp
  | run start n => exact runPart_within h hp

end Selection

/-! ### Parts and targets -/

/-- A part consists of the slots of the positions of a target, and finds a place at its anchor. -/
structure Placed (a : Anchored α) (p : Part) (t : Target) : Prop where
  within : p.Within a
  anchor_empty : p.count = 0 → t.anchor = a.lower
  anchor_eq : p.count ≠ 0 → t.anchor = p.anchor
  room : Room α t.anchor p.count
  selected : a.between t.first t.last = p.elements a
  others : a.outside t.first t.last = a.toList.take p.start ++ a.toList.drop (p.start + p.count)

/-- How the part that a slice settles on goes with the positions that it selects. -/
inductive Reaches (a : Anchored α) : Except Reason Part → Except Reason Target → Prop where
  /-- Nothing is selected, for the same reason. -/
  | refused (reason : Reason) : Reaches a (.error reason) (.error reason)
  /-- The part is empty and finds no anchor. -/
  | unplaced {p : Part} (hnone : p.count = 0) (hleast : a.lower = Position.least) :
    Reaches a (.ok p) (.error .noEmptyAnchor)
  /-- The part consists of the slots of the selected positions. -/
  | placed {p : Part} {t : Target} (h : Placed a p t) : Reaches a (.ok p) (.ok t)

namespace Reaches

variable {p : Part} {t : Target}

/-- A part reaches a target if its slots are those of the positions, as far as there are any. -/
lemma of_slots (hwithin : p.Within a) (hempty : p.count = 0 → t.anchor = a.lower)
    (hanchor : p.count ≠ 0 → t.anchor = p.anchor) (hplace : p.count = 0 → a.lower ≠ Position.least)
    (hstart : min (t.first - a.lower.toInt).toNat a.toList.length = p.start)
    (hcount : min (t.last - t.first + 1).toNat (a.toList.length - p.start) = p.count)
    (hend : min (t.last - a.lower.toInt + 1).toNat a.toList.length = p.start + p.count) :
    Reaches a (.ok p) (.ok t) := by
  have hle := hwithin.le
  refine .placed ⟨hwithin, hempty, hanchor, ?_, ?_, ?_⟩
  · by_cases hnone : p.count = 0
    · rw [hnone, hempty hnone]
      exact .zero (hplace hnone)
    · rw [hanchor hnone]
      exact hwithin.room hnone
  · rw [between, Part.elements, List.drop_eq_drop_iff.2 (show _ = min p.start _ by omega),
      List.take_eq_take_iff, List.length_drop]
    omega
  · rw [outside, List.take_eq_take_iff.2 (show _ = min p.start _ by omega),
      List.drop_eq_drop_iff.2 (show _ = min (p.start + p.count) _ by omega)]

end Reaches

/-- The smallest position has no predecessor. -/
lemma ne_least_of_lt {i lower : Int64} (h : i.toInt < lower.toInt) :
    lower ≠ Position.least := by
  rintro rfl
  have hi := i.le_toInt
  rw [Position.toInt_least] at h
  omega

lemma headPart_reaches (h : a.WellFormed) (stop : Int64) :
    Reaches a (headPart a stop) (Selection.target a (.head stop)) := by
  have hu := h.toInt_upper
  have hwithin : ∀ p, headPart a stop = .ok p → p.Within a := fun _ => headPart_within h
  rw [headPart, Selection.target] at *
  split_ifs at * with hbelow
  · exact .refused _
  · refine .of_slots (hwithin _ rfl) (fun _ => rfl) (fun _ => rfl) ?_ ?_ ?_ ?_
    · intro hnone
      by_cases hempty : a.toList.length = 0
      · exact h.room.starts hempty
      · exact ne_least_of_lt (i := stop) (by dsimp only at hnone; omega)
    · dsimp only
      omega
    · dsimp only
      omega
    · dsimp only
      omega

lemma tailPart_reaches (h : a.WellFormed) (start : Int64) :
    Reaches a (tailPart a start) (Selection.target a (.tail start)) := by
  have hu := h.toInt_upper
  have hwithin : ∀ p, tailPart a start = .ok p → p.Within a := fun _ => tailPart_within h
  rw [tailPart, Selection.target] at *
  by_cases hlow : start.toInt < a.lower.toInt
  · rw [if_pos hlow, if_pos hlow]
    exact .refused _
  simp only [if_neg hlow] at hwithin ⊢
  by_cases hbehind : a.upper.toInt < start.toInt
  · simp only [if_neg (Int.not_le.2 hbehind), if_pos hbehind] at hwithin ⊢
    split_ifs with hleast
    · exact .unplaced rfl hleast.2
    · refine .of_slots (hwithin _ rfl) (fun _ => rfl) (fun _ => rfl)
        (fun _ hlower => hleast ⟨hbehind, hlower⟩) ?_ ?_ ?_
      · dsimp only
        omega
      · dsimp only
        omega
      · dsimp only
        omega
  · simp only [if_pos (Int.not_lt.1 hbehind), if_neg hbehind] at hwithin ⊢
    rw [if_neg fun hboth => hbehind hboth.1]
    refine .of_slots (hwithin _ rfl) ?_ (fun _ => rfl) ?_ ?_ ?_ ?_
    all_goals simp only [slotOf]
    · intro hnone
      omega
    · intro hnone
      omega
    · omega
    · omega
    · omega

/-- A tail from the lower bound on selects the whole array, also if it is empty. -/
lemma Selection.target_whole (h : a.WellFormed) :
    Selection.target a (.tail a.lower) = .ok ⟨a.lower.toInt, a.upper.toInt, a.lower⟩
      ∧ a.between a.lower.toInt a.upper.toInt = a.toList := by
  have hu := h.toInt_upper
  have hplace : ¬ (a.upper.toInt < a.lower.toInt ∧ a.lower = Position.least) :=
    fun hempty => h.room.starts (by omega) hempty.2
  constructor
  · rw [Selection.target, if_neg (Int.lt_irrefl _), if_neg hplace, ite_self]
  · rw [between, Int.sub_self, Int.toNat_zero, List.drop_zero]
    exact List.take_of_length_le (by omega)

lemma rangePart_reaches (h : a.WellFormed) (start stop : Int64) :
    Reaches a (rangePart a start stop) (Selection.target a (.range start stop)) := by
  have hu := h.toInt_upper
  have hwithin : ∀ p, rangePart a start stop = .ok p → p.Within a := fun _ => rangePart_within h
  rw [rangePart, Selection.target] at *
  split_ifs at * with hlow hstop hleast
  · exact .refused _
  · exact .refused _
  · exact .unplaced (by dsimp only; omega) hleast.2
  · refine .of_slots (hwithin _ rfl) (fun _ => rfl) (fun _ => rfl) ?_ ?_ ?_ ?_
    all_goals simp only [slotOf]
    · exact fun hnone hlower => hleast ⟨by omega, hlower⟩
    · omega
    · omega
    · omega

lemma runPart_reaches (h : a.WellFormed) (start n : Int64) :
    Reaches a (runPart a start n) (Selection.target a (.run start n)) := by
  have hu := h.toInt_upper
  have hwithin : ∀ p, runPart a start n = .ok p → p.Within a := fun _ => runPart_within h
  rw [runPart, Selection.target] at *
  split_ifs at * with hbad hleast
  · exact .refused _
  · exact .unplaced (by simp only [slotOf]; omega) hleast.2
  · refine .of_slots (hwithin _ rfl) (fun _ => rfl) (fun _ => rfl) ?_ ?_ ?_ ?_
    · intro hnone hlower
      simp only [slotOf] at hnone
      exact hleast ⟨by omega, hlower⟩
    · rfl
    · simp only [slotOf]
      omega
    · simp only [slotOf]
      omega

/-- **The part** that a slice settles on holds the elements at the positions that it selects. -/
lemma Selection.part_reaches (h : a.WellFormed) (selection : Selection) :
    Reaches a (selection.part a) (selection.target a) := by
  cases selection with
  | head stop => exact headPart_reaches h stop
  | tail start => exact tailPart_reaches h start
  | range start stop => exact rangePart_reaches h start stop
  | run start n => exact runPart_reaches h start n

end AnchoredArrays.Session
