import AnchoredArrays.Proofs.Sorting.Safety
import Mathlib.Data.Nat.Choose.Basic
import Mathlib.Tactic.IntervalCases
import Mathlib.Tactic.Linarith
import Mathlib.Tactic.Ring

/-!
How often a sort compares, whatever the comparison answers. A scan passes each place once, so the
two scans of a span of `m` items make at most `2 * m - 3` comparisons, even if contradictory answers
let them cross; inserting the items one by one compares each pair at most once.

* `Comparison.recorded`: a comparison that keeps a list of what it was asked;
* `exists_of_bind_ok`, `eq_of_compareAt`, `eq_of_swapAt`: what is known of steps that went through;
* `Counts`: a number that grows by one with each comparison and stays with each exchange;
  `calls_counts`, `recorded_counts`: the calls of a bench, and the length of such a list;
* `Counts.insertionSort_le`, `Counts.partition_le`: the comparisons of an insertion sort and of a
  partition;
* `callLimit`, `callLimit_join`: the most comparisons for `n` items, and what a partition leaves of
  them for the two parts;
* `comparisons_le`: **a sort compares** at most that often.
-/

namespace AnchoredArrays.Sorting

variable {τ α : Type} {lo hi : Nat} {b c : Bench τ α} {compare : Comparison τ α}
  {cost : Bench τ α → Nat}

/-! ### What is counted -/

/-- The comparison that gives the same answers and keeps a list of the pairs that it was asked
about, the latest first. -/
def Comparison.recorded (compare : Comparison τ α) : Comparison (τ × List (α × α)) α :=
  fun (t, asked) x y =>
    let (o, t) := compare t x y
    (o, t, (x, y) :: asked)

/-- The number `cost b` grows by one with each comparison and is the same after an exchange. -/
structure Counts (compare : Comparison τ α) (cost : Bench τ α → Nat) : Prop where
  compareAt : ∀ {lo hi i j : Nat} {b c : Bench τ α} {o : Ordering},
    b.compareAt compare lo hi i j = .ok (o, c) → cost c = cost b + 1
  swapAt : ∀ {lo hi i j : Nat} {b c : Bench τ α}, b.swapAt lo hi i j = .ok c → cost c = cost b

/-- Two steps that go through, one after the other. -/
lemma exists_of_bind_ok {ρ π : Type} {step : Except Fault ρ} {next : ρ → Except Fault π} {r : π}
    (h : step.bind next = .ok r) : ∃ a, step = .ok a ∧ next a = .ok r := by
  cases step with
  | error e => cases h
  | ok a => exact ⟨a, rfl, h⟩

/-- What a comparison does to the bench. -/
lemma eq_of_compareAt {i j : Nat} {o : Ordering}
    (h : b.compareAt compare lo hi i j = .ok (o, c)) :
    ∃ x y, compare b.memory x y = (o, c.memory) ∧ c.items = b.items ∧ c.calls = b.calls + 1 := by
  rw [Bench.compareAt] at h
  split_ifs at h
  cases h
  exact ⟨_, _, rfl, rfl, rfl⟩

/-- What an exchange does to the bench. -/
lemma eq_of_swapAt {i j : Nat} (h : b.swapAt lo hi i j = .ok c) :
    c.memory = b.memory ∧ c.calls = b.calls := by
  rw [Bench.swapAt] at h
  split_ifs at h
  cases h
  exact ⟨rfl, rfl⟩

/-- The calls of a bench count the comparisons. -/
lemma calls_counts (compare : Comparison τ α) : Counts compare Bench.calls where
  compareAt h := by
    obtain ⟨-, -, -, -, hcalls⟩ := eq_of_compareAt h
    exact hcalls
  swapAt h := (eq_of_swapAt h).2

/-- The list of what a comparison was asked counts them as well, in both directions. -/
lemma recorded_counts (direction : Direction) (compare : Comparison τ α) :
    Counts (direction.apply compare.recorded) fun b => b.memory.2.length where
  compareAt {_ _ _ _ b c o} h := by
    obtain ⟨x, y, hanswer, -, -⟩ := eq_of_compareAt h
    have hmemory : c.memory = ((compare b.memory.1 x y).2, (x, y) :: b.memory.2) := by
      cases direction with
      | up => exact (congrArg Prod.snd hanswer).symm
      | down => exact (congrArg Prod.snd hanswer).symm
    rw [hmemory, List.length_cons]
  swapAt h := by rw [(eq_of_swapAt h).1]

namespace Counts

/-! ### Insertion sort -/

/-- The item at `current` is compared with each item from `place` on at most once. -/
lemma insertionPlace_le (hc : Counts compare cost) {current place place' : Nat}
    (h : insertionPlace compare lo hi current place b = .ok (place', c)) :
    cost c ≤ cost b + (current - place) := by
  fun_induction insertionPlace compare lo hi current place b with
  | case1 place b hlt ih =>
    obtain ⟨⟨o, d⟩, hrun, h⟩ := exists_of_bind_ok h
    have hd := hc.compareAt hrun
    dsimp only at h
    split_ifs at h with hbefore
    · have hrest := ih d h
      omega
    · cases h
      omega
  | case2 place b hge =>
    cases h
    exact Nat.le_add_right _ _

/-- Carrying an item down compares nothing. -/
lemma carryDown_eq (hc : Counts compare cost) {place current : Nat}
    (h : carryDown lo hi place current b = .ok c) : cost c = cost b := by
  fun_induction carryDown lo hi place current b with
  | case1 current b hlt ih =>
    obtain ⟨d, hrun, h⟩ := exists_of_bind_ok h
    exact (ih d h).trans (hc.swapAt hrun)
  | case2 current b hge =>
    cases h
    rfl

/-- The pairs of the items inserted so far, and the comparisons that follow, are together at most
the pairs of the whole span. -/
lemma insertFrom_le (hc : Counts compare cost) {current : Nat} (hlo : lo < current)
    (hhi : current ≤ hi + 1) (h : insertFrom compare lo hi current b = .ok c) :
    cost c + (current - lo).choose 2 ≤ cost b + (hi + 1 - lo).choose 2 := by
  fun_induction insertFrom compare lo hi current b with
  | case1 current b hle ih =>
    obtain ⟨⟨place, d⟩, hplace, h⟩ := exists_of_bind_ok h
    obtain ⟨e, hcarry, h⟩ := exists_of_bind_ok h
    have hpairs : (current + 1 - lo).choose 2 = (current - lo) + (current - lo).choose 2 := by
      rw [Nat.sub_add_comm (Nat.le_of_lt hlo), Nat.choose_succ_succ, Nat.choose_one_right]
    have hd := hc.insertionPlace_le hplace
    have he := hc.carryDown_eq hcarry
    have hrest := ih e (by omega) (by omega) h
    omega
  | case2 current b hgt =>
    cases h
    rw [show current = hi + 1 by omega]

/-- An insertion sort compares each pair of items at most once. -/
lemma insertionSort_le (hc : Counts compare cost) (hle : lo ≤ hi)
    (h : insertionSort compare lo hi b = .ok c) :
    cost c ≤ cost b + (hi + 1 - lo).choose 2 :=
  Nat.le_trans (Nat.le_add_right _ _)
    (hc.insertFrom_le (Nat.lt_succ_self lo) (Nat.succ_le_succ hle) h)

/-! ### Partition -/

/-- The scan from below asks about each place that it passes once, and about the one where it stops
unless that is the end of the span. -/
lemma scanUp_le (hc : Counts compare cost) {less place : Nat} (hless : less ≤ hi)
    (h : scanUp compare lo hi less b = .ok (place, c)) :
    less ≤ place ∧ place ≤ hi ∧ cost c + less ≤ cost b + min (place + 1) hi := by
  fun_induction scanUp compare lo hi less b with
  | case1 less b hlt ih =>
    obtain ⟨⟨o, d⟩, hrun, h⟩ := exists_of_bind_ok h
    have hd := hc.compareAt hrun
    dsimp only at h
    split_ifs at h with hbefore
    · obtain ⟨hge, hle, hrest⟩ := ih d hlt h
      omega
    · cases h
      omega
  | case2 less b hge =>
    cases h
    omega

/-- The scan from above asks about each place that it passes once, and about the one where it stops
unless that is the first of the span. -/
lemma scanDown_le (hc : Counts compare cost) {greater place : Nat} (hlo : lo < greater)
    (h : scanDown compare lo hi greater b = .ok (place, c)) :
    cost c + max place (lo + 1) ≤ cost b + greater := by
  induction greater generalizing b with
  | zero => cases h
  | succ greater ih =>
    rw [scanDown] at h
    split_ifs at h with hfirst
    · cases h
      omega
    · rcases hrun : b.compareAt compare lo hi greater hi with e | ⟨o, d⟩
      · rw [hrun] at h
        cases h
      · have hd := hc.compareAt hrun
        rw [hrun] at h
        dsimp only at h
        split_ifs at h with hafter
        · have hrest := ih (b := d) (by omega) h
          omega
        · cases h
          omega

/-- What the scans have not passed yet bounds the comparisons that follow. The scan from below may
go up to the end and the scan from above down to the second place, even past each other. -/
lemma meet_le (hc : Counts compare cost) {less greater place : Nat} (hlo : lo ≤ less)
    (hless : less ≤ hi) (hgreater : lo < greater)
    (h : meet compare lo hi less greater b = .ok (place, c)) :
    cost c + less + (lo + 1) ≤ cost b + hi + greater := by
  induction greater using Nat.strongRecOn generalizing less b with
  | ind greater ih =>
    rw [meet_eq] at h
    obtain ⟨⟨up, d⟩, hup, h⟩ := exists_of_bind_ok h
    obtain ⟨⟨down, e⟩, hdown, h⟩ := exists_of_bind_ok h
    dsimp only at hdown h
    obtain ⟨hge, hle, hd⟩ := hc.scanUp_le hless hup
    have he := hc.scanDown_le hgreater hdown
    split_ifs at h with hmet
    · cases h
      omega
    · have hlt := scanDown_lt hdown
      obtain ⟨f, hswap, h⟩ := exists_of_bind_ok h
      have hf := hc.swapAt hswap
      have hmem := Bench.mem_of_swapAt hswap
      have hrest : cost c + (up + 1) + (lo + 1) ≤ cost f + hi + down :=
        ih down hlt (by omega) (by omega) (by omega) h
      omega

/-- A partition of `hi + 1 - lo` items makes at most twice as many comparisons, less three. -/
lemma partition_le (hc : Counts compare cost) {place : Nat} (hlt : lo < hi)
    (h : partition compare lo hi b = .ok (place, c)) :
    cost c ≤ cost b + (2 * (hi + 1 - lo) - 3) := by
  rw [partition] at h
  obtain ⟨d, hfirst, h⟩ := exists_of_bind_ok h
  obtain ⟨⟨less, e⟩, hmeet, h⟩ := exists_of_bind_ok h
  obtain ⟨f, hlast, h⟩ := exists_of_bind_ok h
  cases h
  have hd := hc.swapAt hfirst
  have he := hc.meet_le (Nat.le_refl lo) (Nat.le_of_lt hlt) hlt hmeet
  have hf := hc.swapAt hlast
  omega

end Counts

/-! ### Quicksort -/

/-- The most comparisons that sorting `n` items takes. Up to the length below which items are
inserted one by one every pair is compared, and beyond it each partition may split off nothing. -/
def callLimit (n : Nat) : Nat :=
  if n ≤ insertionLimit then n * (n - 1) / 2 else n ^ 2 - 2 * n - 20

/-- Short spans take a comparison for each pair. -/
lemma callLimit_short {n : Nat} (h : n ≤ insertionLimit) : callLimit n = n.choose 2 := by
  rw [callLimit, if_pos h, Nat.choose_two_right]

/-- The limit for long spans, by how much longer than the short ones they are. -/
lemma callLimit_long (r : Nat) : callLimit (r + 9) = r * r + 16 * r + 43 := by
  have hsq : (r + 9) ^ 2 = r * r + 16 * r + 43 + 20 + 2 * (r + 9) := by ring
  rw [callLimit, if_neg (by unfold insertionLimit; omega), hsq]
  omega

/-- One more item than in a longest short span, or in a long one, takes a partition more. -/
lemma callLimit_succ {n : Nat} (h : insertionLimit ≤ n) :
    callLimit n + (2 * n - 1) = callLimit (n + 1) := by
  obtain ⟨r, rfl⟩ := Nat.exists_eq_add_of_le' h
  rw [insertionLimit]
  cases r with
  | zero => rfl
  | succ r =>
    rw [show r + 1 + 8 = r + 9 by omega, show r + 9 + 1 = r + 1 + 9 by omega, callLimit_long,
      callLimit_long]
    have hsq : (r + 1) * (r + 1) = r * r + 2 * r + 1 := by ring
    omega

/-- Short spans are compared less often than sixteen times an item. -/
lemma callLimit_short_le {n : Nat} (h : n ≤ insertionLimit) : callLimit n ≤ 16 * n := by
  unfold insertionLimit at h
  interval_cases n <;> decide

/-- Splitting a span takes no more comparisons than sorting it in one piece. -/
lemma callLimit_add_le (p q : Nat) : callLimit p + callLimit q ≤ callLimit (p + q) := by
  have hshort : ∀ p ≤ 8, ∀ q ≤ 8, callLimit p + callLimit q ≤ callLimit (p + q) := by decide
  have hmixed : ∀ p ≤ 8, ∀ r, callLimit p + callLimit (r + 9) ≤ callLimit (p + r + 9) := by
    intro p hp r
    have hle : callLimit p ≤ 16 * p := callLimit_short_le hp
    rw [callLimit_long, callLimit_long]
    nlinarith
  rcases Nat.lt_or_ge 8 p with hp | hp
  · rcases Nat.lt_or_ge 8 q with hq | hq
    · obtain ⟨r, rfl⟩ := Nat.exists_eq_add_of_le' hp
      obtain ⟨s, rfl⟩ := Nat.exists_eq_add_of_le' hq
      have hlong := callLimit_long (r + s + 9)
      rw [show r + s + 9 + 9 = r + (8 + 1) + (s + (8 + 1)) by omega] at hlong
      rw [hlong, callLimit_long, callLimit_long]
      nlinarith
    · obtain ⟨r, rfl⟩ := Nat.exists_eq_add_of_le' hp
      rw [Nat.add_comm (callLimit _), show r + (8 + 1) + q = q + r + 9 by omega]
      exact hmixed q hq r
  · rcases Nat.lt_or_ge 8 q with hq | hq
    · obtain ⟨r, rfl⟩ := Nat.exists_eq_add_of_le' hq
      exact hmixed p hp r
    · exact hshort p hp q hq

/-- A partition and the sorts of the two parts stay within the limit, wherever the pivot goes. -/
lemma callLimit_join {p q : Nat} (h : insertionLimit ≤ p + q) :
    2 * (p + q + 1) - 3 + callLimit p + callLimit q ≤ callLimit (p + q + 1) := by
  have hadd := callLimit_add_le p q
  have hsucc := callLimit_succ h
  omega

/-- Sorting a span compares no more often than the limit for its length says. -/
lemma Counts.quicksort_le (hc : Counts compare cost) (hle : lo ≤ hi)
    (h : quicksort compare lo hi b = .ok c) : cost c ≤ cost b + callLimit (hi + 1 - lo) := by
  induction hn : hi - lo using Nat.strongRecOn generalizing lo hi b c with
  | ind n ih =>
    rw [quicksort_eq compare b hle] at h
    split_ifs at h with hshort
    · rw [callLimit_short (by omega)]
      exact hc.insertionSort_le hle h
    have hlong : insertionLimit ≤ hi - lo := Nat.not_lt.1 hshort
    have hlt : lo < hi := by unfold insertionLimit at hlong; omega
    -- a part of fewer than two items is not compared at all
    have hpart : ∀ {lo' hi' : Nat} {d e : Bench τ α}, hi' - lo' < n →
        sortPart compare lo' hi' d = .ok e → cost e ≤ cost d + callLimit (hi' + 1 - lo') := by
      intro lo' hi' d e hshorter hd
      rw [sortPart] at hd
      split_ifs at hd with hlt'
      · exact ih (hi' - lo') hshorter (Nat.le_of_lt hlt') hd rfl
      · cases hd
        exact Nat.le_add_right _ _
    obtain ⟨⟨place, d⟩, hpartition, h⟩ := exists_of_bind_ok h
    obtain ⟨e, hfront, h⟩ := exists_of_bind_ok h
    obtain ⟨hge, hle'⟩ := partition_mem hpartition
    have hd := hc.partition_le hlt hpartition
    have he : cost e ≤ cost d + callLimit (place - lo) := by
      have hsorted := hpart (by omega) hfront
      rcases Nat.eq_zero_or_pos place with rfl | hpos
      · rw [show 0 - 1 + 1 - lo = 1 by omega] at hsorted
        exact Nat.le_trans hsorted (Nat.add_le_add_left (Nat.zero_le _) _)
      · rwa [Nat.sub_add_cancel hpos] at hsorted
    have hc' : cost c ≤ cost e + callLimit (hi - place) := by
      have hsorted := hpart (by omega) h
      rwa [Nat.add_sub_add_right] at hsorted
    have hjoin := callLimit_join (p := place - lo) (q := hi - place) (by omega)
    rw [show place - lo + (hi - place) = hi - lo by omega,
      show hi - lo + 1 = hi + 1 - lo by omega] at hjoin
    omega

/-- The comparisons of a whole sort. -/
lemma Counts.sortItems_le {direction : Direction}
    (hc : Counts (direction.apply compare) cost) {items : Array α} {memory : τ}
    (h : sortItems direction compare items memory = .ok b) :
    cost b ≤ cost ⟨items, memory, 0⟩ + callLimit items.size := by
  rw [sortItems] at h
  split_ifs at h with hsize
  · have hle := hc.quicksort_le (Nat.zero_le _) h
    rwa [Nat.sub_zero, Nat.sub_add_cancel (Nat.le_of_lt hsize)] at hle
  · cases h
    exact Nat.le_add_right _ _

/-- **A sort compares** at most `n * (n - 1) / 2` times if there are up to eight items, and at most
`n ^ 2 - 2 * n - 20` times if there are more, whatever the comparison answers: so many calls are
counted, and so long is the list that a comparison keeps of what it was asked. -/
theorem comparisons_le (direction : Direction) (compare : Comparison τ α) (items : Array α)
    (memory : τ) :
    (∃ b, sortItems direction compare items memory = .ok b ∧ b.calls ≤ callLimit items.size)
      ∧ ∃ b, sortItems direction compare.recorded items (memory, []) = .ok b
        ∧ b.memory.2.length ≤ callLimit items.size := by
  constructor
  · obtain ⟨b, hb, -⟩ := sortItems_rearranged direction compare items memory
    have hcalls := (calls_counts (direction.apply compare)).sortItems_le hb
    exact ⟨b, hb, Nat.zero_add (callLimit items.size) ▸ hcalls⟩
  · obtain ⟨b, hb, -⟩ := sortItems_rearranged direction compare.recorded items (memory, [])
    have hasked := (recorded_counts direction compare).sortItems_le hb
    exact ⟨b, hb, Nat.zero_add (callLimit items.size) ▸ hasked⟩

end AnchoredArrays.Sorting
