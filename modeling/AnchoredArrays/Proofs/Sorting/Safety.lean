import AnchoredArrays.Proofs.Sorting.Insertion
import AnchoredArrays.Proofs.Sorting.Partition

/-!
Sorting under any comparison. Nothing is assumed about the answers: they may contradict each other
or depend on what was asked before. No step faults: no access leaves the span that is being sorted,
no difference falls below zero and no item is compared with itself.

* `insertionSort_rearranged`: the insertion sort of a span goes through and rearranges the span;
* `sortPart`, `quicksort_eq`: a long span is partitioned, and its parts are sorted in turn;
* `quicksort_rearranged`: the sort of a span goes through and rearranges the span;
* `sortItems_perm`: **sorting always ends** with a permutation of the items.
-/

namespace AnchoredArrays.Sorting

variable {τ α : Type} {lo hi : Nat} {b : Bench τ α}

/-- Inserting the items of a span goes through. -/
lemma insertFrom_rearranged (compare : Comparison τ α) {current : Nat} (hlo : lo < current)
    (hs : hi < b.items.size) :
    ∃ c, insertFrom compare lo hi current b = .ok c ∧ Rearranged lo hi b.items c.items := by
  fun_induction insertFrom compare lo hi current b with
  | case1 current b hle ih =>
      obtain ⟨place, c, hc, hitems, hge, hle', -, -⟩ :=
        insertionPlace_ok compare (Nat.le_refl lo) (Nat.le_of_lt hlo) hle hs
      rw [hc, ok_bind]
      obtain ⟨d, hd, hre, -⟩ :=
        carryDown_ok hge hle' hle (by rw [hitems]; exact hs)
      dsimp only
      rw [hd, ok_bind]
      obtain ⟨e, he, hre'⟩ := ih d (by omega) (by rw [hre.size_eq, hitems]; exact hs)
      exact ⟨e, he, hitems ▸ hre.trans hre'⟩
  | case2 current b hgt => exact ⟨b, rfl, .refl⟩

/-- The insertion sort of a span goes through and rearranges the span. -/
lemma insertionSort_rearranged (compare : Comparison τ α) (hs : hi < b.items.size) :
    ∃ c, insertionSort compare lo hi b = .ok c ∧ Rearranged lo hi b.items c.items :=
  insertFrom_rearranged compare (Nat.lt_succ_self lo) hs

/-- The sort of a part of a span: parts of fewer than two places are left as they are. -/
def sortPart (compare : Comparison τ α) (lo hi : Nat) (b : Bench τ α) : Except Fault (Bench τ α) :=
  if lo < hi then quicksort compare lo hi b else .ok b

/-- A span is sorted by insertion, or by a partition and the sorts of the parts on both sides. -/
lemma quicksort_eq (compare : Comparison τ α) (b : Bench τ α) (hle : lo ≤ hi) :
    quicksort compare lo hi b
      = if hi - lo < insertionLimit then insertionSort compare lo hi b else (do
          let (place, c) ← partition compare lo hi b
          (sortPart compare lo (place - 1) c).bind (sortPart compare (place + 1) hi)) := by
  rw [quicksort, if_neg (Nat.not_lt.2 hle)]
  split_ifs
  · rfl
  dsimp only [bind, Except.bind]
  split
  · rename_i e he
    rw [he]
  · rename_i place c hc
    rw [hc]
    dsimp only
    rw [sortPart, if_congr (show lo < place - 1 ↔ lo + 1 < place by omega) rfl rfl]
    cases (if lo + 1 < place then quicksort compare lo (place - 1) c else .ok c) <;> rfl

/-- The sort of a span goes through and rearranges the span. -/
lemma quicksort_rearranged (compare : Comparison τ α) (hle : lo ≤ hi) (hs : hi < b.items.size) :
    ∃ c, quicksort compare lo hi b = .ok c ∧ Rearranged lo hi b.items c.items := by
  induction hn : hi - lo using Nat.strongRecOn generalizing lo hi b with
  | ind n ih =>
    rw [quicksort_eq compare b hle]
    split_ifs with hshort
    · exact insertionSort_rearranged compare hs
    have hlt : lo < hi := by unfold insertionLimit at hshort; omega
    have hpart : ∀ (lo' hi' : Nat) (c : Bench τ α), hi' - lo' < n → hi' < c.items.size →
        ∃ d, sortPart compare lo' hi' c = .ok d ∧ Rearranged lo' hi' c.items d.items := by
      intro lo' hi' c hshorter hs'
      rw [sortPart]
      split_ifs with hlt'
      · exact ih (hi' - lo') hshorter (Nat.le_of_lt hlt') hs' rfl
      · exact ⟨c, rfl, .refl⟩
    obtain ⟨place, c, hc, hre, hlo, hhi, -⟩ := partition_rearranged compare hlt hs
    obtain ⟨d, hd, hre'⟩ :=
      hpart lo (place - 1) c (by omega) (by rw [hre.size_eq]; omega)
    obtain ⟨e, he, hre''⟩ :=
      hpart (place + 1) hi d (by omega) (by rw [hre'.size_eq, hre.size_eq]; exact hs)
    refine ⟨e, ?_, (hre.trans (hre'.mono (Nat.le_refl lo) (by omega))).trans
      (hre''.mono (by omega) (Nat.le_refl hi))⟩
    rw [hc, ok_bind]
    dsimp only
    rw [hd, Except.bind, he]

/-- The sort of a part goes through and rearranges the part, if it has two places. -/
lemma sortPart_rearranged (compare : Comparison τ α) (lo : Nat) (hs : hi < b.items.size) :
    ∃ c, sortPart compare lo hi b = .ok c ∧ Rearranged lo hi b.items c.items
      ∧ (hi ≤ lo → c = b) := by
  rw [sortPart]
  split_ifs with hlt
  · obtain ⟨c, hc, hre⟩ := quicksort_rearranged compare (Nat.le_of_lt hlt) hs
    exact ⟨c, hc, hre, fun hge => by omega⟩
  · exact ⟨b, rfl, .refl, fun _ => rfl⟩

/-- The sort of all items goes through and rearranges them. -/
lemma sortItems_rearranged (direction : Direction) (compare : Comparison τ α) (items : Array α)
    (memory : τ) :
    ∃ b, sortItems direction compare items memory = .ok b
      ∧ Rearranged 0 (items.size - 1) items b.items := by
  rw [sortItems]
  split_ifs with hsize
  · exact quicksort_rearranged (b := ⟨items, memory, 0⟩) (direction.apply compare)
      (Nat.zero_le _) (show items.size - 1 < items.size by omega)
  · exact ⟨_, rfl, .refl⟩

/-- **Sorting always ends** (whatever the comparison answers): no step faults, and the items are a
permutation of what they were. -/
theorem sortItems_perm (direction : Direction) (compare : Comparison τ α) (items : Array α)
    (memory : τ) :
    ∃ b, sortItems direction compare items memory = .ok b
      ∧ b.items.toList.Perm items.toList := by
  obtain ⟨b, hb, hre⟩ := sortItems_rearranged direction compare items memory
  exact ⟨b, hb, hre.perm⟩

end AnchoredArrays.Sorting
