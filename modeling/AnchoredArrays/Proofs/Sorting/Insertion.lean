import AnchoredArrays.Proofs.Sorting.Rearranged

/-!
One insertion under any comparison: where the current item goes, and what carrying it there does
to the items.

* `insertionPlace_ok`: the place of an insertion, and what the comparison said on the way to it;
* `Carried`: an item was moved down and those in between up by one;
* `carryDown_ok`: carrying an item down goes through.
-/

namespace AnchoredArrays.Sorting

variable {τ α : Type} {lo hi : Nat} {b : Bench τ α}

/-- The place of an insertion lies in front of the item or is its own. The items that were passed
were said to come before it, the one at the place was not. -/
lemma insertionPlace_ok (compare : Comparison τ α) {current place : Nat} (hlo : lo ≤ place)
    (hplace : place ≤ current) (hcur : current ≤ hi) (hs : hi < b.items.size) :
    ∃ place' c, insertionPlace compare lo hi current place b = .ok (place', c)
      ∧ c.items = b.items ∧ place ≤ place' ∧ place' ≤ current
      ∧ (∀ k x y, place ≤ k → k < place' → b.items[k]? = some x → b.items[current]? = some y →
          ∃ t, (compare t x y).1 = .lt)
      ∧ (place' < current → ∀ x y, b.items[place']? = some x → b.items[current]? = some y →
          ∃ t, (compare t x y).1 ≠ .lt) := by
  fun_induction insertionPlace compare lo hi current place b with
  | case1 place b hlt ih =>
      obtain ⟨o, c, hc, hitems, ho⟩ :=
        Bench.compareAt_ok compare lo hi place current ⟨hlo, by omega⟩ ⟨by omega, hcur⟩ (by omega)
          hs
      rw [hc, ok_bind]
      dsimp only
      split_ifs with hlt'
      · obtain ⟨place', d, hd, hitems', hle, hle', hpassed, hstop⟩ :=
          ih c (by omega) (by omega) (by rw [hitems]; exact hs)
        rw [hitems] at hitems' hpassed hstop
        refine ⟨place', d, hd, hitems', by omega, hle', ?_, hstop⟩
        intro k x y hk hk' hx hy
        rcases Nat.eq_or_lt_of_le hk with rfl | hk
        · exact hlt' ▸ ho x y hx hy
        · exact hpassed k x y hk hk' hx hy
      · refine ⟨place, c, rfl, hitems, Nat.le_refl _, hplace, fun k _ _ hk hk' => by omega, ?_⟩
        intro _ x y hx hy
        obtain ⟨t, ht⟩ := ho x y hx hy
        exact ⟨t, ht ▸ hlt'⟩
  | case2 place b hge =>
      exact ⟨place, b, rfl, rfl, Nat.le_refl _, hplace, fun k _ _ hk hk' => by omega,
        fun h => absurd h hge⟩

/-- The item at `current` was carried down to `place`, and those in between moved up by one. -/
structure Carried (place current : Nat) (xs ys : Array α) : Prop where
  carried : ys[place]? = xs[current]?
  shifted : ∀ k, place < k → k ≤ current → ys[k]? = xs[k - 1]?
  kept : ∀ k, k < place ∨ current < k → ys[k]? = xs[k]?

lemma Carried.refl (place : Nat) (xs : Array α) : Carried place place xs xs :=
  ⟨rfl, fun k hk hk' => by omega, fun _ _ => rfl⟩

/-- One more exchange below a carried item. -/
lemma Carried.of_swap {place current : Nat} {xs ys : Array α} (hlt : place < current)
    (hc : current < xs.size)
    (h : Carried place (current - 1) (xs.swap (current - 1) current (by omega) hc) ys) :
    Carried place current xs ys := by
  have hswap : ∀ k, (xs.swap (current - 1) current (by omega) hc)[k]?
      = if current = k then xs[current - 1]? else if current - 1 = k then xs[current]?
        else xs[k]? := by
    intro k
    rw [Array.getElem?_swap, Array.getElem?_eq_getElem hc,
      Array.getElem?_eq_getElem (show current - 1 < xs.size by omega)]
  refine ⟨?_, ?_, ?_⟩
  · rw [h.carried, hswap, if_neg (by omega), if_pos rfl]
  · intro k hk hk'
    rcases Nat.eq_or_lt_of_le hk' with rfl | hk'
    · rw [h.kept k (by omega), hswap, if_pos rfl]
    · rw [h.shifted k hk (by omega), hswap, if_neg (by omega), if_neg (by omega)]
  · intro k hk
    rw [h.kept k (by omega), hswap, if_neg (by omega), if_neg (by omega)]

/-- Carrying an item down the span goes through. -/
lemma carryDown_ok {place current : Nat} (hlo : lo ≤ place) (hplace : place ≤ current)
    (hcur : current ≤ hi) (hs : hi < b.items.size) :
    ∃ c, carryDown lo hi place current b = .ok c ∧ Rearranged lo hi b.items c.items
      ∧ Carried place current b.items c.items := by
  fun_induction carryDown lo hi place current b with
  | case1 current b hlt ih =>
      obtain ⟨c, hc, hre, _, hcs, hitems⟩ :=
        Bench.swapAt_ok lo hi (current - 1) current ⟨by omega, by omega⟩ ⟨by omega, hcur⟩ hs
      rw [hc, ok_bind]
      obtain ⟨d, hd, hre', hca⟩ := ih c (by omega) (by omega) (by rw [hre.size_eq]; exact hs)
      rw [hitems] at hca
      exact ⟨d, hd, hre.trans hre', hca.of_swap hlt hcs⟩
  | case2 current b hge =>
      obtain rfl : place = current := by omega
      exact ⟨b, rfl, .refl, .refl place _⟩

end AnchoredArrays.Sorting
