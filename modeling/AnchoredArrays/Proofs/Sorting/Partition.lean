import AnchoredArrays.Proofs.Sorting.Rearranged

/-!
The partition of a span under any comparison. The scans are kept inside the span by their own
guards; what the comparison said about the items that they passed is recorded, without assuming
that it would say so again.

* `scanUp_ok`, `scanDown_ok`: where the two scans stop;
* `Zoned`: the zones that the scans leave behind; `Zoned.exchange` and `Zoned.close` say how they
  grow and when they cover the span;
* `partition_rearranged`: the partition goes through, and its pivot splits the span at a place
  inside (`Split`).
-/

namespace AnchoredArrays.Sorting

variable {τ α : Type} {lo hi : Nat} {b : Bench τ α}

/-- The scan from below stops inside the span, having passed only items that were said to come
before the one at the end; if it stops in front of the end, that was not said of the item there. -/
lemma scanUp_ok (compare : Comparison τ α) {less : Nat} (hlo : lo ≤ less) (hless : less ≤ hi)
    (hs : hi < b.items.size) :
    ∃ place c, scanUp compare lo hi less b = .ok (place, c) ∧ c.items = b.items
      ∧ less ≤ place ∧ place ≤ hi
      ∧ (∀ k x p, less ≤ k → k < place → b.items[k]? = some x → b.items[hi]? = some p →
          ∃ t, (compare t x p).1 = .lt)
      ∧ (place < hi → ∀ x p, b.items[place]? = some x → b.items[hi]? = some p →
          ∃ t, (compare t x p).1 ≠ .lt) := by
  fun_induction scanUp compare lo hi less b with
  | case1 less b hlt ih =>
      obtain ⟨o, c, hc, hitems, ho⟩ :=
        Bench.compareAt_ok compare lo hi less hi ⟨hlo, by omega⟩ ⟨by omega, Nat.le_refl hi⟩
          (by omega) hs
      rw [hc, ok_bind]
      dsimp only
      split_ifs with hlt'
      · obtain ⟨place, d, hd, hitems', hle, hle', hpassed, hstop⟩ :=
          ih c (by omega) (by omega) (by rw [hitems]; exact hs)
        rw [hitems] at hitems' hpassed hstop
        refine ⟨place, d, hd, hitems', by omega, hle', ?_, hstop⟩
        intro k x p hk hk' hx hp
        rcases Nat.eq_or_lt_of_le hk with rfl | hk
        · exact hlt' ▸ ho x p hx hp
        · exact hpassed k x p hk hk' hx hp
      · refine ⟨less, c, rfl, hitems, Nat.le_refl _, hless, fun k _ _ hk hk' => by omega, ?_⟩
        intro _ x p hx hp
        obtain ⟨t, ht⟩ := ho x p hx hp
        exact ⟨t, ht ▸ hlt'⟩
  | case2 less b hge =>
      exact ⟨less, b, rfl, rfl, Nat.le_refl _, hless, fun k _ _ hk hk' => by omega,
        fun h => absurd h hge⟩

/-- The scan from above stops inside the span, having passed only items that were said to come
after the one at the end; if it stops behind the first place, that was not said of the item
there. The first place itself is not asked about. -/
lemma scanDown_ok (compare : Comparison τ α) {greater : Nat} (hlo : lo < greater)
    (hgreater : greater ≤ hi) (hs : hi < b.items.size) :
    ∃ place c, scanDown compare lo hi greater b = .ok (place, c) ∧ c.items = b.items
      ∧ lo ≤ place ∧ place < greater
      ∧ (∀ k x p, place < k → k < greater → b.items[k]? = some x → b.items[hi]? = some p →
          ∃ t, (compare t x p).1 = .gt)
      ∧ (lo < place → ∀ x p, b.items[place]? = some x → b.items[hi]? = some p →
          ∃ t, (compare t x p).1 ≠ .gt) := by
  induction greater generalizing b with
  | zero => omega
  | succ greater ih =>
      rw [scanDown]
      split_ifs with heq
      · exact ⟨greater, b, rfl, rfl, by omega, by omega, fun k _ _ hk hk' => by omega,
          fun h => by omega⟩
      · obtain ⟨o, c, hc, hitems, ho⟩ :=
          Bench.compareAt_ok compare lo hi greater hi ⟨by omega, by omega⟩
            ⟨by omega, Nat.le_refl hi⟩ (by omega) hs
        rw [hc]
        dsimp only
        split_ifs with hgt
        · obtain ⟨place, d, hd, hitems', hle, hlt, hpassed, hstop⟩ :=
            ih (b := c) (by omega) (by omega) (by rw [hitems]; exact hs)
          rw [hitems] at hitems' hpassed hstop
          refine ⟨place, d, hd, hitems', hle, by omega, ?_, hstop⟩
          intro k x p hk hk' hx hp
          rcases Nat.eq_or_lt_of_le (Nat.le_of_lt_succ hk') with rfl | hk'
          · exact hgt ▸ ho x p hx hp
          · exact hpassed k x p hk hk' hx hp
        · refine ⟨greater, c, rfl, hitems, by omega, by omega,
            fun k _ _ hk hk' => by omega, ?_⟩
          intro _ x p hx hp
          obtain ⟨t, ht⟩ := ho x p hx hp
          exact ⟨t, ht ▸ hgt⟩

/-- The comparison may deny that `x` comes after `y`. -/
def Comparison.NotAfter (compare : Comparison τ α) (x y : α) : Prop := ∃ t, (compare t x y).1 ≠ .gt

/-- The comparison may deny that `x` comes before `y`. -/
def Comparison.NotBefore (compare : Comparison τ α) (x y : α) : Prop := ∃ t, (compare t x y).1 ≠ .lt

/-- The zones of a span around the item `p`: in front of place `less` it was denied that the items
come after `p`, and from place `greater` to the one before `hi` that they come before it. -/
structure Zoned (compare : Comparison τ α) (lo hi less greater : Nat) (p : α) (xs : Array α) :
    Prop where
  front : ∀ k x, lo ≤ k → k < less → xs[k]? = some x → compare.NotAfter x p
  back : ∀ k x, greater ≤ k → k < hi → xs[k]? = some x → compare.NotBefore x p

namespace Zoned

variable {compare : Comparison τ α} {less greater place place' : Nat} {p : α} {xs : Array α}

/-- The exchange of what the scans stopped at widens both zones by one place. -/
lemma exchange (hz : Zoned compare lo hi place (place' + 1) p xs) (hlt : place < place')
    (hlt' : place' < hi) (hs : hi < xs.size)
    (hup : ∀ x, xs[place]? = some x → compare.NotBefore x p)
    (hdown : ∀ x, xs[place']? = some x → compare.NotAfter x p) :
    Zoned compare lo hi (place + 1) place' p (xs.swap place place' (by omega) (by omega)) := by
  refine ⟨fun k x hk hk' hx => ?_, fun k x hk hk' hx => ?_⟩ <;>
    rw [Array.getElem?_swap] at hx <;> split_ifs at hx with h₁ h₂
  · omega
  · exact hdown x (by rw [Array.getElem?_eq_getElem (by omega)]; exact hx)
  · exact hz.front k x hk (by omega) hx
  · exact hup x (by rw [Array.getElem?_eq_getElem (by omega)]; exact hx)
  · omega
  · exact hz.back k x (by omega) hk' hx

/-- When the scans have met, nothing is left between the zones. -/
lemma close (hz : Zoned compare lo hi place (place' + 1) p xs) (hle : place' ≤ place)
    (hup : place < hi → ∀ x, xs[place]? = some x → compare.NotBefore x p) :
    Zoned compare lo hi place place p xs := by
  refine ⟨hz.front, ?_⟩
  intro k x hk hk' hx
  rcases Nat.eq_or_lt_of_le hk with rfl | hk
  · exact hup hk' x hx
  · exact hz.back k x (by omega) hk' hx

end Zoned

/-- The loop of a partition as a sequence of steps: two scans, then an end or an exchange. -/
lemma meet_eq (compare : Comparison τ α) (lo hi less greater : Nat) (b : Bench τ α) :
    meet compare lo hi less greater b = (do
      let (less, c) ← scanUp compare lo hi less b
      let (place, d) ← scanDown compare lo hi greater c
      if place ≤ less then .ok (less, d)
      else (d.swapAt lo hi less place).bind (meet compare lo hi (less + 1) place)) := by
  rw [meet]
  rcases scanUp compare lo hi less b with e | ⟨less, c⟩
  · rfl
  dsimp only [bind, Except.bind]
  split
  · rename_i e he
    rw [he]
  · rename_i place d hd
    rw [hd]
    dsimp only
    split_ifs
    · rfl
    · cases d.swapAt lo hi less place <;> rfl

/-- The scans of a span meet inside the span, and the zones then cover it. -/
lemma meet_ok (compare : Comparison τ α) {less greater : Nat} {p : α} (hlo : lo ≤ less)
    (hle : less ≤ greater) (hlt : lo < greater) (hgreater : greater ≤ hi)
    (hs : hi < b.items.size) (hp : b.items[hi]? = some p)
    (hz : Zoned compare lo hi less greater p b.items) :
    ∃ place c, meet compare lo hi less greater b = .ok (place, c)
      ∧ Rearranged lo hi b.items c.items ∧ lo ≤ place ∧ place ≤ hi
      ∧ c.items[hi]? = some p ∧ Zoned compare lo hi place place p c.items := by
  induction greater using Nat.strongRecOn generalizing less b with
  | ind greater ih =>
    obtain ⟨place, c, hc, hitems, hge, hhi, hpassed, hstop⟩ :=
      scanUp_ok compare hlo (Nat.le_trans hle hgreater) hs
    obtain ⟨place', d, hd, hitems', hge', hlt', hpassed', hstop'⟩ :=
      scanDown_ok (b := c) compare hlt hgreater (by rw [hitems]; exact hs)
    rw [hitems] at hitems' hpassed' hstop'
    -- what the scans passed widens the zones up to where they stopped
    have hzone : Zoned compare lo hi place (place' + 1) p b.items := by
      refine ⟨?_, ?_⟩
      · intro k x hk hk' hx
        rcases Nat.lt_or_ge k less with hkl | hkl
        · exact hz.front k x hk hkl hx
        · obtain ⟨t, ht⟩ := hpassed k x p hkl hk' hx hp
          exact ⟨t, by rw [ht]; decide⟩
      · intro k x hk hk' hx
        rcases Nat.lt_or_ge k greater with hkg | hkg
        · obtain ⟨t, ht⟩ := hpassed' k x p hk hkg hx hp
          exact ⟨t, by rw [ht]; decide⟩
        · exact hz.back k x hkg hk' hx
    have hup : place < hi → ∀ x, b.items[place]? = some x → compare.NotBefore x p :=
      fun h x hx => hstop h x p hx hp
    rw [meet_eq, hc, ok_bind]
    dsimp only
    rw [hd, ok_bind]
    dsimp only
    split_ifs with hmeet
    · exact ⟨place, d, rfl, hitems' ▸ .refl, Nat.le_trans hlo hge, hhi, by rw [hitems', hp],
        hitems' ▸ hzone.close hmeet hup⟩
    · obtain ⟨e, he, hre, hpl, hpl', hswap⟩ :=
        Bench.swapAt_ok (b := d) lo hi place place' ⟨by omega, hhi⟩ ⟨hge', by omega⟩
          (by rw [hitems']; exact hs)
      rw [he, Except.bind]
      have hp' : e.items[hi]? = some p := by
        rw [hswap, Array.getElem?_swap, if_neg (by omega), if_neg (by omega), hitems', hp]
      have hzone' : Zoned compare lo hi (place + 1) place' p e.items := by
        rw [← hitems'] at hzone hs hup hstop'
        rw [hswap]
        exact hzone.exchange (by omega) (by omega) hs (hup (by omega))
          fun x hx => hstop' (by omega) x p hx (by rw [hitems', hp])
      obtain ⟨q, f, hf, hre', hq, hq', hpf, hzf⟩ :=
        ih place' hlt' (by omega) (by omega) (by omega) (by omega)
          (by rw [hre.size_eq, hitems']; exact hs) hp' hzone'
      exact ⟨q, f, hf, (hitems' ▸ hre).trans hre', hq, hq', hpf, hzf⟩

/-- A span split at a place: the item there is `p`, and the comparison may deny that those in
front of it come after `p` and that those behind it come before `p`. -/
structure Split (compare : Comparison τ α) (lo hi place : Nat) (p : α) (xs : Array α) : Prop where
  pivot : xs[place]? = some p
  front : ∀ k x, lo ≤ k → k < place → xs[k]? = some x → compare.NotAfter x p
  back : ∀ k x, place < k → k ≤ hi → xs[k]? = some x → compare.NotBefore x p

namespace Split

variable {compare : Comparison τ α} {place : Nat} {p : α} {xs ys : Array α}

/-- Rearranging the part in front of the pivot keeps the span split. -/
lemma rearranged_front (h : Split compare lo hi place p xs) {k : Nat} (hk : k < place)
    (hre : Rearranged lo k xs ys) : Split compare lo hi place p ys := by
  refine ⟨?_, ?_, ?_⟩
  · rw [hre.getElem?_outside (.inr hk), h.pivot]
  · intro i x hi hi' hx
    rcases Nat.lt_or_ge k i with hki | hki
    · rw [hre.getElem?_outside (.inr hki)] at hx
      exact h.front i x hi hi' hx
    · obtain ⟨i', hi'', hx'⟩ := hre.exists_source ⟨hi, hki⟩ hx
      exact h.front i' x hi''.1 (by omega) hx'
  · intro i x hi hi' hx
    rw [hre.getElem?_outside (.inr (Nat.lt_trans hk hi))] at hx
    exact h.back i x hi hi' hx

/-- Rearranging the part behind the pivot keeps the span split. -/
lemma rearranged_back (h : Split compare lo hi place p xs)
    (hre : Rearranged (place + 1) hi xs ys) : Split compare lo hi place p ys := by
  refine ⟨?_, ?_, ?_⟩
  · rw [hre.getElem?_outside (.inl (Nat.lt_succ_self place)), h.pivot]
  · intro i x hi hi' hx
    rw [hre.getElem?_outside (.inl (by omega))] at hx
    exact h.front i x hi hi' hx
  · intro i x hi hi' hx
    obtain ⟨i', hi'', hx'⟩ := hre.exists_source ⟨hi, hi'⟩ hx
    exact h.back i' x hi''.1 hi''.2 hx'

end Split

/-- When the pivot changes places with the item where the scans met, it splits the span. -/
lemma Zoned.split {compare : Comparison τ α} {place : Nat} {p : α} {xs : Array α}
    (hz : Zoned compare lo hi place place p xs) (hhi : place ≤ hi)
    (hs : hi < xs.size) (hp : xs[hi]? = some p) :
    Split compare lo hi place p (xs.swap place hi (by omega) hs) := by
  have hswap : ∀ k, (xs.swap place hi (by omega) hs)[k]?
      = if hi = k then xs[place]? else if place = k then some p else xs[k]? := by
    intro k
    rw [Array.getElem?_swap, ← hp, Array.getElem?_eq_getElem hs,
      Array.getElem?_eq_getElem (show place < xs.size by omega)]
  refine ⟨?_, ?_, ?_⟩
  · rw [hswap, if_pos rfl]
    split_ifs with heq
    · rw [← heq, hp]
    · rfl
  · intro k x hk hk' hx
    rw [hswap, if_neg (by omega), if_neg (by omega)] at hx
    exact hz.front k x hk hk' hx
  · intro k x hk hk' hx
    rw [hswap, if_neg (show place ≠ k by omega)] at hx
    split_ifs at hx with heq
    · exact hz.back place x (Nat.le_refl _) (by omega) hx
    · exact hz.back k x (Nat.le_of_lt hk) (by omega) hx

/-- The partition of a span goes through and rearranges the span. It splits it at a place inside,
around the item that was in the middle. -/
lemma partition_rearranged (compare : Comparison τ α) (hlt : lo < hi) (hs : hi < b.items.size) :
    ∃ place c, partition compare lo hi b = .ok (place, c) ∧ Rearranged lo hi b.items c.items
      ∧ lo ≤ place ∧ place ≤ hi
      ∧ ∃ p, b.items[lo + (hi - lo) / 2]? = some p ∧ Split compare lo hi place p c.items := by
  have hmid : lo + (hi - lo) / 2 < b.items.size := by omega
  obtain ⟨c, hc, hre, _, hhi, hswap⟩ :=
    Bench.swapAt_ok lo hi (lo + (hi - lo) / 2) hi
      ⟨by omega, by omega⟩ ⟨by omega, Nat.le_refl hi⟩ hs
  have hp : c.items[hi]? = some b.items[lo + (hi - lo) / 2] := by
    rw [hswap, Array.getElem?_swap, if_pos rfl]
  have hs' : hi < c.items.size := by rw [hre.size_eq]; exact hs
  obtain ⟨place, d, hd, hre', hlo, hhi', hp', hz⟩ :=
    meet_ok compare (Nat.le_refl lo) (Nat.le_of_lt hlt) hlt (Nat.le_refl hi) hs' hp
      ⟨fun k _ hk hk' => by omega, fun k _ hk hk' => by omega⟩
  have hs'' : hi < d.items.size := by rw [hre'.size_eq]; exact hs'
  obtain ⟨e, he, hre'', _, _, hswap'⟩ :=
    Bench.swapAt_ok lo hi place hi ⟨hlo, hhi'⟩ ⟨by omega, Nat.le_refl hi⟩ hs''
  refine ⟨place, e, ?_, (hre.trans hre').trans hre'', hlo, hhi', _,
    Array.getElem?_eq_getElem hmid, hswap' ▸ hz.split hhi' hs'' hp'⟩
  rw [partition, hc, ok_bind, hd, ok_bind]
  dsimp only
  rw [he]
  rfl

end AnchoredArrays.Sorting
