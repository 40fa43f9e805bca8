import AnchoredArrays.Sorting.Bench

/-!
Partition of a span around its middle item. The middle item is parked at the end; two scans, from
below over the items that come before it and from above over those that come after it, meet and
exchange what they stop at; then the parked item takes its place.

* `partition`: the place of the pivot and the items around it;
* `scanDown_lt`: the scan from above always moves, so the loop ends;
* `partition_mem`: the pivot's place lies inside the span.
-/

namespace AnchoredArrays.Sorting

variable {τ α : Type}

/-- The first place from `less` on whose item does not come before the pivot at `hi`. -/
def scanUp (compare : Comparison τ α) (lo hi less : Nat) (b : Bench τ α) :
    Except Fault (Nat × Bench τ α) :=
  if less < hi then do
    let (o, b) ← b.compareAt compare lo hi less hi
    if o = .lt then scanUp compare lo hi (less + 1) b else pure (less, b)
  else
    pure (less, b)
termination_by hi - less

/-- The last place below `greater` whose item does not come after the pivot at `hi`, or `lo`. -/
def scanDown (compare : Comparison τ α) (lo hi : Nat) :
    Nat → Bench τ α → Except Fault (Nat × Bench τ α)
  | 0, _ => .error .overflow
  | greater + 1, b =>
    if greater = lo then
      .ok (greater, b)
    else
      match b.compareAt compare lo hi greater hi with
      | .error e => .error e
      | .ok (o, b) => if o = .gt then scanDown compare lo hi greater b else .ok (greater, b)

/-- The scan from above moves down by at least one. -/
theorem scanDown_lt {compare : Comparison τ α} {lo hi greater place : Nat} {b c : Bench τ α}
    (h : scanDown compare lo hi greater b = .ok (place, c)) : place < greater := by
  induction greater generalizing b with
  | zero => cases h
  | succ n ih =>
    unfold scanDown at h
    split at h
    · cases h; omega
    · split at h
      · cases h
      · split at h
        · have := ih h; omega
        · cases h; omega

/-- Exchanges what the two scans stop at until they meet; the place where they do. -/
def meet (compare : Comparison τ α) (lo hi less greater : Nat) (b : Bench τ α) :
    Except Fault (Nat × Bench τ α) :=
  match scanUp compare lo hi less b with
  | .error e => .error e
  | .ok (less, b) =>
    match _h : scanDown compare lo hi greater b with
    | .error e => .error e
    | .ok (place, b) =>
      if place ≤ less then
        .ok (less, b)
      else
        match b.swapAt lo hi less place with
        | .error e => .error e
        | .ok b => meet compare lo hi (less + 1) place b
termination_by greater
decreasing_by exact scanDown_lt _h

/-- Partitions the span from `lo` to `hi` around its middle item; the place of that item. -/
def partition (compare : Comparison τ α) (lo hi : Nat) (b : Bench τ α) :
    Except Fault (Nat × Bench τ α) := do
  let b ← b.swapAt lo hi (lo + (hi - lo) / 2) hi
  let (less, b) ← meet compare lo hi lo hi b
  let b ← b.swapAt lo hi less hi
  pure (less, b)

/-- The place of the pivot lies inside the span. -/
theorem partition_mem {compare : Comparison τ α} {lo hi place : Nat} {b c : Bench τ α}
    (h : partition compare lo hi b = .ok (place, c)) : lo ≤ place ∧ place ≤ hi := by
  unfold partition at h
  cases h1 : b.swapAt lo hi (lo + (hi - lo) / 2) hi with
  | error e => rw [h1] at h; cases h
  | ok b1 =>
    rw [h1] at h
    cases h2 : meet compare lo hi lo hi b1 with
    | error e => simp [bind, Except.bind, h2] at h
    | ok p =>
      simp only [bind, Except.bind, h2] at h
      cases h3 : p.2.swapAt lo hi p.1 hi with
      | error e => simp [h3] at h
      | ok b3 =>
        simp only [h3, pure, Except.pure, Except.ok.injEq, Prod.mk.injEq] at h
        exact h.1 ▸ (Bench.mem_of_swapAt h3).1

end AnchoredArrays.Sorting
