import AnchoredArrays.Proofs.Anchored.Laid
import AnchoredArrays.Proofs.Call.Plan
import AnchoredArrays.Anchored.Fill

/-!
Filling cells. The cells are visited in blocks, but in ascending order all the same, so those
written so far are always the first ones.

* `visits_eq`, `drop_visits`: blocks and rest together are all cells, in order;
* `begun`, `copying`, `abandoning`: the cells and the frame after a number of copies, and the frame
  after they were dropped;
* `writeCopies_step`, `writeCopies_stop`: one copy is written, or there is none;
  `writeCopies_passes`: **the loop passes** through every number of copies up to the limit;
* `repeatedly_enough`, `repeatedly_exhausted`: **a filled buffer** holds copies of the element and,
  last, the element itself, or everything was dropped; `repeatedly_cases`: there is no other way;
* `repeatedly_allOrNothing`, `repeatedly_dropped`: so what was copied is in the buffer, or dropped.
-/

namespace AnchoredArrays.Fill

open Element Call

variable {α σ : Type} [Element α] {supply : Supply} {x : α} {cells : Array (Cell α)} {f : Frame σ α}
  {m n : Nat}

/-! ### The order of the cells -/

/-- Whole blocks, one after the other, are all cells in front of the rest. -/
lemma blocks_eq (n : Nat) : blocks n = List.range (n / stride * stride) := by
  rw [blocks]
  induction n / stride with
  | zero => rfl
  | succ q ih =>
    rw [List.range_succ, List.flatMap_append, ih, Nat.succ_mul, List.range_add]
    simp

/-- After cells that were visited in order from the first one on, it goes on with the next. -/
lemma filled_range (n : Nat) : filled (List.range n) = n := by
  cases n with
  | zero => rfl
  | succ n => rw [filled, List.range_succ, List.getLast?_concat]; rfl

/-- The cells are visited in ascending order. -/
lemma visits_eq (n : Nat) : visits n = List.range' 0 n := by
  have hle : n / stride * stride ≤ n := Nat.div_mul_le_self n stride
  have happend := List.range'_append_1 (s := 0) (m := n / stride * stride)
    (n := n - n / stride * stride)
  rw [Nat.zero_add, Nat.add_sub_cancel' hle] at happend
  rw [visits, blocks_eq, filled_range, List.range_eq_range', happend]

/-- What is left to be visited starts with the cell after those that were. -/
lemma drop_visits (hm : m < n) : (visits n).drop m = m :: (visits n).drop (m + 1) := by
  have hlength : m < (visits n).length := by rwa [visits_eq, List.length_range']
  rw [List.drop_eq_getElem_cons hlength]
  congr 1
  simp [visits_eq]

/-! ### Cells and frames -/

/-- The cells with copies of `x` in the first `m` of them. -/
def begun (x : α) (m : Nat) (cells : Array (Cell α)) : Array (Cell α) :=
  (List.replicate m (Cell.written (Element.copy x)) ++ cells.toList.drop m).toArray

/-- The frame after `m` copies of `x`. -/
def copying (x : α) (m : Nat) (f : Frame σ α) : Frame σ α :=
  { f with
    copiesLeft := f.copiesLeft.map (· - m)
    tally := { f.tally with copied := .ofList (List.replicate m x) ++ f.tally.copied } }

/-- The frame after `m` copies of `x` were dropped, and then `x` itself. -/
def abandoning (x : α) (m : Nat) (f : Frame σ α) : Frame σ α :=
  { f with tally := { f.tally with
      dropped := .single x ++ (.ofList (List.replicate m (Element.copy x)) ++ f.tally.dropped) } }

@[simp] lemma begun_zero : begun x 0 cells = cells := by simp [begun]

@[simp] lemma copying_zero : copying x 0 f = f := by
  have hcopied : Slots.ofList (List.replicate 0 x) ++ f.tally.copied = f.tally.copied :=
    Slots.ext (by simp)
  have hleft : f.copiesLeft.map (· - 0) = f.copiesLeft := by cases f.copiesLeft <;> rfl
  rw [copying, hcopied, hleft]

/-- One more copy. -/
lemma copying_succ : copying x 1 (copying x m f) = copying x (m + 1) f := by
  have hcopied : Slots.ofList (List.replicate 1 x)
        ++ (.ofList (List.replicate m x) ++ f.tally.copied)
      = Slots.ofList (List.replicate (m + 1) x) ++ f.tally.copied :=
    Slots.ext (by simp [List.replicate_succ])
  simp only [copying, Option.map_map, hcopied]
  rfl

lemma toList_begun (x : α) (m : Nat) (cells : Array (Cell α)) : (begun x m cells).toList
    = List.replicate m (Cell.written (Element.copy x)) ++ cells.toList.drop m := rfl

/-! ### One copy -/

/-- A copy goes through if the limit is not reached. -/
lemma copyOne_apply (supply : Supply) (x : α) (h : f.copiesLeft ≠ some 0) :
    copyOne x supply f = (.ok (Element.copy x), copying x 1 f) := by
  have hone : Slots.single x = .ofList (List.replicate 1 x) := rfl
  rw [copyOne, bind_apply, copyAll]
  cases hleft : f.copiesLeft with
  | none =>
    simp only [copying, hleft, hone]
    rfl
  | some left =>
    have hpos : (Slots.single x).length ≤ left := by
      rw [Slots.length_single]
      exact Nat.one_le_iff_ne_zero.2 fun hnone => h (hnone ▸ hleft)
    dsimp only
    rw [if_pos hpos]
    simp only [copying, hleft, hone, Slots.length_ofList, List.length_replicate]
    rfl

/-- No copy goes through at the limit. -/
lemma copyOne_exhausted (supply : Supply) (x : α) (h : f.copiesLeft = some 0) :
    copyOne x supply f = (.error (.panic .copiesExhausted), f) := by
  have hcopied : (Slots.single x).take 0 ++ f.tally.copied = f.tally.copied := Slots.ext (by simp)
  have hleaked : ((Slots.single x).take 0).map Element.copy ++ f.tally.leaked = f.tally.leaked :=
    Slots.ext (by simp)
  rw [copyOne, bind_apply, copyAll, h]
  simp only [Slots.length_single, hcopied, hleaked]
  rw [if_neg (by omega), ← h]

/-- Copies that were written are dropped without a fault, and then the element itself. -/
lemma abandon_begun (supply : Supply) (x : α) (m : Nat) (cells : Array (Cell α)) (f : Frame σ α) :
    abandon x m (begun x m cells) supply f = (.ok (), abandoning x m f) := by
  have hsettle : (Buffer.settle (.ofList ((begun x m cells).toList.take m)) : Call σ α (Slots α))
      = pure (.ofList (List.replicate m (Element.copy x))) := by
    refine Buffer.settle_of_toList ?_
    rw [Slots.toList_ofList, Slots.toList_ofList, toList_begun, List.map_replicate,
      List.take_left' List.length_replicate]
  rw [abandon, hsettle, pure_bind]
  rfl

/-- The cell behind the copies is written. -/
lemma writeAt_begun (hm : m < cells.size) (y : α) :
    (writeAt m y (begun x m cells) : Call σ α (Array (Cell α)))
      = pure (List.replicate m (Cell.written (Element.copy x)) ++ Cell.written y
          :: cells.toList.drop (m + 1)).toArray := by
  have hcells : (begun x m cells).toList = List.replicate m (Cell.written (Element.copy x))
      ++ cells.toList[m] :: cells.toList.drop (m + 1) := by
    rw [toList_begun, List.drop_eq_getElem_cons (by simpa using hm)]
  have hsize : m < (begun x m cells).size := by
    rw [← Array.length_toList, hcells]
    simp
  rw [writeAt, dif_pos hsize]
  congr 1
  apply Array.toList_inj.1
  rw [Array.toList_set, hcells]
  simp

/-- The next copy is written behind those that are there. -/
lemma writeAt_next (hm : m < cells.size) :
    (writeAt m (Element.copy x) (begun x m cells) : Call σ α (Array (Cell α)))
      = pure (begun x (m + 1) cells) := by
  rw [writeAt_begun hm, begun, List.replicate_succ', List.append_assoc, List.singleton_append]

/-! ### The loop -/

/-- One copy is made and written, and the loop goes on. -/
lemma writeCopies_step (hm : m < cells.size) (h : f.copiesLeft ≠ some 0) (rest : List Nat) :
    writeCopies x (m :: rest) m (begun x m cells) supply f
      = writeCopies x rest (m + 1) (begun x (m + 1) cells) supply (copying x 1 f) := by
  rw [writeCopies, bind_apply, guarding, copyOne_apply supply x h]
  dsimp only
  rw [writeAt_next hm, pure_bind]

/-- At the limit the loop breaks off, and drops what was written and the element itself. -/
lemma writeCopies_stop (h : f.copiesLeft = some 0) (i : Nat) (rest : List Nat) :
    writeCopies x (i :: rest) m (begun x m cells) supply f
      = (.error (.panic .copiesExhausted), abandoning x m f) := by
  rw [writeCopies, bind_apply, guarding, copyOne_exhausted supply x h]
  dsimp only
  rw [Call.bind, abandon_begun]
  rfl

/-- **The loop passes** through every number of copies up to the limit: each of them is written into
the cell behind those before it, and the cells from there on are as they were. -/
lemma writeCopies_passes (hn : n ≤ cells.size) (hm : m ≤ n)
    (hleft : ∀ left, f.copiesLeft = some left → m ≤ left) :
    writeCopies x (visits n) 0 cells supply f
      = writeCopies x ((visits n).drop m) m (begun x m cells) supply (copying x m f) := by
  induction m with
  | zero => rw [List.drop_zero, begun_zero, copying_zero]
  | succ m ih =>
    have hnext : (copying x m f).copiesLeft ≠ some 0 := by
      intro hnone
      obtain ⟨left, hsome, hzero⟩ := Option.map_eq_some_iff.1 hnone
      have hlt := hleft left hsome
      omega
    calc writeCopies x (visits n) 0 cells supply f
      _ = writeCopies x ((visits n).drop m) m (begun x m cells) supply (copying x m f) :=
          ih (Nat.le_of_succ_le hm) fun left hsome => Nat.le_of_succ_le (hleft left hsome)
      _ = writeCopies x (m :: (visits n).drop (m + 1)) m (begun x m cells) supply
            (copying x m f) := by rw [drop_visits hm]
      _ = writeCopies x ((visits n).drop (m + 1)) (m + 1) (begun x (m + 1) cells) supply
            (copying x (m + 1) f) := by
          rw [writeCopies_step (Nat.lt_of_lt_of_le hm hn) hnext, copying_succ]

/-- With enough copies the loop writes all cells that it visits. -/
lemma writeCopies_enough (hn : n ≤ cells.size)
    (hleft : ∀ left, f.copiesLeft = some left → n ≤ left) :
    writeCopies x (visits n) 0 cells supply f = (.ok (begun x n cells), copying x n f) := by
  have hdone : (visits n).drop n = [] := by
    rw [visits_eq]
    exact List.drop_eq_nil_of_le (Nat.le_of_eq List.length_range')
  rw [writeCopies_passes hn (Nat.le_refl n) hleft, hdone]
  rfl

/-- With too few copies the loop drops those that were made, and the element itself. -/
lemma writeCopies_exhausted (hn : n ≤ cells.size) (hleft : f.copiesLeft = some m) (hm : m < n) :
    writeCopies x (visits n) 0 cells supply f
      = (.error (.panic .copiesExhausted), abandoning x m (copying x m f)) := by
  have henough : ∀ left, f.copiesLeft = some left → m ≤ left := fun left hsome =>
    Nat.le_of_eq (Option.some.inj (hleft.symm.trans hsome))
  have hnone : (copying x m f).copiesLeft = some 0 := by
    rw [copying, hleft, Option.map_some, Nat.sub_self]
  rw [writeCopies_passes hn (Nat.le_of_lt hm) henough, drop_visits hm, writeCopies_stop hnone]

/-! ### A filled buffer -/

/-- Nothing is written into an empty buffer, and the element is dropped. -/
lemma repeatedly_none (supply : Supply) (x : α) (hempty : cells.size = 0) (f : Frame σ α) :
    repeatedly x cells supply f = (.ok cells, { f with tally :=
      { f.tally with dropped := .single x ++ f.tally.dropped } }) := by
  rw [repeatedly, if_pos hempty]
  rfl

/-- With enough copies every cell but the last one has a copy, and the last one the element. -/
lemma repeatedly_enough (supply : Supply) (x : α) (hsome : cells.size ≠ 0)
    (hleft : ∀ left, f.copiesLeft = some left → cells.size - 1 ≤ left) :
    repeatedly x cells supply f
      = (.ok ((List.replicate (cells.size - 1) (Element.copy x) ++ [x]).map Cell.written).toArray,
          copying x (cells.size - 1) f) := by
  have hlast : cells.size - 1 < cells.size := by omega
  have hdone : cells.toList.drop (cells.size - 1 + 1) = [] :=
    List.drop_eq_nil_of_le (by rw [Array.length_toList]; omega)
  rw [repeatedly, if_neg hsome, bind_apply, writeCopies_enough (Nat.le_of_lt hlast) hleft]
  dsimp only
  rw [writeAt_begun hlast, hdone, List.map_append, List.map_replicate]
  rfl

/-- With too few copies those that were made are dropped, and the element itself. -/
lemma repeatedly_exhausted (supply : Supply) (x : α) (hleft : f.copiesLeft = some m)
    (hm : m < cells.size - 1) :
    repeatedly x cells supply f
      = (.error (.panic .copiesExhausted), abandoning x m (copying x m f)) := by
  rw [repeatedly, if_neg (by omega), bind_apply, writeCopies_exhausted (Nat.sub_le _ _) hleft hm]

/-- There are no cells, enough copies, or too few of them. -/
lemma repeatedly_cases (cells : Array (Cell α)) (f : Frame σ α) :
    cells.size = 0
      ∨ (cells.size ≠ 0 ∧ ∀ left, f.copiesLeft = some left → cells.size - 1 ≤ left)
      ∨ ∃ m, f.copiesLeft = some m ∧ m < cells.size - 1 := by
  by_cases hempty : cells.size = 0
  · exact .inl hempty
  by_cases hleft : ∀ left, f.copiesLeft = some left → cells.size - 1 ≤ left
  · exact .inr (.inl ⟨hempty, hleft⟩)
  · obtain ⟨left, hfew⟩ := not_forall.1 hleft
    obtain ⟨hlimit, hlt⟩ := Classical.not_imp.1 hfew
    exact .inr (.inr ⟨left, hlimit, Nat.not_le.1 hlt⟩)

/-- A filled buffer holds copies of the element in order and the element itself at its end. An empty
one stays as it is, and the element is dropped. -/
lemma repeatedly_allOrNothing (x : α) (cells : Array (Cell α)) (f : Frame σ α) :
    AllOrNothing (repeatedly x cells)
      (fun r s => r.toList = (if cells.size = 0 then []
          else List.replicate (cells.size - 1) (Element.copy x) ++ [x]).map Cell.written
        ∧ s = f.held) supply f := by
  obtain hempty | ⟨hsome, hleft⟩ | ⟨m, hleft, hm⟩ := repeatedly_cases cells f
  · refine .of_ok (repeatedly_none supply x hempty f) ⟨?_, rfl⟩
    rw [if_pos hempty, Array.eq_empty_of_size_eq_zero hempty]
    rfl
  · refine .of_ok (repeatedly_enough supply x hsome hleft) ⟨?_, rfl⟩
    rw [if_neg hsome]
  · exact .of_error (repeatedly_exhausted supply x hleft hm) rfl fun _ hfault => nomatch hfault

/-- If a buffer cannot be filled, the copies that were made are dropped, and the element itself. -/
lemma repeatedly_dropped {e : Halt} {g : Frame σ α}
    (hrun : repeatedly x cells supply f = (.error e, g)) :
    ∃ made : List α, g.tally.copied.toList = made ++ f.tally.copied.toList
      ∧ g.tally.dropped.toList = x :: made.map Element.copy ++ f.tally.dropped.toList := by
  obtain hempty | ⟨hsome, hleft⟩ | ⟨m, hleft, hm⟩ := repeatedly_cases cells f
  · rw [repeatedly_none supply x hempty] at hrun
    cases hrun
  · rw [repeatedly_enough supply x hsome hleft] at hrun
    cases hrun
  · rw [repeatedly_exhausted supply x hleft hm] at hrun
    cases hrun
    exact ⟨List.replicate m x, by simp [copying, abandoning], by simp [copying, abandoning]⟩

end AnchoredArrays.Fill
