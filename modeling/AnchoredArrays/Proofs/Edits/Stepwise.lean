import AnchoredArrays.Proofs.Anchored.Contents
import AnchoredArrays.Proofs.Edits.Outcomes

/-!
Bulk edits beside single ones on a generous supply. One block of elements that is checked and moved
at once ends as the run of single edits does, each with a check and a shift of its own.

* `pushAll`, `insertEach`, `removeEach`: the runs of single edits;
* `Amounts`: a call amounts to the array of some elements, or there is no place for them;
  `amounts_bind`: **one step** finds a place where the run that it begins does;
* `pushAll_amounts`, `insertEach_amounts`, `removeEach_ends`: **a run** of single edits, by
  induction on its elements; `placing_amounts`, `growth_amounts`, `insertion_amounts`: a bulk edit;
* `Alike`: both go through or both fail for want of memory;
* `stepwise_edits`: **bulk edits** equal their element-wise counterparts.
-/

namespace AnchoredArrays.Anchored

open Element Call

variable {α σ β : Type} [Element α] {supply : Supply} {a b : Anchored α}
  {f : Frame (Anchored α) α} {lower : Int64} {items xs ys : List α}

/-! ### Runs of single edits -/

/-- Pushes elements one after the other. -/
def pushAll : List α → Call (Anchored α) α Unit
  | [] => pure ()
  | x :: rest => do
    push x
    pushAll rest

/-- Inserts an element at a position, if there is such a position: behind the greatest one there is
no memory. -/
def insertAt (p : Int) (x : α) : Call (Anchored α) α Unit :=
  if Position.greatest.toInt < p then Call.fail .insert .noMemory else insert (Int64.ofInt p) x

/-- Inserts elements one after the other, the first of them at `p` and each at the position after
the one before it. -/
def insertEach (p : Int) : List α → Call (Anchored α) α Unit
  | [] => pure ()
  | x :: rest => do
    insertAt p x
    insertEach (p + 1) rest

/-- Removes the element at a position as often as asked for; the elements in order. -/
def removeEach (i : Int64) : Nat → Call (Anchored α) α (List α)
  | 0 => pure []
  | n + 1 => do
    let x ← remove i
    let rest ← removeEach i n
    pure (x :: rest)

/-! ### What runs amount to -/

/-- The outcome is the array of these elements if they find a place, and a failure for want of
memory if they do not. -/
structure Amounts (lower : Int64) (items : List α) (outcome : Except Halt (Anchored α)) : Prop where
  ok : Room α lower items.length → outcome = .ok (laid lower items)
  failure : ¬ Room α lower items.length →
    ∃ e, outcome = .error (.failure e) ∧ e.kind = .memory

/-- **One step** finds a place where the run that it begins does, so that the run amounts to its
elements if the steps after this one do. -/
lemma amounts_bind {mid : List α} {c : Call (Anchored α) α Unit}
    {next : Unit → Call (Anchored α) α Unit} (hc : Amounts lower mid (left (c supply f)))
    (hsome : mid ≠ []) (hle : mid.length ≤ items.length)
    (hnext : ∀ g : Frame (Anchored α) α, g.held = laid lower mid → Room α lower mid.length →
      Amounts lower items (left (next () supply g))) :
    Amounts lower items (left ((c >>= next) supply f)) := by
  have hpos := List.length_pos_iff.2 hsome
  rw [bind_apply]
  by_cases hroom : Room α lower mid.length
  · have hleft := hc.ok hroom
    rcases hrun : c supply f with ⟨_ | ⟨⟩, g⟩
    · rw [hrun] at hleft
      cases hleft
    · rw [hrun] at hleft
      exact hnext g (Except.ok.inj hleft) hroom
  · obtain ⟨e, hleft, hkind⟩ := hc.failure hroom
    rcases hrun : c supply f with ⟨_ | ⟨⟩, g⟩
    · rw [hrun] at hleft
      refine ⟨fun hplace => ?_, fun _ => ⟨e, hleft, hkind⟩⟩
      exact absurd (hplace.of_le hle fun hz => absurd hz (Nat.ne_of_gt hpos)) hroom
    · rw [hrun] at hleft
      cases hleft

/-- A bulk edit amounts to the longer array. -/
lemma growth_amounts (h : a.WellFormed) (operation : Operation) (start : Nat) (new : List α) :
    Amounts a.lower (a.toList.take start ++ new ++ a.toList.drop start)
      ((decided operation (growth a start new)).map Prod.snd) := by
  refine ⟨fun hroom => ?_, fun hroom => ?_⟩
  · rw [length_spliced] at hroom
    obtain ⟨buffers, hgrowth⟩ := growth_of_room h start hroom
    rw [hgrowth]
    rfl
  · rw [length_spliced] at hroom
    rw [growth_of_not_room h hroom]
    exact ⟨_, rfl, rfl⟩

/-- Elements that are placed amount to their array. -/
lemma placing_amounts (held : σ) (hlower : lower ≠ Position.least) (operation : Operation)
    (items : List α) :
    Amounts lower items ((decided operation (placing held lower items)).map Prod.fst) := by
  rw [placing, if_neg fun hnone => hlower hnone.2]
  refine ⟨fun hroom => ?_, fun hroom => ?_⟩
  · rw [if_neg (not_or.2 ⟨Nat.not_lt.2 hroom.fits, Int.not_lt.2 hroom.ends⟩)]
    rfl
  · rw [if_pos]
    · exact ⟨_, rfl, rfl⟩
    · by_contra hlong
      obtain ⟨hfits, hends⟩ := not_or.1 hlong
      exact hroom ⟨Nat.not_lt.1 hfits, Int.not_lt.1 hends, fun _ => hlower⟩

/-- An array amounts to its own elements. -/
lemma WellFormed.amounts (h : a.WellFormed) : Amounts a.lower a.toList (.ok a) where
  ok _ := congrArg Except.ok h.eq_laid
  failure hroom := absurd h.room hroom

/-- **A run** of pushes amounts to the array with the elements behind its own. -/
lemma pushAll_amounts (h : f.held.WellFormed) (hgenerous : supply.Generous) (new : List α) :
    Amounts f.held.lower (f.held.toList ++ new) (left (pushAll new supply f)) := by
  induction new generalizing f with
  | nil =>
    rw [List.append_nil]
    exact h.amounts
  | cons x rest ih =>
    have hstep : Amounts f.held.lower (f.held.toList ++ [x]) (left (push x supply f)) := by
      have hpush := growth_amounts h .push f.held.toList.length [x]
      rw [List.take_length, List.drop_length, List.append_nil] at hpush
      rwa [left_eq (push_ends h hgenerous x)]
    refine amounts_bind hstep (by simp) (by simp) fun g hg hroom => ?_
    have hrest := ih (f := g) (hg ▸ hroom.wellFormed)
    rw [hg, laid_lower, laid_toList, List.append_assoc] at hrest
    exact hrest

/-- A position splits the elements, which is where others are inserted. -/
lemma insertion_amounts (h : a.WellFormed) (hitems : a.toList = xs ++ ys) {i : Int64}
    (hi : i.toInt = a.lower.toInt + xs.length) (operation : Operation) (new : List α) :
    Amounts a.lower (xs ++ new ++ ys) ((decided operation (insertion a i new)).map Prod.snd) := by
  have hgrowth := growth_amounts h operation xs.length new
  rw [hitems, List.take_left, List.drop_left] at hgrowth
  have hbehind : insertion (laid a.lower (xs ++ ys)) i new
      = growth (laid a.lower (xs ++ ys)) xs.length new := insertion_behind hi
  rw [← hitems, ← h.eq_laid] at hbehind
  rwa [hbehind]

/-- An insertion at a position that does not exist has no place either. -/
lemma insertAt_amounts (h : f.held.WellFormed) (hgenerous : supply.Generous)
    (hitems : f.held.toList = xs ++ ys) {p : Int} (hp : p = f.held.lower.toInt + xs.length)
    (x : α) : Amounts f.held.lower (xs ++ [x] ++ ys) (left (insertAt p x supply f)) := by
  rw [insertAt]
  split_ifs with hbehind
  · refine ⟨fun hroom => absurd hroom.ends (Int.not_le.2 ?_), fun _ => ⟨_, rfl, rfl⟩⟩
    simp only [List.length_append, List.length_singleton]
    omega
  · have hlow := f.held.lower.le_toInt
    rw [Position.toInt_greatest] at hbehind
    have hi : (Int64.ofInt p).toInt = f.held.lower.toInt + xs.length := by
      rw [Int64.toInt_ofInt_of_le (by omega) (by omega), hp]
    rw [left_eq (insert_ends h hgenerous _ x)]
    exact insertion_amounts h hitems hi .insert [x]

/-- **A run** of insertions amounts to the array with the elements between its own. -/
lemma insertEach_amounts (h : f.held.WellFormed) (hgenerous : supply.Generous)
    (hitems : f.held.toList = xs ++ ys) {p : Int} (hp : p = f.held.lower.toInt + xs.length)
    (new : List α) : Amounts f.held.lower (xs ++ new ++ ys) (left (insertEach p new supply f)) := by
  induction new generalizing f xs p with
  | nil =>
    rw [List.append_nil, ← hitems]
    exact h.amounts
  | cons x rest ih =>
    refine amounts_bind (insertAt_amounts h hgenerous hitems hp x) (by simp) (by simp)
      fun g hg hroom => ?_
    have hnext : p + 1 = f.held.lower.toInt + (xs ++ [x]).length := by
      rw [List.length_append, List.length_singleton]
      omega
    have hrest : Amounts g.held.lower (xs ++ [x] ++ rest ++ ys)
        (left (insertEach (p + 1) rest supply g)) :=
      ih (hg ▸ hroom.wellFormed) (by rw [hg, laid_toList]) (by rw [hg, laid_lower, hnext])
    rw [hg, laid_lower, List.append_assoc xs] at hrest
    exact hrest

/-- **A run** of removals from one position takes the elements there, and leaves those around
them. -/
lemma removeEach_ends (hgenerous : supply.Generous) {i : Int64} {mid : List α}
    (hi : i.toInt = lower.toInt + xs.length) (hrest : Room α lower (xs ++ ys).length)
    (hroom : Room α lower (xs ++ mid ++ ys).length)
    (hheld : f.held = laid lower (xs ++ mid ++ ys)) :
    ends (removeEach i mid.length supply f) = .ok (mid, laid lower (xs ++ ys)) := by
  induction mid generalizing f with
  | nil =>
    rw [List.append_nil] at hheld
    exact ends_ok_iff.2 ⟨rfl, hheld⟩
  | cons x mid ih =>
    have hless : Room α lower (xs ++ (mid ++ ys)).length := by
      refine hroom.of_le (by simp) fun hnone => hrest.starts ?_
      simp only [List.length_append] at hnone ⊢
      omega
    have hsplit : xs ++ (x :: mid) ++ ys = xs ++ [x] ++ (mid ++ ys) := by simp
    rw [hsplit] at hroom hheld
    obtain ⟨buffers, hremoval⟩ := removal_of_room hroom.wellFormed hi hless
    have hstep : ends (remove i supply f) = .ok (x, laid lower (xs ++ (mid ++ ys))) := by
      rw [remove_ends (hheld ▸ hroom.wellFormed) hgenerous, hheld, laid_toList, laid_lower,
        hremoval]
      rfl
    rw [← List.append_assoc] at hless hstep
    refine ends_bind hstep fun g hg => ends_bind (ih hless hg) fun g' hg' => ?_
    exact ends_ok_iff.2 ⟨rfl, hg'⟩

/-! ### Bulk edits beside single ones -/

/-- A bulk edit and a run of single ones end alike: both go through and leave arrays that are the
same, or both fail for want of memory. -/
inductive Alike (same : Anchored α → Anchored α → Prop) :
    Except Halt (Anchored α) → Except Halt (Anchored α) → Prop where
  | ok {b c : Anchored α} (h : same b c) : Alike same (.ok b) (.ok c)
  | failure {e e' : Failure} (h : e.kind = .memory) (h' : e'.kind = .memory) :
    Alike same (.error (.failure e)) (.error (.failure e'))

/-- What ends as a call does that goes through goes through. -/
lemma Alike.eq_ok {steps : Except Halt (Anchored α)} (h : Alike Eq (.ok b) steps) :
    steps = .ok b := by
  cases h with
  | ok hsame => rw [hsame]

/-- What amounts to as many elements ends alike. -/
lemma Amounts.alike {same : Anchored α → Anchored α → Prop} {items' : List α}
    {bulk steps : Except Halt (Anchored α)} (hbulk : Amounts lower items bulk)
    (hsteps : Amounts lower items' steps) (hlength : items.length = items'.length)
    (hsame : same (laid lower items) (laid lower items')) : Alike same bulk steps := by
  by_cases hroom : Room α lower items.length
  · rw [hbulk.ok hroom, hsteps.ok (hlength ▸ hroom)]
    exact .ok hsame
  · obtain ⟨e, rfl, he⟩ := hbulk.failure hroom
    obtain ⟨e', rfl, he'⟩ := hsteps.failure (hlength ▸ hroom)
    exact .failure he he'

/-- What amounts to the same elements leaves the same array. -/
lemma Amounts.alike_eq {bulk steps : Except Halt (Anchored α)} (hbulk : Amounts lower items bulk)
    (hsteps : Amounts lower items steps) : Alike Eq bulk steps :=
  hbulk.alike hsteps rfl rfl

/-- What amounts to elements of equal values leaves arrays that are the same up to copies. -/
lemma Amounts.alike_by {value : α → β} {items' : List α} {bulk steps : Except Halt (Anchored α)}
    (hbulk : Amounts lower items bulk) (hsteps : Amounts lower items' steps)
    (hvalues : items.map value = items'.map value) : Alike (SameBy value) bulk steps := by
  refine hbulk.alike hsteps ?_ (laid_sameBy hvalues)
  simpa only [List.length_map] using congrArg List.length hvalues

/-! ### Each bulk edit -/

/-- An array of given elements has all of them pushed. -/
lemma ofList_stepwise (hgenerous : supply.Generous) (held : σ) (hlower : lower ≠ Position.least)
    (items : List α) :
    ∃ e, ((empty lower).run supply held).1 = .ok e
      ∧ Alike Eq ((ofList lower items).run supply held).1
        (left ((pushAll items).run supply e)) := by
  have hempty : (laid lower ([] : List α)).WellFormed := Room.wellFormed (.zero hlower)
  have hsteps :=
    pushAll_amounts (f := ⟨laid lower [], supply.copies, .blank⟩) hempty hgenerous items
  have hbulk : Amounts lower items ((ofList lower items).run supply held).1 := by
    rw [Call.run, result_eq (ofList_ends hgenerous lower items)]
    exact placing_amounts held hlower .ofList items
  refine ⟨laid lower [], ?_, hbulk.alike_eq ?_⟩
  · rw [empty, Call.run, emptyFor_eq, if_neg hlower]
    rfl
  · rwa [laid_toList, List.nil_append] at hsteps

/-- What is appended is pushed. -/
lemma append_stepwise (h : a.WellFormed) (hb : b.WellFormed) (hgenerous : supply.Generous)
    (held : σ) :
    Alike Eq (left ((append b).run supply a)) (left ((pushAll b.toList).run supply a))
      ∧ Alike Eq ((concat a b).run supply held).1 (left ((pushAll b.toList).run supply a)) := by
  have hsteps := pushAll_amounts (f := ⟨a, supply.copies, .blank⟩) h hgenerous b.toList
  have hgrowth := fun operation => growth_amounts h operation a.toList.length b.toList
  simp only [List.take_length, List.drop_length, List.append_nil] at hgrowth
  constructor
  · rw [Call.run, left_eq (append_ends h hgenerous hb)]
    exact (hgrowth .append).alike_eq hsteps
  · refine Amounts.alike_eq ?_ hsteps
    rw [Call.run, result_eq (concat_ends h hgenerous hb)]
    have hconcat := hgrowth .concat
    cases hends : decided .concat (growth a a.toList.length b.toList) <;> rwa [hends] at hconcat

section

variable {p : Int64} (h : a.WellFormed) (hgenerous : supply.Generous)
  (hlow : a.lower.toInt ≤ p.toInt) (hhigh : p.toInt ≤ a.upper.toInt + 1)

include h hlow hhigh in
/-- The elements in front of a position and those behind it. -/
lemma split_at : ∃ xs ys, a.toList = xs ++ ys ∧ p.toInt = a.lower.toInt + xs.length := by
  have hu := h.toInt_upper
  have hslot : slotOf a.lower p ≤ a.toList.length := by
    rw [slotOf]
    omega
  exact ⟨_, _, (List.take_append_drop _ a.toList).symm, toInt_eq_take hlow hslot⟩

include h hgenerous hlow hhigh in
/-- Elements that are moved in at a position are inserted there. -/
lemma insertMoved_stepwise (hb : b.WellFormed) :
    Alike Eq (left ((insertMoved p b).run supply a))
      (left ((insertEach p.toInt b.toList).run supply a)) := by
  obtain ⟨xs, ys, hitems, hp⟩ := split_at h hlow hhigh
  rw [Call.run, left_eq (insertMoved_ends h hgenerous p hb)]
  exact (insertion_amounts h hitems hp .insertMoved b.toList).alike_eq
    (insertEach_amounts (f := ⟨a, supply.copies, .blank⟩) h hgenerous hitems hp b.toList)

include h hgenerous in
/-- Copies that go in at a position amount to the array with the copies between its elements. -/
lemma insertCopy_amounts (hitems : a.toList = xs ++ ys) (hp : p.toInt = a.lower.toInt + xs.length)
    (hb : b.WellFormed) (hcopies : supply.Lets b.toList.length) :
    Amounts a.lower (xs ++ b.toList.map Element.copy ++ ys)
      (left ((insertCopy p b).run supply a)) := by
  have hends := insertCopy_ends (f := ⟨a, supply.copies, .blank⟩) h hgenerous p hb hcopies
  rw [Call.run, left_eq hends]
  exact insertion_amounts h hitems hp .insertCopy _

variable {value : α → β} (hvalue : ∀ x, value (Element.copy x) = value x)

include h hgenerous hlow hhigh hvalue in
/-- Copies at a position are inserted there. -/
lemma insertCopy_stepwise (hb : b.WellFormed) (hcopies : supply.Lets b.toList.length) :
    Alike (SameBy value) (left ((insertCopy p b).run supply a))
      (left ((insertEach p.toInt b.toList).run supply a)) := by
  obtain ⟨xs, ys, hitems, hp⟩ := split_at h hlow hhigh
  refine (insertCopy_amounts h hgenerous hitems hp hb hcopies).alike_by
    (insertEach_amounts (f := ⟨a, supply.copies, .blank⟩) h hgenerous hitems hp b.toList) ?_
  simp only [List.map_append, values_copies hvalue]

include h hgenerous hlow hhigh hvalue in
/-- Copies of the own elements go in as those of a copy of the array. -/
lemma insertSelf_stepwise (held : σ) (hcopies : supply.Lets a.toList.length) :
    ∃ c : Anchored α, ((Anchored.copy a).run supply held).1 = .ok c ∧ SameBy value c a
      ∧ Alike (SameBy value) (left ((insertSelf p).run supply a))
        (left ((insertCopy p c).run supply a))
      ∧ Alike Eq (left ((insertSelf p).run supply a))
        (left ((insertEach p.toInt c.toList).run supply a)) := by
  obtain ⟨xs, ys, hitems, hp⟩ := split_at h hlow hhigh
  obtain ⟨copies, hcopied⟩ : ∃ copies, copies = a.toList.map Element.copy := ⟨_, rfl⟩
  have hlength : copies.length = a.toList.length := by rw [hcopied, List.length_map]
  have hcopy := copy_ends (f := ⟨held, supply.copies, .blank⟩) h hgenerous hcopies
  have hself : Amounts a.lower (xs ++ copies ++ ys) (left ((insertSelf p).run supply a)) := by
    have hends := insertSelf_ends (f := ⟨a, supply.copies, .blank⟩) h hgenerous p hcopies
    rw [Call.run, left_eq hends, hcopied]
    exact insertion_amounts h hitems hp .insertSelf _
  have hsame : SameBy value (laid a.lower copies) (laid a.lower a.toList) :=
    laid_sameBy (by rw [hcopied, values_copies hvalue])
  have hc : (laid a.lower copies).toList = copies := laid_toList _ _
  rw [← h.eq_laid] at hsame
  rw [← hcopied] at hcopy
  refine ⟨laid a.lower copies, result_eq hcopy, hsame, ?_, ?_⟩
  · refine hself.alike_by (insertCopy_amounts h hgenerous hitems hp
      (Room.wellFormed (h.room_of_length hlength)) (by rwa [hc, hlength])) ?_
    simp only [List.map_append, hc, values_copies hvalue]
  · rw [hc]
    exact hself.alike_eq
      (insertEach_amounts (f := ⟨a, supply.copies, .blank⟩) h hgenerous hitems hp copies)

end

/-- A run of elements is removed from where it starts, in order. -/
lemma removeRun_stepwise (h : a.WellFormed) (hgenerous : supply.Generous) {i n : Int64}
    {cut rest : Anchored α} (hcut : ends ((removeRun i n).run supply a) = .ok (cut, rest)) :
    ends ((removeEach i (min n.toInt (a.upper.toInt - i.toInt + 1)).toNat).run supply a)
      = .ok (cut.toList, rest) := by
  rw [Call.run, removeRun_ends h hgenerous, decided_ok_iff] at hcut
  obtain ⟨buffers, hplan⟩ := hcut
  obtain ⟨-, hrest⟩ := runRemoval_wellFormed h hplan
  obtain ⟨xs, mid, ys, hitems, hi, hlength, hafter, hresult⟩ := runRemoval_parts h hplan
  dsimp only at hrest hafter hresult
  subst hafter hresult
  have hroom := hrest.room
  rw [laid_lower, laid_toList] at hroom
  rw [← hlength, Int.toNat_natCast, laid_toList]
  exact removeEach_ends hgenerous hi hroom (hitems ▸ h.room) (hitems ▸ h.eq_laid)

/-- **Bulk edits** equal their element-wise counterparts on a generous supply. Given elements are
pushed onto an empty array; an array that is appended is pushed; elements that are moved in, and up
to copies those that are copied in, are inserted one behind the other. Either both go through and
leave the same, or both fail for want of memory, and the single edits do at the first element for
which there is no place. A run that is removed is removed from where it starts, in order. -/
theorem stepwise_edits (h : a.WellFormed) (hb : b.WellFormed) (hgenerous : supply.Generous)
    (held : σ) {value : α → β} (hvalue : ∀ x, value (Element.copy x) = value x) :
    (∀ (lower : Int64) (items : List α), lower ≠ Position.least →
        ∃ e, ((empty lower).run supply held).1 = .ok e
          ∧ Alike Eq ((ofList lower items).run supply held).1
            (left ((pushAll items).run supply e)))
      ∧ Alike Eq (left ((append b).run supply a)) (left ((pushAll b.toList).run supply a))
      ∧ Alike Eq ((concat a b).run supply held).1 (left ((pushAll b.toList).run supply a))
      ∧ (∀ p : Int64, a.lower.toInt ≤ p.toInt → p.toInt ≤ a.upper.toInt + 1 →
        Alike Eq (left ((insertMoved p b).run supply a))
            (left ((insertEach p.toInt b.toList).run supply a))
          ∧ (supply.Lets b.toList.length →
            Alike (SameBy value) (left ((insertCopy p b).run supply a))
              (left ((insertEach p.toInt b.toList).run supply a)))
          ∧ (supply.Lets a.toList.length →
            ∃ c : Anchored α, ((Anchored.copy a).run supply held).1 = .ok c ∧ SameBy value c a
              ∧ Alike (SameBy value) (left ((insertSelf p).run supply a))
                (left ((insertCopy p c).run supply a))
              ∧ Alike Eq (left ((insertSelf p).run supply a))
                (left ((insertEach p.toInt c.toList).run supply a))))
      ∧ ∀ i n cut rest, ends ((removeRun i n).run supply a) = .ok (cut, rest) →
        ends ((removeEach i (min n.toInt (a.upper.toInt - i.toInt + 1)).toNat).run supply a)
          = .ok (cut.toList, rest) := by
  obtain ⟨happend, hconcat⟩ := append_stepwise h hb hgenerous held
  refine ⟨fun lower items hlower => ofList_stepwise hgenerous held hlower items, happend, hconcat,
    fun p hlow hhigh => ⟨?_, ?_, ?_⟩, fun i n cut rest => removeRun_stepwise h hgenerous⟩
  · exact insertMoved_stepwise h hgenerous hlow hhigh hb
  · exact insertCopy_stepwise h hgenerous hlow hhigh hvalue hb
  · exact insertSelf_stepwise h hgenerous hlow hhigh hvalue held

/-- Two values are pushed onto an empty array; three values at the smallest position are pushed and
inserted one by one where they are appended and moved in, and up to copies where they are copied in;
and the last two of them are removed one by one. -/
theorem stepwise_edits_lowest :
    lowestThree.WellFormed ∧ Supply.ample.Generous
      ∧ (∀ x : Traced, (Element.copy x).value = x.value)
      ∧ (∃ e, ((empty 1).run .ample ()).1 = .ok e
        ∧ left ((pushAll [⟨10, 0⟩, ⟨20, 0⟩]).run .ample e)
          = .ok (laid 1 ([⟨10, 0⟩, ⟨20, 0⟩] : List Traced)))
      ∧ left ((pushAll lowestThree.toList).run .ample lowestThree)
        = .ok (laid Position.least (lowestThree.toList ++ lowestThree.toList))
      ∧ left ((insertEach (Position.least + 1).toInt lowestThree.toList).run .ample lowestThree)
        = .ok (laid Position.least
          [⟨10, 0⟩, ⟨10, 0⟩, ⟨20, 0⟩, ⟨30, 0⟩, ⟨20, 0⟩, ⟨30, 0⟩])
      ∧ (∃ c, left ((insertCopy (Position.least + 1) lowestThree).run .ample lowestThree) = .ok c
        ∧ SameBy Traced.value c (laid Position.least
          [⟨10, 0⟩, ⟨10, 0⟩, ⟨20, 0⟩, ⟨30, 0⟩, ⟨20, 0⟩, ⟨30, 0⟩]))
      ∧ ends ((removeEach (Position.least + 1) 2).run .ample lowestThree)
        = .ok ([⟨20, 0⟩, ⟨30, 0⟩], laid Position.least [⟨10, 0⟩]) := by
  have h := lowestThree_wellFormed
  have hgenerous := Supply.ample_generous
  have hvalue : ∀ x : Traced, (Element.copy x).value = x.value := fun _ => rfl
  obtain ⟨hplaced, happended, -, hinserted, hremoved⟩ := stepwise_edits h h hgenerous () hvalue
  obtain ⟨e, hempty, hpushed⟩ := hplaced 1 [⟨10, 0⟩, ⟨20, 0⟩] (by decide)
  obtain ⟨hmoved, hcopied, -⟩ := hinserted (Position.least + 1) (by decide) (by decide)
  have hbulk : ((ofList 1 [⟨10, 0⟩, ⟨20, 0⟩]).run .ample ()).1
      = .ok (laid 1 ([⟨10, 0⟩, ⟨20, 0⟩] : List Traced)) :=
    (result_eq (ofList_ends (f := ⟨(), _, .blank⟩) hgenerous _ _)).trans rfl
  have happend : left ((append lowestThree).run .ample lowestThree)
      = .ok (laid Position.least (lowestThree.toList ++ lowestThree.toList)) :=
    (left_eq (append_ends (f := ⟨lowestThree, _, .blank⟩) h hgenerous h)).trans rfl
  have hmove : left ((insertMoved (Position.least + 1) lowestThree).run .ample lowestThree)
      = .ok (laid Position.least [⟨10, 0⟩, ⟨10, 0⟩, ⟨20, 0⟩, ⟨30, 0⟩, ⟨20, 0⟩, ⟨30, 0⟩]) :=
    (left_eq (insertMoved_ends (f := ⟨lowestThree, _, .blank⟩) h hgenerous _ h)).trans rfl
  have hcut : ends ((removeRun (Position.least + 1) 5).run .ample lowestThree)
      = .ok (laid Position.least [⟨20, 0⟩, ⟨30, 0⟩], laid Position.least [⟨10, 0⟩]) :=
    (removeRun_ends (f := ⟨lowestThree, _, .blank⟩) h hgenerous _ _).trans rfl
  rw [hbulk] at hpushed
  rw [happend] at happended
  rw [hmove] at hmoved
  have hsteps := hcopied (Supply.ample_lets _)
  rw [hmoved.eq_ok] at hsteps
  refine ⟨h, hgenerous, hvalue, ⟨e, hempty, hpushed.eq_ok⟩, happended.eq_ok, hmoved.eq_ok, ?_,
    hremoved _ _ _ _ hcut⟩
  generalize left ((insertCopy (Position.least + 1) lowestThree).run .ample lowestThree) = out at *
  cases hsteps with
  | ok hsame => exact ⟨_, rfl, hsame⟩

end AnchoredArrays.Anchored
