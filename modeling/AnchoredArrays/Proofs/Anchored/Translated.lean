import AnchoredArrays.Proofs.Anchored.Growth
import AnchoredArrays.Proofs.Anchored.Making
import AnchoredArrays.Proofs.Anchored.Moves
import AnchoredArrays.Proofs.Call.Alongside

/-!
Arrays that are the same but for their positions. What an operation settles on is told from
distances between positions, and so is the same if all of them are moved by as much.

* `Shifted`, `Translated`: positions and arrays that are moved; `rebased_iff`: exactly those arrays
  that moving the elements to another anchor leads to;
* `Clear`: both arrays have an anchor at which an array can be empty;
* `headPart_settle` and its companions, `moving_settle`, `growth_settle`, `removal_settle`: **what
  operations settle on** is moved with the array;
* `copyPart_agree`, `spliceCopies_agree`: copies are made alike;
* `push_agree` and its companions: the calls that work in place agree.
-/

namespace AnchoredArrays.Anchored

open Element Call

variable {α σ : Type} [Element α] {supply : Supply} {operation : Operation} {d : Int}
  {a a' b b' : Anchored α} {i i' : Int64} {start n : Nat} {new : List α}

/-! ### Moved positions -/

/-- The second position is `d` further than the first. -/
def Shifted (d : Int) (i i' : Int64) : Prop := i'.toInt = i.toInt + d

instance : Decidable (Shifted d i i') := inferInstanceAs (Decidable (_ = _))

/-- The second array has the elements of the first, `d` positions further. -/
structure Translated (d : Int) (a a' : Anchored α) : Prop where
  wellFormed : a.WellFormed
  wellFormed' : a'.WellFormed
  lower : Shifted d a.lower a'.lower
  toList : a'.toList = a.toList

/-- Elements that find a place at two anchors. -/
lemma translated_laid {lower lower' : Int64} {items : List α} (hlower : Shifted d lower lower')
    (hroom : Room α lower items.length) (hroom' : Room α lower' items.length) :
    Translated d (laid lower items) (laid lower' items) where
  wellFormed := hroom.wellFormed
  wellFormed' := hroom'.wellFormed
  lower := hlower
  toList := by rw [laid_toList, laid_toList]

namespace Translated

lemma refl (h : a.WellFormed) : Translated 0 a a := ⟨h, h, (Int.add_zero _).symm, rfl⟩

lemma slots (h : Translated d a a') : a'.slots = a.slots := Slots.ext h.toList

lemma upper (h : Translated d a a') : a'.upper.toInt = a.upper.toInt + d := by
  have hlower : a'.lower.toInt = a.lower.toInt + d := h.lower
  rw [h.wellFormed'.toInt_upper, h.wellFormed.toInt_upper, hlower, h.toList]
  omega

/-- A position that is moved with the array has the same slot. -/
lemma slotOf (h : Translated d a a') (hi : Shifted d i i') :
    slotOf a'.lower i' = Anchored.slotOf a.lower i := by
  have hlower : a'.lower.toInt = a.lower.toInt + d := h.lower
  rw [Shifted] at hi
  simp only [Anchored.slotOf]
  omega

lemma lower_le_iff (h : Translated d a a') (hi : Shifted d i i') :
    a.lower.toInt ≤ i.toInt ↔ a'.lower.toInt ≤ i'.toInt := by
  have hlower : a'.lower.toInt = a.lower.toInt + d := h.lower
  rw [Shifted] at hi
  omega

lemma contains_iff (h : Translated d a a') (hi : Shifted d i i') :
    a.contains i = true ↔ a'.contains i' = true := by
  rw [h.wellFormed.contains_iff, h.wellFormed'.contains_iff, h.lower_le_iff hi, h.slotOf hi,
    h.toList]

/-- There is the same element at a position that is moved with the array. -/
lemma get?_eq (h : Translated d a a') (hi : Shifted d i i') : a'.get? i' = a.get? i := by
  rw [h.wellFormed'.get?_eq, h.wellFormed.get?_eq, h.slotOf hi, h.toList]
  exact if_congr (h.lower_le_iff hi).symm rfl rfl

end Translated

/-! ### Moving an array -/

/-- Moving the elements to the anchor that is `d` further goes through, and leads to the second
array. -/
def Rebased (d : Int) (a a' : Anchored α) : Prop :=
  ∃ start f, Shifted d a.lower start ∧ (reanchor start).run .ample a = (.ok (), f) ∧ f.held = a'

/-- The elements are moved to any anchor at which they find a place. -/
lemma reanchoring_of_room {start : Int64} (hroom : Room α start a.toList.length) :
    reanchoring a start = .ok ⟨[], laid start a.toList, ()⟩ := by
  have hends := hroom.ends
  have hstarts := hroom.starts
  rw [reanchoring, if_neg]
  rintro (⟨hsome, hpast⟩ | ⟨hnone, hleast⟩)
  · omega
  · exact hstarts hnone hleast

/-- **Moving an array** leads to the one with its elements so much further. -/
lemma rebased_iff (h : a.WellFormed) : Rebased d a a' ↔ Translated d a a' := by
  let traced (start : Int64) : Frame (Anchored α) α :=
    Frame.leaving ⟨a, none, .blank⟩ (.trace .reanchor [a.bounds, .position start])
  have hrun : ∀ start, (reanchor start).run .ample a
      = carryOut .reanchor (reanchoring a start) .ample (traced start) :=
    fun start => reanchor_eq (f := ⟨a, none, .blank⟩) h start
  constructor
  · rintro ⟨start, g, hstart, hok, rfl⟩
    rw [hrun] at hok
    cases hplan : reanchoring a start with
    | error reason =>
      rw [hplan] at hok
      exact nomatch congrArg Prod.fst hok
    | ok p =>
      obtain ⟨hroom, rfl⟩ := reanchoring_room h hplan
      rw [hplan] at hok
      cases hok
      exact ⟨h, hroom.wellFormed, hstart, laid_toList start a.toList⟩
  · intro htranslated
    have hroom : Room α a'.lower a.toList.length :=
      htranslated.toList ▸ htranslated.wellFormed'.room
    refine ⟨a'.lower, { traced a'.lower with held := laid a'.lower a.toList }, htranslated.lower,
      ?_, ?_⟩
    · rw [hrun, reanchoring_of_room hroom]
      rfl
    · rw [← htranslated.toList]
      exact htranslated.wellFormed'.eq_laid.symm

/-! ### Arrays that may become empty -/

/-- Both arrays have an anchor at which an array can be empty. -/
structure Clear (d : Int) (a a' : Anchored α) : Prop extends Translated d a a' where
  clear : a.lower ≠ Position.least
  clear' : a'.lower ≠ Position.least

/-- As many elements as there are, or fewer, find a place in both arrays. -/
lemma Clear.laid (h : Clear d a a') {items : List α} (hle : items.length ≤ a.toList.length) :
    Translated d (laid a.lower items) (Anchored.laid a'.lower items) :=
  translated_laid h.lower (h.wellFormed.room.of_le hle fun _ => h.clear)
    (h.wellFormed'.room.of_le (h.toList ▸ hle) fun _ => h.clear')

/-! ### Parts -/

/-- The parts have the same slots, and anchors that are moved with the arrays. -/
structure Part.Shifted (d : Int) (p p' : Part) : Prop where
  start : p'.start = p.start
  count : p'.count = p.count
  anchor : Anchored.Shifted d p.anchor p'.anchor

variable {stop stop' first first' : Int64} {m : Int64}

lemma headPart_settle (h : Translated d a a') (hstop : Shifted d stop stop') :
    Settle (Part.Shifted d) (headPart a stop) (headPart a' stop') := by
  have hlower := h.lower
  rw [Shifted] at hlower hstop
  refine .ite (by omega) (fun _ => .error _) fun _ => .ok ⟨rfl, ?_, h.lower⟩
  dsimp only
  rw [h.toList, show stop'.toInt - a'.lower.toInt = stop.toInt - a.lower.toInt by omega]

lemma tailPart_settle (h : Translated d a a') (hfirst : Shifted d first first') :
    Settle (Part.Shifted d) (tailPart a first) (tailPart a' first') := by
  have hlower := h.lower
  have hupper := h.upper
  have hslot := h.slotOf hfirst
  have hfirst' := hfirst
  rw [Shifted] at hlower hfirst'
  refine .ite (by omega) (fun _ => .error _) fun _ => .ite (by omega) (fun _ => ?_) fun _ => ?_
  · exact .ok ⟨hslot, by dsimp only; rw [hslot, h.toList], hfirst⟩
  · exact .ok ⟨congrArg List.length h.toList, rfl, h.lower⟩

lemma rangePart_settle (h : Translated d a a') (hfirst : Shifted d first first')
    (hstop : Shifted d stop stop') :
    Settle (Part.Shifted d) (rangePart a first stop) (rangePart a' first' stop') := by
  have hlower := h.lower
  have hupper := h.upper
  have hslot := h.slotOf hfirst
  rw [Shifted] at hlower hfirst hstop
  refine .ite (by omega) (fun _ => .error _) fun _ =>
    .ite (by omega) (fun _ => .error _) fun _ => .ok ⟨hslot, ?_, h.lower⟩
  dsimp only
  omega

lemma runPart_settle (h : Translated d a a') (hfirst : Shifted d first first') :
    Settle (Part.Shifted d) (runPart a first m) (runPart a' first' m) := by
  have hlower := h.lower
  have hslot := h.slotOf hfirst
  rw [Shifted] at hlower hfirst
  refine .ite (by omega) (fun _ => .error _) fun _ => ?_
  rw [hslot, h.toList]
  exact .ok ⟨rfl, rfl, h.lower⟩

/-! ### Moving slices -/

variable {p p' : Part}

/-- Parts with the same slots are moved out of the arrays alike. -/
lemma moving_settle (h : Clear d a a') (hs : p.Shifted d p') (hp : p.Within a) (hp' : p'.Within a')
    {buffers buffers' : List Nat} (hbuffers : buffers' = buffers) {kept kept' : Int64}
    (hkept : p.count ≠ 0 → p.count ≠ a.toList.length → Shifted d kept kept'
      ∧ Room α kept (a.toList.length - p.count) ∧ Room α kept' (a.toList.length - p.count)) :
    Settle (Plan.Alike (Translated d) (Option.Rel (Translated d))) (moving a p buffers kept)
      (moving a' p' buffers' kept') := by
  have helements : p'.elements a' = p.elements a := by
    rw [Part.elements, Part.elements, hs.start, hs.count, h.toList]
  have hlength := hp.length_elements
  have hle := hp.le
  have hothers : (a.toList.take p.start ++ a.toList.drop (p.start + p.count)).length
      = a.toList.length - p.count := by
    simp only [List.length_append, List.length_take, List.length_drop]
    omega
  rw [moving, moving, hs.count, h.toList, hbuffers, hs.start, helements]
  refine .ite Iff.rfl (fun _ => ?_) fun hsome => .ite Iff.rfl (fun _ => ?_) fun hpart => ?_
  · rw [if_neg h.clear, if_neg h.clear']
    exact .ok ⟨rfl, .some h.toTranslated, h.laid (Nat.zero_le _)⟩
  · exact .ok ⟨rfl, .none, h.toTranslated⟩
  · obtain ⟨hkept, hroom, hroom'⟩ := hkept hsome hpart
    refine .ok ⟨rfl, .some (translated_laid hkept (hothers ▸ hroom) (hothers ▸ hroom')), ?_⟩
    have hanchor := hp'.room (hs.count ▸ hsome)
    rw [hs.count] at hanchor
    exact translated_laid hs.anchor (hlength ▸ hp.room hsome) (hlength ▸ hanchor)

lemma headMove_settle (h : Clear d a a') (hstop : Shifted d stop stop') :
    Settle (Plan.Alike (Translated d) (Option.Rel (Translated d))) (headMove a stop)
      (headMove a' stop') := by
  have hwf := h.wellFormed
  have hwf' := h.wellFormed'
  have hlength := h.toList
  have hlower := h.lower
  have hparts := (headPart_settle h.toTranslated hstop).and
    (P := fun p => p.Within a ∧ headPart a stop = .ok p) (fun p hp => ⟨headPart_within hwf hp, hp⟩)
    fun p => headPart_within hwf'
  refine hparts.bind fun p p' ⟨hs, ⟨hp, hpart⟩, hp'⟩ => ?_
  refine moving_settle h hs hp hp' (by rw [hs.count, hlength]) fun hsome hproper => ?_
  -- what stays is anchored behind the end of a proper head, which is a position of both arrays
  rw [Shifted] at hlower hstop
  rw [headPart] at hpart
  split_ifs at hpart
  cases hpart
  dsimp only at hsome hproper ⊢
  obtain ⟨n, hn⟩ : ∃ n, n = min (stop.toInt - a.lower.toInt + 1).toNat a.toList.length := ⟨_, rfl⟩
  rw [← hn] at hsome hproper ⊢
  have hu := hwf.toInt_upper
  have hu' := hwf'.toInt_upper
  have hl := a.lower.le_toInt
  have hl' := a'.lower.le_toInt
  have hg := a.upper.toInt_lt
  have hg' := a'.upper.toInt_lt
  rw [hlength] at hu'
  have hnext : (Int64.ofInt (stop.toInt + 1)).toInt = stop.toInt + 1 :=
    Int64.toInt_ofInt_of_le (by omega) (by omega)
  have hnext' : (Int64.ofInt (stop'.toInt + 1)).toInt = stop'.toInt + 1 :=
    Int64.toInt_ofInt_of_le (by omega) (by omega)
  have hroom' : Room α (Int64.ofInt (stop'.toInt + 1)) (a'.toList.length - n) :=
    hwf'.room_behind (by omega) (by rw [hlength]; omega)
  rw [hlength] at hroom'
  refine ⟨?_, hwf.room_behind (by omega) (by omega), hroom'⟩
  rw [Shifted, hnext, hnext']
  omega

/-- What stays at the lower bound finds a place in both arrays. -/
lemma moving_settle_lower (h : Clear d a a') (hs : p.Shifted d p') (hp : p.Within a)
    (hp' : p'.Within a') :
    Settle (Plan.Alike (Translated d) (Option.Rel (Translated d)))
      (moving a p [p.count, a.toList.length - p.count] a.lower)
      (moving a' p' [p'.count, a'.toList.length - p'.count] a'.lower) := by
  refine moving_settle h hs hp hp' (by rw [hs.count, h.toList]) fun _ _ => ⟨h.lower, ?_, ?_⟩
  · exact h.wellFormed.room.of_le (Nat.sub_le ..) fun _ => h.clear
  · refine h.wellFormed'.room.of_le ?_ fun _ => h.clear'
    rw [h.toList]
    exact Nat.sub_le ..

lemma tailMove_settle (h : Clear d a a') (hfirst : Shifted d first first') :
    Settle (Plan.Alike (Translated d) (Option.Rel (Translated d))) (tailMove a first)
      (tailMove a' first') := by
  have hlower := h.lower
  have hparts := (tailPart_settle h.toTranslated hfirst).and
    (fun p => tailPart_within h.wellFormed) fun p => tailPart_within h.wellFormed'
  rw [Shifted] at hlower hfirst
  refine .ite (by omega) (fun _ => .ok ⟨rfl, .none, h.toTranslated⟩) fun _ => ?_
  exact hparts.bind fun p p' ⟨hs, hp, hp'⟩ => moving_settle_lower h hs hp hp'

lemma partMove_settle (h : Clear d a a') {part part' : Except Reason Part}
    (hparts : Settle (Part.Shifted d) part part') (hpart : ∀ p, part = .ok p → p.Within a)
    (hpart' : ∀ p, part' = .ok p → p.Within a') :
    Settle (Plan.Alike (Translated d) (Option.Rel (Translated d))) (partMove a part)
      (partMove a' part') :=
  (hparts.and hpart hpart').bind fun _ _ ⟨hs, hp, hp'⟩ => moving_settle_lower h hs hp hp'

/-! ### Copies -/

variable {S : σ → σ → Prop} {f f' : Frame σ α} {anchor anchor' : Int64}

/-- Copies of consecutive elements are an array. -/
lemma copies_eq_laid (hn : start + n ≤ a.toList.length) :
    (⟨anchor, Position.maxOfCount anchor (UInt64.ofNat n),
        (Slots.ofList ((a.toList.drop start).take n)).map Element.copy⟩ : Anchored α)
      = laid anchor (((a.toList.drop start).take n).map Element.copy) := by
  have hlength : (((a.toList.drop start).take n).map Element.copy).length = n := by
    rw [List.length_map, List.length_take, List.length_drop]
    omega
  rw [laid, hlength]
  congr 1
  exact Slots.eq_ofList (by simp)

/-- Copies of the same elements are moved as their anchors are. -/
lemma copySlots_agree (hitems : a'.toList = a.toList) (hn : start + n ≤ a.toList.length)
    (hanchor : Shifted d anchor anchor') (hroom : Room α anchor n) (hroom' : Room α anchor' n)
    (hheld : S f.held f'.held) (hbeside : f.Beside f') :
    Agree (fun r r' => Translated d r r' ∧ r.toList.length = n) S
      (copySlots operation a start n anchor supply f)
      (copySlots operation a' start n anchor' supply f') := by
  have hlength : (((a.toList.drop start).take n).map Element.copy).length = n := by
    rw [List.length_map, List.length_take, List.length_drop]
    omega
  rw [copySlots_eq hn hroom, copySlots_eq (hitems ▸ hn) hroom', hitems]
  refine (Agree.obtain operation n hheld hbeside).bind fun _ _ g g' _ hheld hbeside => ?_
  refine (Agree.copyAll _ hheld hbeside).bind fun s s' g g' ⟨hs, hs'⟩ hheld hbeside => ?_
  rw [hs, hs', copies_eq_laid hn, copies_eq_laid hn]
  refine .ok ⟨translated_laid hanchor ?_ ?_, by rw [laid_toList, hlength]⟩ hheld hbeside
  · rwa [hlength]
  · rwa [hlength]

/-- Parts with the same slots are copied alike. -/
lemma copyPart_agree (h : Clear d a a') (hs : p.Shifted d p') (hp : p.Within a)
    (hp' : p'.Within a') (hheld : S f.held f'.held) (hbeside : f.Beside f') :
    Agree (Translated d) S (copyPart operation a p supply f)
      (copyPart operation a' p' supply f') := by
  rw [copyPart, copyPart, hs.count, hs.start]
  split_ifs with hnone
  · rw [emptyFor_eq, emptyFor_eq, if_neg h.clear, if_neg h.clear']
    exact .ok (h.laid (Nat.zero_le _)) hheld hbeside
  · have hroom' := hp'.room (hs.count ▸ hnone)
    rw [hs.count] at hroom'
    exact (copySlots_agree h.toList hp.le hs.anchor (hp.room hnone) hroom' hheld hbeside).mono
      (fun _ _ hr => hr.1) fun _ _ => id

/-! ### Growing -/

/-- With `n` elements more, the upper bounds of both arrays can be represented, or of neither. -/
def SameEnd (a a' : Anchored α) (n : Nat) : Prop :=
  a.upper.toInt + n ≤ Position.greatest.toInt ↔ a'.upper.toInt + n ≤ Position.greatest.toInt

/-- Elements are added to both arrays, or to neither. -/
lemma growth_settle (h : Translated d a a')
    (hlast : SameEnd a a' new.length) :
    Settle (Plan.Alike Eq (Translated d)) (growth a start new) (growth a' start new) := by
  rw [growth, growth, h.toList]
  refine .ite Iff.rfl (fun _ => .ok ⟨rfl, h, rfl⟩) fun _ =>
    .ite (and_congr_right fun _ => hlast) (fun hfits => ?_) fun _ => .error _
  have hroom := h.wellFormed.room_grown hfits.1 hfits.2
  have hroom' := h.wellFormed'.room_grown (h.toList ▸ hfits.1) (hlast.1 hfits.2)
  rw [h.toList] at hroom'
  rw [← length_spliced a.toList new start] at hroom hroom'
  exact .ok ⟨rfl, translated_laid h.lower hroom hroom', rfl⟩

/-- Something can be inserted at the position, or just behind the last one. -/
def Inserts (a : Anchored α) (i : Int64) : Prop :=
  a.lower.toInt ≤ i.toInt ∧ i.toInt ≤ a.upper.toInt + 1

lemma inserts_iff (h : a.WellFormed) (i : Int64) :
    a.lower.toInt ≤ i.toInt ∧ slotOf a.lower i ≤ a.toList.length ↔ a.Inserts i := by
  have hu := h.toInt_upper
  rw [Inserts]
  simp only [slotOf]
  omega

lemma insertion_settle (h : Translated d a a') (hi : Shifted d i i')
    (hlast : a.Inserts i → SameEnd a a' new.length) :
    Settle (Plan.Alike Eq (Translated d)) (insertion a i new) (insertion a' i' new) := by
  rw [insertion, insertion, h.slotOf hi, h.toList]
  exact .ite (and_congr_left fun _ => h.lower_le_iff hi)
    (fun hin => growth_settle h (hlast ((inserts_iff h.wellFormed i).1 hin))) fun _ => .error _

section

variable {f f' : Frame (Anchored α) α}

/-- Copies of the same elements are added to both arrays, or to neither. -/
lemma spliceCopies_agree {e : Int} (hb : Translated e b b') (hs : start ≤ f.held.toList.length)
    (hlast : SameEnd f.held f'.held b.toList.length)
    (hheld : Translated d f.held f'.held) (hbeside : f.Beside f') :
    Agree Eq (Translated d) (spliceCopies operation start b supply f)
      (spliceCopies operation start b' supply f') := by
  have hlength : b'.length = b.length := by
    rw [hb.wellFormed'.length_eq', hb.wellFormed.length_eq', hb.toList]
  have hempty : b'.isEmpty = b.isEmpty := by rw [isEmpty, isEmpty, hlength]
  have hsame : ∀ x x', x = f.held ∧ x' = f'.held → Translated d x x' := by
    rintro _ _ ⟨rfl, rfl⟩
    exact hheld
  rw [spliceCopies, spliceCopies, hempty]
  split_ifs
  · exact .ok rfl hheld hbeside
  rw [held_bind, held_bind, grown_eq hheld.wellFormed, grown_eq hheld.wellFormed', hlength,
    hheld.toList, hb.wellFormed.length_eq']
  -- until the copies are made the arrays stay as they are
  have hchecks : Settle (fun _ _ => True)
      (if f.held.toList.length + b.toList.length ≤ maxLength α
          ∧ f.held.upper.toInt + b.toList.length ≤ Position.greatest.toInt
        then .ok (f.held.toList.length + b.toList.length) else .error .noMemory)
      (if f.held.toList.length + b.toList.length ≤ maxLength α
          ∧ f'.held.upper.toInt + b.toList.length ≤ Position.greatest.toInt
        then .ok (f.held.toList.length + b.toList.length) else .error .noMemory) :=
    .ite (and_congr_right fun _ => hlast) (fun _ => .ok trivial) fun _ => .error _
  refine (Agree.checked (S := fun x x' => x = f.held ∧ x' = f'.held) operation hchecks
    ⟨rfl, rfl⟩ hbeside).followed hsame fun _ _ g g' _ hg hbeside => ?_
  have hroom' := hb.wellFormed'.room
  rw [hb.toList] at hroom'
  refine (copySlots_agree hb.toList (Nat.le_of_eq (Nat.zero_add _)) hb.lower hb.wellFormed.room
    hroom' hg hbeside).followed hsame ?_
  rintro copies copies' g g' ⟨hcopies, hcount⟩ ⟨hg, hg'⟩ hbeside
  rw [hcopies.slots]
  refine .given ?_ _
  have hheld' : Translated d g.held g'.held := hsame _ _ ⟨hg, hg'⟩
  rw [spliceAll_eq hheld'.wellFormed (hg ▸ hs) hcopies.wellFormed,
    spliceAll_eq hheld'.wellFormed' (by rwa [hg', hheld.toList]) hcopies.wellFormed',
    hcopies.toList]
  refine carryOut_agree operation (growth_settle hheld' ?_) hheld' hbeside
  rwa [hg, hg', hcount]

/-- Copies of the same elements are added at positions that are moved with the arrays. -/
lemma insertionSlot_agree (f f' : Frame (Anchored α) α) {e : Int} (hb : Translated e b b')
    (hi : Shifted d i i')
    (hlast : f.held.Inserts i → SameEnd f.held f'.held b.toList.length)
    (hheld : Translated d f.held f'.held) (hbeside : f.Beside f') :
    Agree Eq (Translated d)
      ((do
        let start ← insertionSlot operation f.held i
        spliceCopies operation start b) supply f)
      ((do
        let start ← insertionSlot operation f'.held i'
        spliceCopies operation start b') supply f') := by
  rw [insertionSlot_eq hheld.wellFormed, insertionSlot_eq hheld.wellFormed', hheld.slotOf hi,
    hheld.toList]
  by_cases hin : f.held.lower.toInt ≤ i.toInt ∧ slotOf f.held.lower i ≤ f.held.toList.length
  · rw [if_pos hin, if_pos ⟨(hheld.lower_le_iff hi).1 hin.1, hin.2⟩]
    exact spliceCopies_agree hb hin.2 (hlast ((inserts_iff hheld.wellFormed i).1 hin)) hheld hbeside
  · rw [if_neg hin, if_neg fun hin' => hin ⟨(hheld.lower_le_iff hi).2 hin'.1, hin'.2⟩]
    exact .error hheld (hbeside.leaving _ _)

end

/-! ### Removing -/

lemma removal_settle (h : Clear d a a') (hi : Shifted d i i') {rest : List α}
    (hrest : rest.length ≤ a.toList.length) :
    Settle (Plan.Alike Eq (Translated d)) (removal a i rest) (removal a' i' rest) := by
  rw [removal, removal, h.get?_eq hi, h.toList]
  cases a.get? i with
  | none => exact .error _
  | some x =>
    dsimp only
    rw [if_neg fun hlast => h.clear hlast.2, if_neg fun hlast => h.clear' hlast.2]
    exact .ok ⟨rfl, h.laid hrest, rfl⟩

lemma runRemoval_settle (h : Clear d a a') (hi : Shifted d i i') :
    Settle (Plan.Alike (Translated d) (Translated d)) (runRemoval a i m) (runRemoval a' i' m) := by
  rw [runRemoval, runRemoval, h.slotOf hi, h.toList]
  refine .ite Iff.rfl (fun _ => .error _) fun _ => .ite (h.contains_iff hi) (fun hin => ?_)
    fun _ => .error _
  have hslot := (h.wellFormed.contains_iff.1 hin).2
  dsimp only
  rw [if_neg fun hends => h.clear hends.2, if_neg fun hends => h.clear' hends.2]
  refine .ok ⟨rfl, h.laid ?_, h.laid ?_⟩
  · simp only [List.length_append, List.length_take, List.length_drop]
    omega
  · simp only [List.length_take, List.length_drop]
    omega

/-! ### Calls in place -/

section

variable {f f' : Frame (Anchored α) α}

lemma push_agree (x : α) (hlast : SameEnd f.held f'.held 1) (hheld : Translated d f.held f'.held)
    (hbeside : f.Beside f') : Agree Eq (Translated d) (push x supply f) (push x supply f') := by
  have hplan : Settle (Plan.Alike Eq (Translated d)) (growth f.held f.held.toList.length [x])
      (growth f'.held f.held.toList.length [x]) := growth_settle hheld hlast
  rw [push_eq hheld.wellFormed, push_eq hheld.wellFormed', hheld.toList]
  exact .given (planned_agree .push hplan hheld hbeside) _

lemma append_agree (hb : b.WellFormed) (hlast : SameEnd f.held f'.held b.toList.length)
    (hheld : Translated d f.held f'.held) (hbeside : f.Beside f') :
    Agree Eq (Translated d) (append b supply f) (append b supply f') := by
  rw [append_eq hheld.wellFormed hb, append_eq hheld.wellFormed' hb, hheld.toList]
  exact .given (planned_agree .append (growth_settle hheld hlast) hheld hbeside) _

lemma insert_agree (hi : Shifted d i i') (x : α)
    (hlast : f.held.Inserts i → SameEnd f.held f'.held 1) (hheld : Translated d f.held f'.held)
    (hbeside : f.Beside f') :
    Agree Eq (Translated d) (insert i x supply f) (insert i' x supply f') := by
  have hplan : Settle (Plan.Alike Eq (Translated d)) (insertion f.held i [x])
      (insertion f'.held i' [x]) := insertion_settle hheld hi hlast
  rw [insert_eq hheld.wellFormed, insert_eq hheld.wellFormed']
  exact .given (planned_agree .insert hplan hheld hbeside) _

lemma insertMoved_agree (hi : Shifted d i i') (hb : b.WellFormed)
    (hlast : f.held.Inserts i → SameEnd f.held f'.held b.toList.length)
    (hheld : Translated d f.held f'.held) (hbeside : f.Beside f') :
    Agree Eq (Translated d) (insertMoved i b supply f) (insertMoved i' b supply f') := by
  rw [insertMoved_eq hheld.wellFormed i hb, insertMoved_eq hheld.wellFormed' i' hb]
  exact .given (planned_agree .insertMoved (insertion_settle hheld hi hlast) hheld hbeside) _

lemma insertCopy_agree (hi : Shifted d i i') (hb : b.WellFormed)
    (hlast : f.held.Inserts i → SameEnd f.held f'.held b.toList.length)
    (hheld : Translated d f.held f'.held) (hbeside : f.Beside f') :
    Agree Eq (Translated d) (insertCopy i b supply f) (insertCopy i' b supply f') := by
  rw [insertCopy, insertCopy, held_bind, held_bind, trace_bind, trace_bind]
  exact insertionSlot_agree (f.leaving _) (f'.leaving _) (.refl hb) hi hlast hheld
    (hbeside.leaving _ _)

lemma insertSelf_agree (hi : Shifted d i i')
    (hlast : f.held.Inserts i → SameEnd f.held f'.held f.held.toList.length)
    (hheld : Translated d f.held f'.held) (hbeside : f.Beside f') :
    Agree Eq (Translated d) (insertSelf i supply f) (insertSelf i' supply f') := by
  rw [insertSelf, insertSelf, held_bind, held_bind, trace_bind, trace_bind]
  exact insertionSlot_agree (f.leaving _) (f'.leaving _) hheld hi hlast hheld
    (hbeside.leaving _ _)

lemma remove_agree (hi : Shifted d i i') (h : Clear d f.held f'.held) (hbeside : f.Beside f') :
    Agree Eq (Translated d) (remove i supply f) (remove i' supply f') := by
  rw [remove_eq h.wellFormed, remove_eq h.wellFormed', h.slotOf hi, h.toList]
  exact planned_agree .remove (removal_settle h hi (List.length_eraseIdx_le ..)) h.toTranslated
    hbeside

lemma swapRemove_agree (hi : Shifted d i i') (h : Clear d f.held f'.held)
    (hbeside : f.Beside f') :
    Agree Eq (Translated d) (swapRemove i supply f) (swapRemove i' supply f') := by
  have hrest := length_swapErase f.held.toList (slotOf f.held.lower i)
  rw [swapRemove_eq h.wellFormed, swapRemove_eq h.wellFormed', h.slotOf hi, h.toList]
  exact planned_agree .swapRemove (removal_settle h hi (by omega)) h.toTranslated hbeside

lemma removeRun_agree (hi : Shifted d i i') (n : Int64) (h : Clear d f.held f'.held)
    (hbeside : f.Beside f') :
    Agree (Translated d) (Translated d) (removeRun i n supply f) (removeRun i' n supply f') := by
  rw [removeRun_eq h.wellFormed, removeRun_eq h.wellFormed']
  exact planned_agree .removeRun (runRemoval_settle h hi) h.toTranslated hbeside

end

end AnchoredArrays.Anchored
