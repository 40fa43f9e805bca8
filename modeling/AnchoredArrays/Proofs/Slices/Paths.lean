import AnchoredArrays.Proofs.Slices.Copied

/-!
Four ways to copy the same elements on a generous supply: the tail of a head, the head of a tail, a
range, and a run. They find the elements by where they stop, by where they start, by both, or by how
many they are, and each of them cuts short what reaches beyond the array.

* `target_run`: a run **selects** what the range that stops at the same position selects;
* `copied_of_target`: what is selected is copied;
* `tail_of_head`, `head_of_tail`: **two slices** one after the other;
* `slicing_paths`: **all four** copy the same elements.
-/

namespace AnchoredArrays.Session

open Element Anchored Call

variable {α σ β : Type} [Element α] {supply : Supply} {a : Anchored α} {i j : Int64}

/-- A range that starts inside the array selects the positions from there to where it stops. -/
lemma target_range (hlow : a.lower.toInt ≤ i.toInt) (hhigh : i.toInt ≤ a.upper.toInt)
    (hij : i.toInt ≤ j.toInt) :
    Selection.target a (.range i j)
      = .ok ⟨i.toInt, min j.toInt a.upper.toInt, a.lower⟩ := by
  rw [Selection.target, if_neg (by omega), if_neg (by omega), if_neg (by omega)]

/-- A run selects what a range does that starts with it and stops at the same position, or at the
end of the array if both reach it. -/
lemma target_run {n : Int64} (hlow : a.lower.toInt ≤ i.toInt) (hhigh : i.toInt ≤ a.upper.toInt)
    (hij : i.toInt ≤ j.toInt) (hn : n.toInt = j.toInt - i.toInt + 1
      ∨ a.upper.toInt ≤ j.toInt ∧ j.toInt - i.toInt + 1 ≤ n.toInt) :
    Selection.target a (.run i n) = Selection.target a (.range i j) := by
  have hlast : min (i.toInt + n.toInt - 1) a.upper.toInt = min j.toInt a.upper.toInt := by omega
  rw [target_range hlow hhigh hij, Selection.target, if_neg (by omega), if_neg (by omega), hlast]

/-- What is selected is copied. -/
lemma copied_of_target (h : a.WellFormed) (hgenerous : supply.Generous)
    (hcopies : supply.Lets a.toList.length) (held : σ) {selection : Selection} {first last : Int}
    {anchor : Int64} (ht : selection.target a = .ok ⟨first, last, anchor⟩) :
    ∃ b, ((selection.copied a).run supply held).1 = .ok b
      ∧ b.Holds anchor.toInt ((a.between first last).map Element.copy) := by
  have hcopying := selection.copied_run h held hgenerous hcopies
  rw [ht] at hcopying
  obtain ⟨b, hb, hholds, -⟩ := hcopying
  exact ⟨b, hb, hholds⟩

/-! ### One slice after another -/

/-- An array of copies of the elements at a range of positions, which it has itself. -/
structure Excerpt (a : Anchored α) (first last : Int) (b : Anchored α) : Prop where
  wellFormed : b.WellFormed
  lower : b.lower.toInt = first
  upper : b.upper.toInt = last
  length_le : b.toList.length ≤ a.toList.length
  between_eq : ∀ {first' last' : Int}, first ≤ first' → last' ≤ last →
    b.between first' last' = (a.between first' last').map Element.copy

/-- Copies of the elements at a range of positions that are anchored at the first of them. -/
lemma Excerpt.of_holds {b : Anchored α} {first last : Int} (h : a.WellFormed)
    (hlow : a.lower.toInt ≤ first) (hsome : first ≤ last) (hlast : last ≤ a.upper.toInt)
    (hb : b.Holds first ((a.between first last).map Element.copy)) : Excerpt a first last b := by
  have hu := h.toInt_upper
  have hfits := h.room.fits
  have hlength := h.length_between hlow hsome hlast
  have hmap : ((a.between first last).map Element.copy).length = (a.between first last).length :=
    List.length_map _
  have hupper := hb.upper
  refine ⟨hb.wellFormed (List.ne_nil_of_length_pos (by omega)) (by omega), hb.lower, by omega, ?_,
    hb.between_eq hlow⟩
  rw [hb.toList]
  omega

section

variable (h : a.WellFormed) (hgenerous : supply.Generous) (hcopies : supply.Lets a.toList.length)
  (held : σ) (hlow : a.lower.toInt ≤ i.toInt) (hhigh : i.toInt ≤ a.upper.toInt)
  (hij : i.toInt ≤ j.toInt)

include h hgenerous hcopies hlow hhigh hij

/-- The tail of a head holds copies of copies. -/
lemma tail_of_head :
    ∃ b c, ((a.copyHead j).run supply held).1 = .ok b
      ∧ ((b.copyTail i).run supply held).1 = .ok c
      ∧ c.Holds i.toInt (((a.between i.toInt (min j.toInt a.upper.toInt)).map Element.copy).map
        Element.copy) := by
  have hhead : Selection.target a (.head j)
      = .ok ⟨a.lower.toInt, min j.toInt a.upper.toInt, a.lower⟩ := by
    rw [Selection.target, if_neg (by omega)]
  obtain ⟨b, hb, hholds⟩ := copied_of_target h hgenerous hcopies held hhead
  have hexcerpt := Excerpt.of_holds h (Int.le_refl _) (by omega) (by omega) hholds
  have htail : Selection.target b (.tail i) = .ok ⟨i.toInt, min j.toInt a.upper.toInt, i⟩ := by
    rw [Selection.target, hexcerpt.lower, hexcerpt.upper, if_neg (by omega), if_neg (by omega),
      if_neg (by omega)]
  obtain ⟨c, hc, hholds'⟩ := copied_of_target hexcerpt.wellFormed hgenerous
    (hcopies.of_le hexcerpt.length_le) held htail
  rw [hexcerpt.between_eq hlow (Int.le_refl _)] at hholds'
  exact ⟨b, c, hb, hc, hholds'⟩

/-- The head of a tail holds the same copies of copies. -/
lemma head_of_tail :
    ∃ b c, ((a.copyTail i).run supply held).1 = .ok b
      ∧ ((b.copyHead j).run supply held).1 = .ok c
      ∧ c.Holds i.toInt (((a.between i.toInt (min j.toInt a.upper.toInt)).map Element.copy).map
        Element.copy) := by
  have htail : Selection.target a (.tail i) = .ok ⟨i.toInt, a.upper.toInt, i⟩ := by
    rw [Selection.target, if_neg (by omega), if_neg (by omega), if_neg (by omega)]
  obtain ⟨b, hb, hholds⟩ := copied_of_target h hgenerous hcopies held htail
  have hexcerpt := Excerpt.of_holds h hlow hhigh (Int.le_refl _) hholds
  have hhead : Selection.target b (.head j)
      = .ok ⟨i.toInt, min j.toInt a.upper.toInt, b.lower⟩ := by
    rw [Selection.target, hexcerpt.lower, hexcerpt.upper, if_neg (by omega)]
  obtain ⟨c, hc, hholds'⟩ := copied_of_target hexcerpt.wellFormed hgenerous
    (hcopies.of_le hexcerpt.length_le) held hhead
  rw [hexcerpt.between_eq (Int.le_refl _) (Int.min_le_right _ _), hexcerpt.lower] at hholds'
  exact ⟨b, c, hb, hc, hholds'⟩

end

/-! ### All four -/

/-- **Four ways to copy** the elements from `i` to `j` on a generous supply, where `i` is a position
of the array and `j` may be anywhere behind it. The tail of the head and the head of the tail are
the same array, over the positions from `i` to `j`, cut short where the array ends. The range has
the same values at the lower bound of the array. The run is the same array as the range, if it stops
where that does or both reach the end. -/
theorem slicing_paths (h : a.WellFormed) (hgenerous : supply.Generous)
    (hcopies : supply.Lets a.toList.length) (held : σ) {value : α → β}
    (hvalue : ∀ x, value (Element.copy x) = value x) (hlow : a.lower.toInt ≤ i.toInt)
    (hhigh : i.toInt ≤ a.upper.toInt) (hij : i.toInt ≤ j.toInt) :
    ∃ head tail part range : Anchored α,
      ((a.copyHead j).run supply held).1 = .ok head
      ∧ ((head.copyTail i).run supply held).1 = .ok part
      ∧ ((a.copyTail i).run supply held).1 = .ok tail
      ∧ ((tail.copyHead j).run supply held).1 = .ok part
      ∧ ((a.copyRange i j).run supply held).1 = .ok range
      ∧ (∀ n : Int64, n.toInt = j.toInt - i.toInt + 1
          ∨ a.upper.toInt ≤ j.toInt ∧ j.toInt - i.toInt + 1 ≤ n.toInt →
        ((a.copyRun i n).run supply held).1 = .ok range)
      ∧ (part.lower = i ∧ part.upper.toInt = min j.toInt a.upper.toInt
        ∧ part.toList.map value
          = (a.between i.toInt (min j.toInt a.upper.toInt)).map value)
      ∧ range.lower = a.lower
      ∧ range.upper.toInt = a.lower.toInt + (min j.toInt a.upper.toInt - i.toInt)
      ∧ range.toList.map value = part.toList.map value := by
  obtain ⟨head, part, hhead, hpart, hholds⟩ :=
    tail_of_head h hgenerous hcopies held hlow hhigh hij
  obtain ⟨tail, part', htail, hpart', hholds'⟩ :=
    head_of_tail h hgenerous hcopies held hlow hhigh hij
  obtain rfl := hholds.unique hholds'
  have htarget := target_range hlow hhigh hij
  obtain ⟨range, hrange, hrholds⟩ := copied_of_target h hgenerous hcopies held htarget
  have hlength := h.length_between hlow (show i.toInt ≤ min j.toInt a.upper.toInt by omega)
    (Int.min_le_right _ _)
  have hvalues : part.toList.map value
      = (a.between i.toInt (min j.toInt a.upper.toInt)).map value :=
    calc part.toList.map value
      _ = (((a.between i.toInt (min j.toInt a.upper.toInt)).map Element.copy).map
          Element.copy).map value := by rw [hholds.toList]
      _ = ((a.between i.toInt (min j.toInt a.upper.toInt)).map Element.copy).map value :=
          values_copies hvalue _
      _ = (a.between i.toInt (min j.toInt a.upper.toInt)).map value := values_copies hvalue _
  have hupper := hholds.upper
  have hrupper := hrholds.upper
  simp only [List.length_map, hlength] at hupper hrupper
  refine ⟨head, tail, part, range, hhead, hpart, htail, hpart', hrange, fun n hn => ?_,
    ⟨Int64.toInt_inj.1 hholds.lower, by omega, hvalues⟩, Int64.toInt_inj.1 hrholds.lower,
    by omega, ?_⟩
  · obtain ⟨run, hrun, hholds⟩ := copied_of_target h hgenerous hcopies held
      ((target_run hlow hhigh hij hn).trans htarget)
    rwa [hholds.unique hrholds] at hrun
  · rw [hvalues, hrholds.toList, values_copies hvalue]

/-- Two of three values, by a range that stops far behind the array. -/
theorem slicing_paths_lowest :
    lowestThree.WellFormed ∧ Supply.ample.Generous
      ∧ Supply.ample.Lets lowestThree.toList.length
      ∧ (∀ x : Traced, (Element.copy x).value = x.value)
      ∧ ∃ part range : Anchored Traced,
        ((lowestThree.copyRange (Position.least + 1) Position.greatest).run .ample ()).1 = .ok range
          ∧ part.lower = Position.least + 1 ∧ range.lower = Position.least
          ∧ range.toList.map Traced.value = part.toList.map Traced.value
          ∧ part.toList.map Traced.value = [20, 30] := by
  have hvalue : ∀ x : Traced, (Element.copy x).value = x.value := fun _ => rfl
  obtain ⟨head, tail, part, range, -, -, -, -, hrange, -, ⟨hpart, -, hvalues⟩, hlower, -, hsame⟩ :=
    slicing_paths (i := Position.least + 1) (j := Position.greatest) lowestThree_wellFormed
      Supply.ample_generous (Supply.ample_lets _) () hvalue (by decide) (by decide) (by decide)
  exact ⟨lowestThree_wellFormed, Supply.ample_generous, Supply.ample_lets _, hvalue, part, range,
    hrange, hpart, hlower, hsame, hvalues⟩

end AnchoredArrays.Session
