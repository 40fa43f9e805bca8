import AnchoredArrays.Element.Instances
import Mathlib

/-!
Texts that can be read back. The text of an array uses the same brackets and separators at every
depth, and an array inside another has separators of its own. It can be read back all the same: read
from the left, it says where it ends.

* `Text.numeral_append_inj`: a numeral in front of a text that does not go on with one determines
  the number and the rest;
* `Text.Readable`: ways of writing values whose texts determine the value and the rest of the text;
  `Readable.list_append_inj`: then so do lists of them up to their closing bracket;
* `Anchored.text_readable`: **the text of an array** can be read back if those of its elements can;
* `Anchored.text_eq_iff`: arrays of integers, and arrays of these, are equal if their texts are.
-/

namespace AnchoredArrays

open Element

namespace Text

/-! ### Numerals -/

/-- Whether a character can be part of a numeral. -/
def inNumeral (c : Char) : Bool := c.isDigit || c == '-'

/-- The text does not go on with a part of a numeral. -/
def Stops (r : List Char) : Prop := r.takeWhile inNumeral = []

lemma stops_cons {c : Char} (h : inNumeral c = false) (r : List Char) : Stops (c :: r) := by
  rw [Stops, List.takeWhile_cons, h]
  rfl

lemma inNumeral_repr {n : Nat} {c : Char} (h : c ∈ n.repr.toList) : inNumeral c = true := by
  rw [Nat.toList_repr] at h
  rw [inNumeral, Nat.isDigit_of_mem_toDigits (by decide) (by decide) h, Bool.true_or]

lemma inNumeral_toString {z : Int} {c : Char} (h : c ∈ (toString z).toList) :
    inNumeral c = true := by
  cases z with
  | ofNat n => exact inNumeral_repr h
  | negSucc n =>
    change c ∈ ("-" ++ (n + 1).repr).toList at h
    rw [String.toList_append] at h
    rcases List.mem_append.1 h with h | h
    · rw [List.mem_singleton.1 h]
      rfl
    · exact inNumeral_repr h

lemma toString_ne_nil (z : Int) : (toString z).toList ≠ [] := by
  cases z with
  | ofNat n =>
    change n.repr.toList ≠ []
    rw [Nat.toList_repr]
    exact Nat.toDigits_ne_nil
  | negSucc n =>
    change ("-" ++ (n + 1).repr).toList ≠ []
    rw [String.toList_append]
    exact List.cons_ne_nil '-' _

/-- A numeral is read up to the first character that cannot be part of one. -/
lemma takeWhile_numeral {r : List Char} (hr : Stops r) (z : Int) :
    ((toString z).toList ++ r).takeWhile inNumeral = (toString z).toList := by
  rw [List.takeWhile_append_of_pos fun _ => inNumeral_toString, hr, List.append_nil]

/-- A numeral in front of a text that does not go on with one determines the number and the rest. -/
lemma numeral_append_inj {y z : Int} {r s : List Char} (hr : Stops r) (hs : Stops s)
    (h : (toString y).toList ++ r = (toString z).toList ++ s) : y = z ∧ r = s := by
  have hnumeral : (toString y).toList = (toString z).toList := by
    rw [← takeWhile_numeral hr y, h, takeWhile_numeral hs z]
  have hyz : y = z := Int.repr_injective (String.toList_inj.1 hnumeral)
  subst hyz
  exact ⟨rfl, List.append_cancel_left h⟩

/-! ### Ways of writing values -/

variable {α β : Type} {write : α → String} {xs ys : List α} {r s : List Char}

/-- Texts that can be read back. None is empty or begins with a closing bracket; and in front of
anything that does not go on with a numeral, a text determines what was written and the rest. -/
structure Readable (write : α → String) : Prop where
  starts (x : α) : ∃ c rest, (write x).toList = c :: rest ∧ c ≠ ']'
  append_inj {x y : α} {r s : List Char} : Stops r → Stops s →
    (write x).toList ++ r = (write y).toList ++ s → x = y ∧ r = s

/-- Different values have different texts. -/
lemma Readable.injective (h : Readable write) : Function.Injective write := fun x y hxy =>
  (h.append_inj (r := []) (s := []) rfl rfl (by rw [hxy])).1

/-- Numbers are written as numerals. -/
lemma numeral_readable : Readable (toString : Int → String) where
  starts z := by
    obtain ⟨c, rest, hz⟩ := List.exists_cons_of_ne_nil (toString_ne_nil z)
    refine ⟨c, rest, hz, ?_⟩
    rintro rfl
    have hc : inNumeral ']' = true := inNumeral_toString (z := z) (by rw [hz]; simp)
    exact absurd hc (by decide)
  append_inj := numeral_append_inj

/-- What determines a value that can be read back can be read back itself. -/
lemma Readable.comp (h : Readable write) {f : β → α} (hf : Function.Injective f) :
    Readable fun x => write (f x) where
  starts x := h.starts (f x)
  append_inj hr hs hxy := by
    obtain ⟨hvalue, hrest⟩ := h.append_inj hr hs hxy
    exact ⟨hf hvalue, hrest⟩

/-! ### Lists -/

/-- The members of a list behind the first, each with a separator in front. -/
def others (write : α → String) (xs : List α) : List Char :=
  xs.flatMap fun x => ',' :: ' ' :: (write x).toList

lemma intercalate_cons (write : α → String) (x : α) (xs : List α) :
    (", ".intercalate ((x :: xs).map write)).toList = (write x).toList ++ others write xs := by
  induction xs generalizing x with
  | nil => simp [others]
  | cons y rest ih =>
    rw [List.map_cons, List.map_cons, String.intercalate_cons_cons, ← List.map_cons,
      String.toList_append, String.toList_append, ih]
    simp [others]

/-- What stands behind a member of a list does not go on with a numeral. -/
lemma stops_others (write : α → String) (xs : List α) (r : List Char) :
    Stops (others write xs ++ ']' :: r) := by
  cases xs with
  | nil => exact stops_cons rfl r
  | cons x rest => exact stops_cons rfl _

namespace Readable

/-- The members behind the first and the closing bracket can be read back. -/
lemma others_append_inj (h : Readable write)
    (heq : others write xs ++ ']' :: r = others write ys ++ ']' :: s) : xs = ys ∧ r = s := by
  induction xs generalizing ys with
  | nil =>
    cases ys with
    | nil => exact ⟨rfl, List.cons.inj heq |>.2⟩
    | cons y rest => exact absurd (List.cons.inj heq).1 (by decide)
  | cons x xs ih =>
    cases ys with
    | nil => exact absurd (List.cons.inj heq).1 (by decide)
    | cons y ys =>
      simp only [others, List.flatMap_cons, List.cons_append, List.append_assoc,
        List.cons.injEq, true_and] at heq
      obtain ⟨rfl, hothers⟩ := h.append_inj (stops_others write xs r) (stops_others write ys s) heq
      obtain ⟨rfl, hrest⟩ := ih hothers
      exact ⟨rfl, hrest⟩

/-- A list with a member does not begin like the end of one. -/
lemma intercalate_ne (h : Readable write) (x : α) (xs : List α) (r s : List Char) :
    (", ".intercalate ((x :: xs).map write)).toList ++ s ≠ ']' :: r := by
  obtain ⟨c, rest, hc, hne⟩ := h.starts x
  rw [intercalate_cons, hc]
  intro heq
  exact hne (List.cons.inj heq).1

/-- A list up to its closing bracket can be read back if its members can. -/
lemma list_append_inj (h : Readable write)
    (heq : (", ".intercalate (xs.map write)).toList ++ ']' :: r
      = (", ".intercalate (ys.map write)).toList ++ ']' :: s) : xs = ys ∧ r = s := by
  -- the first member has no separator in front, so no induction yet: it is told from the end of
  -- the list by its first character
  cases xs with
  | nil =>
    cases ys with
    | nil => exact ⟨rfl, List.cons.inj heq |>.2⟩
    | cons y ys => exact absurd heq.symm (h.intercalate_ne y ys r _)
  | cons x xs =>
    cases ys with
    | nil => exact absurd heq (h.intercalate_ne x xs s _)
    | cons y ys =>
      rw [intercalate_cons, intercalate_cons, List.append_assoc, List.append_assoc] at heq
      obtain ⟨rfl, hothers⟩ := h.append_inj (stops_others write xs r) (stops_others write ys s) heq
      obtain ⟨rfl, hrest⟩ := h.others_append_inj hothers
      exact ⟨rfl, hrest⟩

end Readable

/-- The members of a form are written one by one. -/
lemma compactMembers_eq (members : List Shown) :
    Shown.compactMembers members = members.map Shown.compact := by
  induction members with
  | nil => rfl
  | cons x rest ih => rw [Shown.compactMembers, ih, List.map_cons]

end Text

/-! ### Arrays -/

section Lawful

variable {α : Type} [Element α] [BEq α] [LawfulBEq α]

/-- Contents are the same when they have the same elements. -/
lemma Slots.same_iff {s t : Slots α} : s.same t = true ↔ s = t := by
  cases s with
  | listed hs items =>
    cases t with
    | listed _ others => simp [same]
    | counted ht _ => exact absurd ht hs
  | counted hs n =>
    cases t with
    | listed ht _ => exact absurd hs ht
    | counted _ m => simp [same]

/-- Arrays are equal when they have the same bounds and the same elements. -/
instance : LawfulBEq (Anchored α) where
  eq_of_beq {a b} h := by
    change (a.lower == b.lower && a.upper == b.upper && a.slots.same b.slots) = true at h
    simp only [Bool.and_eq_true, beq_iff_eq, Slots.same_iff] at h
    exact Anchored.ext h.1.1 h.1.2 h.2
  rfl {a} := by
    change (a.lower == a.lower && a.upper == a.upper && a.slots.same a.slots) = true
    simp only [beq_self_eq_true, Bool.true_and]
    exact Slots.same_iff.2 rfl

end Lawful

namespace Anchored

open Text

variable {α : Type} [Element α] [ToShown α]

/-- The text of an array, from the left. -/
lemma toList_text (a : Anchored α) :
    a.text.toList = '[' :: ((toString a.lower.toInt).toList ++ '.' :: '.' ::
      ((toString a.upper.toInt).toList ++ ']' :: ' ' :: '[' ::
        ((", ".intercalate (a.toList.map fun x => (ToShown.shown x).compact)).toList
          ++ [']']))) := by
  rw [text, shown, Shown.compact, Shown.list, Shown.compact, compactMembers_eq, List.map_map,
    heading, bounds, Argument.text]
  simp [Function.comp_def]

/-- An array that holds an empty array and one of a single element. -/
example : (⟨-1, 0, .ofList [⟨3, 2, .nil⟩, ⟨0, 0, .single (-5)⟩]⟩ : Anchored (Anchored Int64)).text
    = "[-1..0] [[3..2] [], [0..0] [-5]]" := rfl

/-- **The text of an array** can be read back if those of its elements can. -/
theorem text_readable (h : Readable fun x : α => (ToShown.shown x).compact) :
    Readable fun a : Anchored α => a.text where
  starts a := ⟨'[', _, a.toList_text, by decide⟩
  append_inj {a b r s} _ _ heq := by
    simp only [toList_text, List.cons_append, List.append_assoc, List.cons.injEq, true_and,
      List.nil_append] at heq
    -- a lower bound ends before the dots, an upper bound before the bracket
    obtain ⟨hlower, hbehind⟩ := numeral_append_inj (stops_cons rfl _) (stops_cons rfl _) heq
    simp only [List.cons.injEq, true_and] at hbehind
    obtain ⟨hupper, hbehind⟩ := numeral_append_inj (stops_cons rfl _) (stops_cons rfl _) hbehind
    simp only [List.cons.injEq, true_and] at hbehind
    obtain ⟨hitems, hrest⟩ := h.list_append_inj hbehind
    exact ⟨Anchored.ext (Int64.toInt_inj.1 hlower) (Int64.toInt_inj.1 hupper) (Slots.ext hitems),
      hrest⟩

lemma text_readable_int64 : Readable fun a : Anchored Int64 => a.text :=
  text_readable (numeral_readable.comp fun _ _ => Int64.toInt_inj.1)

/-- Arrays of integers have the same text exactly when they are equal, and so have arrays of arrays
of integers: the text says what the bounds of every array are and which elements it has. -/
theorem text_eq_iff :
    (∀ a b : Anchored Int64, a.text = b.text ↔ (a == b) = true)
      ∧ ∀ a b : Anchored (Anchored Int64), a.text = b.text ↔ (a == b) = true := by
  refine ⟨fun a b => ?_, fun a b => ?_⟩
  · rw [beq_iff_eq]
    exact text_readable_int64.injective.eq_iff
  · rw [beq_iff_eq]
    exact (text_readable text_readable_int64).injective.eq_iff

end Anchored

end AnchoredArrays
