import AnchoredArrays.Proofs.Anchored.Laid
import AnchoredArrays.Session.Run

/-!
Registers. What is in a register after an array was put into it, or into another one, and how an
invariant of the arrays in a session is kept.

* `find?_put`, `find?_clear`, `find?_putSlot`: the registers afterwards;
* `Session.WellFormed`: every array in a register is well-formed; `WellFormed.put`,
  `WellFormed.store`, `WellFormed.settle`: it stays that way;
* `Ending`: what is promised of the end of a step; `conclude_ok`, `conclude_error`,
  `missing_ending`: **a step ends as promised** if its call does as it has to.
-/

namespace AnchoredArrays.Session

variable {α : Type} [Element α] {s t : Session α} {name other : Name} {a : Anchored α}

/-! ### What is in a register -/

lemma find?_cons (r : Name × Anchored α) (registers : List (Name × Anchored α)) (live : Int)
    (name : Name) :
    find? ⟨r :: registers, live⟩ name
      = if r.1 = name then some r.2 else find? ⟨registers, live⟩ name := by
  simp only [find?, List.find?_cons, beq_eq_decide]
  by_cases h : r.1 = name <;> simp [h]

/-- Emptying a register leaves the other ones as they are. -/
lemma find?_clear (s : Session α) (name other : Name) :
    (s.clear name).find? other = if other = name then none else s.find? other := by
  obtain ⟨registers, live⟩ := s
  induction registers with
  | nil => simp [clear, find?]
  | cons r registers ih =>
    change find? ⟨(r :: registers).filter (·.1 != name), live⟩ other = _
    change find? ⟨registers.filter (·.1 != name), live⟩ other = _ at ih
    rw [List.filter_cons]
    by_cases hr : r.1 = name
    · rw [if_neg (by simpa using hr), ih, find?_cons]
      by_cases hother : other = name
      · rw [if_pos hother, if_pos hother]
      · have hne : r.1 ≠ other := fun he => hother (he.symm.trans hr)
        rw [if_neg hother, if_neg hother, if_neg hne]
    · rw [if_pos (by simpa using hr), find?_cons, find?_cons, ih]
      split_ifs with h h' h'
      · exact absurd (h.trans h') hr
      all_goals rfl

/-- A register into which an array is put holds it, and the other ones are as they were. -/
lemma find?_put (s : Session α) (name other : Name) (a : Anchored α) :
    (s.put name a).find? other = if other = name then some a else s.find? other := by
  change find? ⟨(name, a) :: (s.clear name).registers, (s.clear name).live⟩ other = _
  rw [find?_cons]
  split_ifs with h h' h'
  · rfl
  · exact absurd h.symm h'
  · exact absurd h'.symm h
  · calc find? ⟨(s.clear name).registers, (s.clear name).live⟩ other
        = (s.clear name).find? other := rfl
      _ = s.find? other := by rw [find?_clear, if_neg h']

/-- A register holds what a slot holds. -/
lemma find?_putSlot (s : Session α) (name other : Name) (slot : Option (Anchored α)) :
    (s.putSlot name slot).find? other = if other = name then slot else s.find? other := by
  cases slot with
  | none => exact find?_clear ..
  | some a => exact find?_put ..

/-- Putting back what was there changes no register. -/
lemma find?_put_self (h : s.find? name = some a) (other : Name) :
    (s.put name a).find? other = s.find? other := by
  rw [find?_put]
  split_ifs with hother
  · rw [hother, h]
  · rfl

lemma find?_putSlot_self (s : Session α) (name other : Name) :
    (s.putSlot name (s.find? name)).find? other = s.find? other := by
  rw [find?_putSlot]
  split_ifs with hother
  · rw [hother]
  · rfl

/-! ### Well-formed sessions -/

/-- Every array in a register is well-formed. -/
def WellFormed (s : Session α) : Prop := ∀ r ∈ s.registers, r.2.WellFormed

/-- The array that an action results in, if it does, is well-formed. -/
def Result.WellFormed : Result α → Prop
  | .array a => a.WellFormed
  | _ => True

lemma start_wellFormed : (start : Session α).WellFormed := fun _ hr => nomatch hr

namespace WellFormed

lemma find? (h : s.WellFormed) (ha : s.find? name = some a) : a.WellFormed := by
  obtain ⟨r, hr, rfl⟩ := Option.map_eq_some_iff.1 ha
  exact h r (List.mem_of_find?_eq_some hr)

lemma counted (h : s.WellFormed) (n : Int) : (s.counted n).WellFormed := h

lemma clear (h : s.WellFormed) (name : Name) : (s.clear name).WellFormed :=
  fun r hr => h r (List.mem_filter.1 hr).1

lemma put (h : s.WellFormed) (name : Name) (ha : a.WellFormed) : (s.put name a).WellFormed := by
  intro r hr
  obtain rfl | hr := List.mem_cons.1 hr
  · exact ha
  · exact h.clear name r hr

lemma putSlot (h : s.WellFormed) (name : Name) {slot : Option (Anchored α)}
    (hslot : ∀ a, slot = some a → a.WellFormed) : (s.putSlot name slot).WellFormed := by
  cases slot with
  | none => exact h.clear name
  | some a => exact h.put name (hslot a rfl)

lemma store (h : s.WellFormed) (into : Option Name) {result : Result α}
    (hresult : result.WellFormed) : (s.store into result).WellFormed := by
  cases into with
  | none => exact h
  | some name =>
    cases result with
    | array a => exact h.put name hresult
    | _ => exact h

lemma settle (h : s.WellFormed) (into : Option Name) {result : Result α}
    (hresult : result.WellFormed) : (s.settle into result).WellFormed :=
  (h.store into hresult).counted _

end WellFormed

/-! ### The end of a step -/

/-- What is promised of the end of a step from the session `s`, where the step may use up what is
in the registers `consumed`: every array that there is afterwards is well-formed; no call of the
step faults; and if the step ends without a result, the other registers are as they were. -/
structure Ending (s : Session α) (consumed : List Name) (out : Session α × Report α) : Prop where
  wellFormed : out.1.WellFormed
  result : ∀ r, out.2.outcome = .ok r → r.WellFormed
  exact : ∀ e, out.2.outcome ≠ .error (.halted (.fault e))
  kept : ∀ e, out.2.outcome = .error e → ∀ name, name ∉ consumed →
    out.1.find? name = s.find? name

variable {step : Step α} {consumed : List Name} {tally : Tally α}

/-- A step whose call results in something. -/
lemma conclude_ok (ht : t.WellFormed) {result : Result α} (hresult : result.WellFormed) :
    Ending s consumed (t.conclude step (.ok result) tally) where
  wellFormed := (ht.counted _).settle step.into hresult
  result r hr := by
    cases hr
    exact hresult
  exact _ he := nomatch he
  kept _ he := nomatch he

/-- A step whose call halts. -/
lemma conclude_error (ht : t.WellFormed) {h : Halt} (hexact : ∀ e, h ≠ .fault e)
    (hkept : ∀ name, name ∉ consumed → t.find? name = s.find? name) :
    Ending s consumed (t.conclude step (.error h) tally) where
  wellFormed := ht
  result _ hr := nomatch hr
  exact e he := by
    cases he
    exact hexact e rfl
  kept _ _ := hkept

/-- A step that finds no array does nothing. -/
lemma missing_ending (hs : s.WellFormed) (name : Name) :
    Ending s consumed (s.missing step name) where
  wellFormed := hs
  result _ hr := nomatch hr
  exact _ he := nomatch he
  kept _ _ _ _ := rfl

end AnchoredArrays.Session
