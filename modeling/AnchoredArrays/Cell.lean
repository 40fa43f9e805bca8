import AnchoredArrays.Slots

/-!
Cells: slots that may not have been written yet. A fresh buffer consists of unwritten cells, and
its contents can be read only once every cell is written. A cell of no bytes holds the only value
there is and counts as written from the start.

* `Slots.settled?_of_toList`: cells that were all written give back what was written;
* `Slots.toList_cells`: the view of written cells.
-/

namespace AnchoredArrays

open Element

/-- A slot that holds an element or has not been written. -/
structure Cell (α : Type) [Element α] where
  content : Option α
  written_of_weightless : Weightless α → content.isSome

namespace Cell

variable {α : Type} [Element α]

@[ext] theorem ext {c d : Cell α} (h : c.content = d.content) : c = d := by
  cases c; cases d; simp only at h; subst h; rfl

/-- The cell that holds `x`. -/
def written (x : α) : Cell α := ⟨some x, fun _ => rfl⟩

/-- A fresh cell. -/
def fresh : Cell α :=
  if h : Weightless α then written (only h) else ⟨none, fun h' => absurd h' h⟩

/-- A cell is copied as it is. -/
instance : Element (Cell α) where
  size := size α
  copy c := c
  only h := written (only h)
  eq_only h c := by
    have hw := c.written_of_weightless h
    obtain ⟨x, hx⟩ := Option.isSome_iff_exists.1 hw
    ext1
    rw [hx, eq_only h x]
    rfl

@[simp] theorem content_written (x : α) : (written x).content = some x := rfl

/-- Written cells hold what was written into them. -/
@[simp] theorem filterMap_content (items : List α) :
    (items.map written).filterMap content = items := by
  rw [List.filterMap_map]
  exact List.filterMap_some

end Cell

namespace Slots

variable {α : Type} [Element α]

/-- Slots as cells, all of them written. -/
def cells : Slots α → Slots (Cell α)
  | .listed h items => .listed h (items.map Cell.written)
  | .counted h n => .counted h n

/-- The elements in those cells that are written. -/
def contents : Slots (Cell α) → Slots α
  | .listed h cells => .listed h (cells.filterMap Cell.content)
  | .counted h n => .counted h n

/-- The contents of cells, if every cell is written. -/
def settled? : Slots (Cell α) → Option (Slots α)
  | .listed h items => (items.mapM Cell.content).map (.listed h)
  | .counted h n => some (.counted h n)

@[simp] theorem toList_cells (s : Slots α) : s.cells.toList = s.toList.map Cell.written := by
  cases s with
  | listed h items => rfl
  | counted h n =>
    simp only [cells, toList, List.map_replicate]
    congr 1

@[simp] theorem toList_contents (s : Slots (Cell α)) :
    s.contents.toList = s.toList.filterMap Cell.content := by
  cases s with
  | listed h cells => rfl
  | counted h n => exact (List.filterMap_replicate_of_some (f := Cell.content) rfl).symm

/-- Cells that were all written give back what was written. -/
theorem settled?_of_toList {s : Slots (Cell α)} {t : Slots α}
    (h : s.toList = t.toList.map Cell.written) : s.settled? = some t := by
  have hs : s = t.cells := Slots.ext (by simpa using h)
  subst hs
  cases t with
  | listed ht items =>
    have hm : (items.map Cell.written).mapM Cell.content = some items := by
      induction items with
      | nil => rfl
      | cons x rest ih => simp [List.mapM_cons, ih]
    simp [cells, settled?, hm]
  | counted ht n => rfl

end Slots

end AnchoredArrays
