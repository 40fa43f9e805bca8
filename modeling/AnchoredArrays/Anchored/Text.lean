import AnchoredArrays.Anchored.Basic
import AnchoredArrays.Text.Shown
import AnchoredArrays.Text.Datum

/-!
The texts of an array: for diagnosis with its bounds in front of its elements, as data without
them.

* `Anchored.shown`: the bounds as a heading, then the list of elements;
* `Anchored.datum`: the sequence of elements.
-/

namespace AnchoredArrays

/-- Values that have a diagnostic form. -/
class ToShown (α : Type) where
  shown : α → Text.Shown

/-- Values that have a data form. -/
class ToDatum (α : Type) where
  datum : α → Text.Datum

namespace Anchored

variable {α : Type} [Element α]

/-- The heading of an array: its bounds. -/
def heading (a : Anchored α) : String := a.bounds.text ++ " "

/-- The bounds and the elements. -/
def shown [ToShown α] (a : Anchored α) : Text.Shown :=
  .headed a.heading (.list (a.toList.map ToShown.shown))

instance [ToShown α] : ToShown (Anchored α) := ⟨shown⟩

/-- The elements. -/
def datum [ToDatum α] (a : Anchored α) : Text.Datum :=
  .sequence (a.toList.map ToDatum.datum)

instance [ToDatum α] : ToDatum (Anchored α) := ⟨datum⟩

/-- The diagnostic text of an array on one line. -/
def text [ToShown α] (a : Anchored α) : String := a.shown.compact

end Anchored

end AnchoredArrays
