import AnchoredArrays.Session.Run
import AnchoredArrays.Element.Instances

/-!
The element types that sessions are run on, and the functions that their actions are given: a
number that stands for an element, the natural comparison, a change by a number, and the element
made for a position.

* `Item`: what an element type has to offer;
* `Rule`: the comparisons by which sessions sort;
* `summarise`, `listing`, `describe`, `encode`: what sessions read off an array.
-/

namespace AnchoredArrays.Session

/-- An element type that sessions can be run on. -/
class Item (α : Type) extends Element α, BEq α, ToShown α, ToDatum α where
  /-- The number that stands for an element. -/
  weight : α → Int
  /-- The natural comparison. -/
  order : α → α → Ordering
  /-- An element changed by a number. -/
  bump : Int64 → α → α
  /-- The element that the call of the given number makes for a position. -/
  made : Nat → Int64 → α

/-- Integers stand for themselves, and changes wrap. -/
instance : Item Int64 where
  weight x := x.toInt
  order := compare
  bump k x := x + k
  made _ i := i

/-- A string weighs as many bytes as it has in UTF-8, and a number is written behind it. -/
instance : Item String where
  weight s := s.utf8ByteSize
  order := compare
  bump k s := s ++ toString k.toInt
  made _ i := toString i.toInt

instance : Item Unit where
  weight _ := 0
  order _ _ := .eq
  bump _ x := x
  made _ _ := ()

/-- Entries are compared by their keys alone. -/
instance : Item Entry where
  weight x := x.key.toInt
  order x y := compare x.key y.key
  bump k x := { x with key := x.key + k }
  made c i := ⟨i, Int64.ofNat c⟩

/-- A change of a traced value is not a copy. -/
instance : Item Traced where
  weight x := x.value.toInt
  order x y := compare x.value y.value
  bump k x := { x with value := x.value + k }
  made _ i := ⟨i, 0⟩

/-- Arrays of integers are compared element by element, a shorter array before what it is the
beginning of. -/
instance : Item (Anchored Int64) where
  weight a := a.length
  order a b := compare a.toList b.toList
  bump k a := a.map (· + k)
  made c i := ⟨i, i, .single (Int64.ofNat c)⟩

/-- The comparisons by which sessions sort. -/
inductive Rule where
  | natural
  /-- By the numbers that stand for the elements. -/
  | weight
  /-- By the remainders of these numbers. -/
  | remainder (m : Int)
  /-- The answers follow a list of numbers, round and round, whatever is compared. -/
  | script (signs : Array Int)
  deriving DecidableEq, Repr

/-- The comparison of a rule. -/
def Rule.compare {α : Type} [Item α] (rule : Rule) : Asked α → α → α → Ordering :=
  match rule with
  | .natural => fun _ x y => Item.order x y
  | .weight => fun _ x y => Ord.compare (Item.weight x) (Item.weight y)
  | .remainder m => fun _ x y => Ord.compare (Item.weight x % m) (Item.weight y % m)
  | .script signs => fun asked _ _ =>
    Ord.compare ((signs[asked.count % signs.size]?).getD 0) 0

/-- Bounds, length and ends of an array. -/
def summarise {α : Type} [Element α] (a : Anchored α) : View α :=
  .summary a.lower a.upper a.length a.isEmpty a.first? a.last?

/-- The elements of an array, upward or downward. -/
def listing {α : Type} [Element α] (downward : Bool) (a : Anchored α) : View α :=
  .elements (if downward then a.toList.reverse else a.toList)

/-- The diagnostic text of an array, on one line or spread over several. -/
def describe {α : Type} [Item α] (spread : Bool) (a : Anchored α) : View α :=
  .text (if spread then a.shown.spread else a.shown.compact)

/-- The data text of an array. -/
def encode {α : Type} [Item α] (a : Anchored α) : View α := .text a.datum.text

end AnchoredArrays.Session
