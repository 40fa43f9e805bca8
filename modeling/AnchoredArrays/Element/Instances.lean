import AnchoredArrays.Anchored.Text

/-!
Common types as elements: machine integers, strings, the unit type, blocks of raw bytes, and
pairs of integers. Values of these types are copied as they are. Where they have texts, integers
are written in decimal and strings between quotes.
-/

namespace AnchoredArrays

open Text

/-- A machine integer takes 8 bytes. -/
instance : Element Int64 where
  size := 8
  copy x := x
  only h := absurd h (by decide)
  eq_only h := absurd h (by decide)

instance : ToShown Int64 := ⟨fun x => .number x.toInt⟩

instance : ToDatum Int64 := ⟨fun x => .number x.toInt⟩

/-- A string takes 24 bytes; its characters lie elsewhere. -/
instance : Element String where
  size := 24
  copy x := x
  only h := Nat.noConfusion h
  eq_only h := Nat.noConfusion h

instance : ToShown String := ⟨.string⟩

instance : ToDatum String := ⟨.string⟩

/-- The unit type takes no bytes. -/
instance : Element Unit where
  size := 0
  copy x := x
  only _ := ()
  eq_only _ _ := rfl

instance : ToShown Unit := ⟨fun _ => .atom "()"⟩

instance : ToDatum Unit := ⟨fun _ => .null⟩

/-- A block of `n` raw bytes. -/
instance (n : Nat) : Element (Vector UInt8 n) where
  size := n
  copy x := x
  only _ := Vector.replicate n 0
  eq_only h x := by
    subst h
    ext i hi
    exact absurd hi (Nat.not_lt_zero i)

/-- A key and a tag that goes with it. -/
structure Entry where
  key : Int64
  tag : Int64
  deriving DecidableEq, Repr

/-- An entry takes 16 bytes. -/
instance : Element Entry where
  size := 16
  copy x := x
  only h := absurd h (by decide)
  eq_only h := absurd h (by decide)

instance : ToShown Entry := ⟨fun x => .tuple [.number x.key.toInt, .number x.tag.toInt]⟩

instance : ToDatum Entry := ⟨fun x => .sequence [.number x.key.toInt, .number x.tag.toInt]⟩

/-- A value that knows how often it was copied. -/
structure Traced where
  value : Int64
  /-- How many times a copy was made on the way to this value. -/
  depth : Nat
  deriving DecidableEq, Repr

/-- A copy is one level deeper than what it was made of. -/
instance : Element Traced where
  size := 16
  copy x := { x with depth := x.depth + 1 }
  only h := absurd h (by decide)
  eq_only h := absurd h (by decide)

/-- A value and its copies are equal. -/
instance : BEq Traced := ⟨fun x y => x.value == y.value⟩

instance : ToShown Traced := ⟨fun x => .tuple [.number x.value.toInt, .number x.depth]⟩

instance : ToDatum Traced := ⟨fun x => .number x.value.toInt⟩

end AnchoredArrays
