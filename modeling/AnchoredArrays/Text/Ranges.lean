/-!
Sets of characters as closed ranges of code points.

* `Ranges.contains`: membership;
* `Ranges.ascending`: whether the ranges are in order and apart.
-/

namespace AnchoredArrays.Text

/-- Closed ranges of code points. -/
abbrev Ranges : Type := List (Nat × Nat)

namespace Ranges

/-- Whether one of the ranges holds the code point. -/
def contains (ranges : Ranges) (code : Nat) : Bool :=
  ranges.any fun range => range.1 ≤ code && code ≤ range.2

/-- Whether each range ends before the next one starts, with a gap in between. -/
def ascending : Ranges → Bool
  | [] => true
  | [range] => range.1 ≤ range.2
  | range :: next :: rest =>
    range.1 ≤ range.2 && range.2 + 1 < next.1 && ascending (next :: rest)

end Ranges

end AnchoredArrays.Text
