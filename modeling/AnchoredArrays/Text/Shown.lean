import AnchoredArrays.Text.Quoted

/-!
The diagnostic form of values: atoms, bracketed groups and groups behind a heading, written either
on one line or spread over several with four blanks per level.

* `Shown.compact`: the text on one line, members separated by a comma and a blank;
* `Shown.spread`: the text on several lines, each member on a line of its own and followed by a
  comma.
-/

namespace AnchoredArrays.Text

/-- A value in diagnostic form. -/
inductive Shown where
  /-- A text without parts. -/
  | atom (text : String)
  /-- Members between an opening and a closing bracket. -/
  | group (opening closing : String) (members : List Shown)
  /-- A heading and the form that follows it. -/
  | headed (heading : String) (body : Shown)

namespace Shown

/-- A whole number in decimal. -/
def number (n : Int) : Shown := .atom (toString n)

/-- A quoted string. -/
def string (s : String) : Shown := .atom (quoted s)

/-- A list between square brackets. -/
def list (members : List Shown) : Shown := .group "[" "]" members

/-- A tuple between parentheses. -/
def tuple (members : List Shown) : Shown := .group "(" ")" members

mutual

/-- The text on one line. -/
def compact : Shown → String
  | .atom text => text
  | .group opening closing members =>
    opening ++ ", ".intercalate (compactMembers members) ++ closing
  | .headed heading body => heading ++ compact body

/-- The texts of members on one line. -/
def compactMembers : List Shown → List String
  | [] => []
  | x :: rest => compact x :: compactMembers rest

end

/-- The blanks in front of a line at depth `n`. -/
def indent (n : Nat) : String := String.ofList (List.replicate (4 * n) ' ')

mutual

/-- The text on several lines, its own lines at depth `n`. -/
def spreadAt (n : Nat) : Shown → String
  | .atom text => text
  | .group opening closing members =>
    if members.isEmpty then opening ++ closing
    else
      opening ++ "\n" ++ String.join (spreadMembers (n + 1) members) ++ indent n ++ closing
  | .headed heading body => heading ++ spreadAt n body

/-- The members at depth `n`, each on a line of its own and followed by a comma. -/
def spreadMembers (n : Nat) : List Shown → List String
  | [] => []
  | x :: rest => (indent n ++ spreadAt n x ++ ",\n") :: spreadMembers n rest

end

/-- The text on several lines. -/
def spread (x : Shown) : String := spreadAt 0 x

end Shown

end AnchoredArrays.Text
