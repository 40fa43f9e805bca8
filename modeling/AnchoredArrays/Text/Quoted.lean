import AnchoredArrays.Text.Unprinted
import AnchoredArrays.Text.Extending

/-!
Quoted text for diagnosis: a string between double quotes in which the quote, the backslash and
every character that would not be seen as itself are escaped, so that the text stays on one line
and each of its characters can be told.

* `quoted`: the quoted form of a string;
* `escaped`: the form of a single character, itself unless it has to be escaped.
-/

namespace AnchoredArrays.Text

/-- Whether a character is seen as itself: it has a printed form and does not extend the
character in front of it. -/
def isPlain (c : Char) : Bool :=
  if c.toNat < 127 then 32 ≤ c.toNat
  else !unprinted.contains c.toNat && !extending.contains c.toNat

/-- Hexadecimal digits, lower case, most significant first. -/
def hexDigits (n : Nat) : List Char :=
  Nat.toDigits 16 n

/-- The quoted form of one character. -/
def escaped (c : Char) : List Char :=
  if c = '"' then ['\\', '"']
  else if c = '\\' then ['\\', '\\']
  else if c = '\n' then ['\\', 'n']
  else if c = '\r' then ['\\', 'r']
  else if c = '\t' then ['\\', 't']
  else if c.toNat = 0 then ['\\', '0']
  else if isPlain c then [c]
  else ['\\', 'u', '\x7b'] ++ hexDigits c.toNat ++ ['\x7d']

/-- A string between double quotes, its characters escaped one by one. -/
def quoted (s : String) : String :=
  String.ofList ('"' :: (s.toList.flatMap escaped ++ ['"']))

end AnchoredArrays.Text
