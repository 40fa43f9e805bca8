import AnchoredArrays.Text.Quoted

/-!
The data form of values: numbers, strings, the null value and sequences, written without blanks.

* `Datum.text`: the text of a datum.
-/

namespace AnchoredArrays.Text

/-- A value in data form. -/
inductive Datum where
  | null
  | number (n : Int)
  | string (s : String)
  | sequence (items : List Datum)

namespace Datum

/-- The data form of one character: the quote, the backslash and the first 32 characters are
escaped, the latter by a letter where there is one and else by four hexadecimal digits. -/
def escapedChar (c : Char) : List Char :=
  if c = '"' then ['\\', '"']
  else if c = '\\' then ['\\', '\\']
  else if c = '\n' then ['\\', 'n']
  else if c = '\r' then ['\\', 'r']
  else if c = '\t' then ['\\', 't']
  else if c.toNat = 8 then ['\\', 'b']
  else if c.toNat = 12 then ['\\', 'f']
  else if c.toNat < 32 then
    ['\\', 'u', '0', '0'] ++ (if c.toNat < 16 then ['0'] else []) ++ hexDigits c.toNat
  else [c]

/-- A string between double quotes. -/
def quotedString (s : String) : String :=
  String.ofList ('"' :: (s.toList.flatMap escapedChar ++ ['"']))

mutual

/-- The text of a datum. -/
def text : Datum → String
  | .null => "null"
  | .number n => toString n
  | .string s => quotedString s
  | .sequence items => "[" ++ ",".intercalate (textItems items) ++ "]"

/-- The texts of the items of a sequence. -/
def textItems : List Datum → List String
  | [] => []
  | x :: rest => text x :: textItems rest

end

end Datum

end AnchoredArrays.Text
