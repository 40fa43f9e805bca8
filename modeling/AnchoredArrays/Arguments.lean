import AnchoredArrays.Anchored.Making
import AnchoredArrays.Anchored.Copying
import AnchoredArrays.Element.Instances
import AnchoredArrays.Lookup.Path

/-!
Argument vectors: the name a program was started under, kept apart, and the arguments behind it,
anchored at position 1. Arguments come as bytes and have to be valid UTF-8.

* `Arguments.ofBytes`: reads a list of arguments, the first of which is the name;
* `Arguments.text`: the diagnostic text.
-/

namespace AnchoredArrays

/-- The arguments that a program was started with. -/
structure Arguments where
  /-- The name the program was started under, empty if it was given none. -/
  invoked : String
  /-- The arguments behind the name, the first at position 1. -/
  rest : Anchored String

namespace Arguments

variable {σ : Type}

/-- The string that some bytes encode. -/
def decode (bytes : ByteArray) : Call σ String String :=
  match String.fromUTF8? bytes with
  | some s => pure s
  | none => Call.fail .arguments .notUnicode

/-- The strings of a list of arguments, up to the first that is not valid. -/
def decodeAll : List ByteArray → Call σ String (List String)
  | [] => pure []
  | bytes :: more => do
    let s ← decode bytes
    let rest ← decodeAll more
    pure (s :: rest)

/-- The name of a list of arguments: the first of them, or nothing. -/
def decodeName : List ByteArray → Call σ String String
  | [] => pure ""
  | bytes :: _ => decode bytes

/-- Reads a list of arguments. -/
def ofBytes (arguments : List ByteArray) : Call σ String Arguments := do
  let invoked ← decodeName arguments
  let items ← decodeAll arguments.tail
  Call.trace .arguments [.quoted invoked, .arguments items.length]
  let rest ← Call.during .arguments (Anchored.ofList 1 items)
  pure ⟨invoked, rest⟩

/-- The last part of the name the program was started under. -/
def programName (a : Arguments) : String := Lookup.programName a.invoked

/-- A copy, with copies of the arguments. -/
def copy (a : Arguments) : Arguments := { a with rest := Element.copy a.rest }

/-- Argument vectors are equal when names and arguments are. -/
instance : BEq Arguments where
  beq a b := a.invoked == b.invoked && a.rest == b.rest

/-- The diagnostic text of an argument vector. -/
def text (a : Arguments) : String :=
  "ArgVector \x7b arg0: " ++ Text.quoted a.invoked ++ ", args: " ++ a.rest.text ++ " \x7d"

end Arguments

end AnchoredArrays
