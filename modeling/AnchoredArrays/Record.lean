import AnchoredArrays.Failure
import AnchoredArrays.Text.Quoted

/-!
The records that calls leave in the log: a trace of the call with its arguments, or the failure it
ends with.

* `Record.text`: a record as its level and its message.
-/

namespace AnchoredArrays

/-- An argument in the trace of a call. -/
inductive Argument where
  /-- The bounds of an array. -/
  | bounds (min max : Int64)
  /-- A position or a signed length. -/
  | position (i : Int64)
  /-- A number of slots. -/
  | length (n : Nat)
  /-- A quoted string. -/
  | quoted (s : String)
  /-- The size of an argument vector. -/
  | arguments (n : Nat)
  deriving DecidableEq, Repr

/-- The text of an argument. -/
def Argument.text : Argument → String
  | .bounds min max => "[" ++ toString min.toInt ++ ".." ++ toString max.toInt ++ "]"
  | .position i => toString i.toInt
  | .length n => toString n
  | .quoted s => Text.quoted s
  | .arguments n => toString n ++ " arguments"

/-- A record of the log. -/
inductive Record where
  /-- A call and its arguments. -/
  | trace (operation : Operation) (arguments : List Argument)
  /-- A failure, under the label of the operation that found it. -/
  | debug (failure : Failure)
  deriving DecidableEq, Repr

namespace Record

/-- The message of a record. -/
def message : Record → String
  | .trace operation arguments =>
      operation.label ++ "(" ++ ", ".intercalate (arguments.map Argument.text) ++ ")"
  | .debug failure => failure.message ++ " (" ++ failure.kind.text ++ ")"

/-- The word for the level of a record. -/
def level : Record → String
  | .trace .. => "TRACE"
  | .debug .. => "DEBUG"

/-- A record as one line: its level and its message. -/
def text (r : Record) : String := r.level ++ " " ++ r.message

end Record

end AnchoredArrays
