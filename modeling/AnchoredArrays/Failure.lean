/-!
How an operation on an anchored array can fail: the reason, the kind that the reason belongs to,
and the operation that reports it.

* `Reason.kind` and `Reason.text` are the only places where a reason is classified and worded;
* `Failure.message` and `Failure.detail` are the two texts of a failure, for people and for
  diagnosis.
-/

namespace AnchoredArrays

/-- The three classes of failures. -/
inductive Kind where
  /-- A length or a position exceeds what can be represented, or a buffer was not granted. -/
  | memory
  /-- The request contradicts itself, or would leave an array that has no bounds. -/
  | range
  /-- A position lies outside the array. -/
  | index
  deriving DecidableEq, Repr

/-- The word for a class of failures. -/
def Kind.text : Kind → String
  | .memory => "memory-error"
  | .range => "range-error"
  | .index => "index-error"

/-- The operations that report failures or leave a record of their call. -/
inductive Operation where
  | empty | ofList | ofFn | replicate | singleton | pair | copy
  | allocate | resize | reanchor
  | copyHead | copyTail | copyRange | copyRun
  | moveHead | moveTail | moveRange | moveRun
  | concat | append | extend | push
  | insert | insertCopy | insertSelf | insertMoved
  | remove | removeRun | swapRemove
  | sortUp | sortDown
  | arguments
  deriving DecidableEq, Repr

/-- The label of an operation in messages and records. -/
def Operation.label : Operation → String
  | .empty => "empty"
  | .ofList => "from_vec"
  | .ofFn => "from_fn"
  | .replicate => "times"
  | .singleton => "base_lit"
  | .pair => "pair"
  | .copy => "clone"
  | .allocate => "allocate"
  | .resize => "resize"
  | .reanchor => "rebase"
  | .copyHead => "head"
  | .copyTail => "tail"
  | .copyRange => "range"
  | .copyRun => "subarr"
  | .moveHead => "head_temp"
  | .moveTail => "tail_temp"
  | .moveRange => "range_temp"
  | .moveRun => "subarr_temp"
  | .concat => "concat"
  | .append => "append"
  | .extend => "extend_one"
  | .push => "push"
  | .insert => "insert"
  | .insertCopy => "insert_array"
  | .insertSelf => "insert_self"
  | .insertMoved => "insert_array_temp"
  | .remove => "remove"
  | .removeRun => "remove_array"
  | .swapRemove => "swap_remove"
  | .sortUp => "sort_ascending"
  | .sortDown => "sort_descending"
  | .arguments => "from_args"

/-- The conditions whose violation makes an operation fail. -/
inductive Reason where
  /-- A buffer of the needed length cannot exist or was not granted. -/
  | noMemory
  /-- The bounds span every position there is, so the length is not representable. -/
  | wholeSpace
  /-- The requested upper bound lies more than one below the lower bound. -/
  | crossedBounds
  /-- An empty array has no upper bound when it is anchored at the smallest position. -/
  | noEmptyAnchor
  /-- The new anchor leaves no representable bounds. -/
  | noSuchAnchor
  /-- A negative number of elements is to be removed. -/
  | negativeLength
  /-- A slice ends more than one below the lower bound. -/
  | stopTooLow
  /-- A slice starts below the lower bound. -/
  | startTooLow
  /-- A slice ends more than one below its start. -/
  | stopBeforeStart
  /-- A run starts below the lower bound or has a negative length. -/
  | badRun
  /-- A position is neither that of an element nor the one after the last. -/
  | noInsertionPoint
  /-- A position is not that of an element. -/
  | noElement
  /-- An argument's bytes are not valid UTF-8. -/
  | notUnicode
  deriving DecidableEq, Repr

namespace Reason

/-- The class that a reason belongs to. -/
def kind : Reason → Kind
  | .noMemory | .wholeSpace | .notUnicode => .memory
  | .crossedBounds | .noEmptyAnchor | .noSuchAnchor | .negativeLength => .range
  | .stopTooLow | .startTooLow | .stopBeforeStart | .badRun => .index
  | .noInsertionPoint | .noElement => .index

/-- The wording of a reason. -/
def text : Reason → String
  | .noMemory => "not enough memory"
  | .wholeSpace => "index range covers the whole index space"
  | .crossedBounds => "max_index is less than min_index - 1"
  | .noEmptyAnchor => "cannot create an empty array at the minimum index"
  | .noSuchAnchor => "minimum or maximum index out of range"
  | .negativeLength => "length is negative"
  | .stopTooLow => "stop is less than min_index - 1"
  | .startTooLow => "start is less than min_index"
  | .stopBeforeStart => "stop is less than start - 1"
  | .badRun => "start is less than min_index or length is negative"
  | .noInsertionPoint => "position is outside min_index ..= max_index + 1"
  | .noElement => "position is outside min_index ..= max_index"
  | .notUnicode => "argument is not valid unicode"

/-- The message of a reason that is reported under `label`. -/
def message (r : Reason) (label : String) : String :=
  label ++ ": " ++ r.text

/-- The diagnosis of a reason that is reported under `label`. -/
def detail (r : Reason) (label : String) : String :=
  r.kind.text ++ " in \x60" ++ label ++ "\x60: " ++ r.text

end Reason

/-- A failure: the operation that reports it and the reason. -/
structure Failure where
  operation : Operation
  reason : Reason
  deriving DecidableEq, Repr

namespace Failure

/-- The class of a failure. -/
def kind (e : Failure) : Kind := e.reason.kind

/-- The message of a failure: its operation and its reason. -/
def message (e : Failure) : String := e.reason.message e.operation.label

/-- The diagnosis of a failure: its class, its operation and its reason. -/
def detail (e : Failure) : String := e.reason.detail e.operation.label

end Failure

end AnchoredArrays
