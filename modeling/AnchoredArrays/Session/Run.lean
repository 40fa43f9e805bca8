import AnchoredArrays.Session.Action

/-!
Sessions: arrays in named registers, and a ledger of how many elements exist. A step carries out
one action; its result, if it is an array, may be stored in a register, and is dropped otherwise.
The ledger counts the elements that an action is given, those that come into being while its calls
run, be it as copies or otherwise, and those that are dropped, by the calls or by the session, each
where that happens. It is never read off the registers.

* `Session.step`: one step, and the report of it;
* `Session.run`: the reports of a list of steps.
-/

namespace AnchoredArrays

open Session

/-- The arrays held under names, and the number of elements that exist. -/
structure Session (α : Type) [Element α] where
  registers : List (Name × Anchored α)
  live : Int

namespace Session

variable {α : Type} [Element α]

/-- The session that holds nothing. -/
def start : Session α := ⟨[], 0⟩

/-- The array in a register. -/
def find? (s : Session α) (name : Name) : Option (Anchored α) :=
  (s.registers.find? (·.1 == name)).map (·.2)

/-- The session with a register emptied. The array in it is still accounted for. -/
def clear (s : Session α) (name : Name) : Session α :=
  { s with registers := s.registers.filter (·.1 != name) }

/-- The session with an array put into an empty register, or another version of the array that is
in it. -/
def put (s : Session α) (name : Name) (a : Anchored α) : Session α :=
  { s with registers := (name, a) :: (s.clear name).registers }

/-- The session with a register holding what a slot holds. -/
def putSlot (s : Session α) (name : Name) : Option (Anchored α) → Session α
  | some a => s.put name a
  | none => s.clear name

/-- The session after `n` more elements came into being, or fewer. -/
def counted (s : Session α) (n : Int) : Session α := { s with live := s.live + n }

/-- A step: an action, the register for an array that it results in, and what is granted. -/
structure Step (α : Type) [Element α] where
  action : Action α
  into : Option Name
  supply : Supply

/-- The reasons for a step to end without a result. -/
inductive Trouble where
  /-- There is no array in a register that has to hold one. -/
  | noArray (name : Name)
  | halted (halt : Halt)
  deriving DecidableEq, Repr

/-- The report of a step: its outcome, what its calls did, which elements the session dropped in the
end, what is in the registers that it worked on, and how many elements exist afterwards. -/
structure Report (α : Type) [Element α] where
  outcome : Except Trouble (Result α)
  tally : Tally α
  released : Slots α
  shown : List (Name × Option (Anchored α))
  live : Int

/-- The names of the registers that an action works on. -/
def registersOf : Action α → List Name
  | .make _ => []
  | .view a _ | .read a _ | .copy a | .copySlice a _ | .moveSlice a _ | .change a _
  | .extend a _ | .drain a _ => [a]
  | .equal a b _ | .join a b _ | .concat a b => [a, b]

/-- The report of a step that led to the session `s`. -/
def report (s : Session α) (action : Action α) (outcome : Except Trouble (Result α))
    (tally : Tally α) (released : Slots α) : Session α × Report α :=
  (s, ⟨outcome, tally, released, (registersOf action).map fun name => (name, s.find? name), s.live⟩)

/-- The elements that the session drops when the result of a call was shown: those of an array that
is not stored, or of the one that gives way to it, and those that were moved out of an array. -/
def released (s : Session α) (into : Option Name) : Result α → Slots α
  | .array a =>
    match into with
    | none => a.slots
    | some name => ((s.find? name).map (·.slots)).getD .nil
  | .taken x => .single x
  | .drained xs _ => .ofList (xs.filterMap id)
  | _ => .nil

/-- The session with an array that a call resulted in stored under a name, if there is one. -/
def store (s : Session α) : Option Name → Result α → Session α
  | some name, .array a => s.put name a
  | _, _ => s

/-- The session after the result of a call was shown, and stored or dropped. -/
def settle (s : Session α) (into : Option Name) (result : Result α) : Session α :=
  (s.store into result).counted (-(s.released into result).length)

/-- Ends a step whose call had the given outcome and tally; `s` holds what the call left in the
registers. -/
def conclude (s : Session α) (step : Step α) (outcome : Except Halt (Result α))
    (tally : Tally α) : Session α × Report α :=
  let s := s.counted (step.action.given.length + tally.received.length + tally.copied.length
    - tally.dropped.length)
  match outcome with
  | .ok result =>
    (s.settle step.into result).report step.action (.ok result) tally (s.released step.into result)
  | .error h => s.report step.action (.error (.halted h)) tally .nil

/-- Ends a step that found no array in a register; what the action was given is dropped. -/
def missing (s : Session α) (step : Step α) (name : Name) : Session α × Report α :=
  s.report step.action (.error (.noArray name)) .blank (.ofList step.action.given)

/-- A call on a value, apart: its outcome, the value afterwards, and its tally. -/
def outcomeOn {σ ρ : Type} (supply : Supply) (a : σ) (c : Call σ α ρ) (result : ρ → Result α) :
    Except Halt (Result α) × σ × Tally α :=
  let (out, f) := c.run supply a
  (out.map result, f.held, f.tally)

/-- One step of a session. Where two registers have to hold arrays, the second is looked at
first; if the action uses up what is in it, the first one has to be another register. -/
def step (s : Session α) (step : Step α) : Session α × Report α :=
  match step.action with
  | .make making =>
    let (out, tally) := making.run step.supply
    s.conclude step (out.map .array) tally
  | .view a f =>
    match s.find? a with
    | none => s.missing step a
    | some x => s.conclude step (.ok (.view (f x))) .blank
  | .read a i =>
    match s.find? a with
    | none => s.missing step a
    | some x =>
      let (out, _, tally) := outcomeOn step.supply () (x.read i) .seen
      s.conclude step out tally
  | .equal a b same =>
    match s.find? b, s.find? a with
    | none, _ => s.missing step b
    | some _, none => s.missing step a
    | some y, some x => s.conclude step (.ok (.flag (same x y))) .blank
  | .copy a =>
    match s.find? a with
    | none => s.missing step a
    | some x =>
      let (out, _, tally) := outcomeOn step.supply () x.copy .array
      s.conclude step out tally
  | .copySlice a selection =>
    match s.find? a with
    | none => s.missing step a
    | some x =>
      let (out, _, tally) := outcomeOn step.supply () (selection.copied x) .array
      s.conclude step out tally
  | .moveSlice a selection =>
    let (out, slot, tally) := outcomeOn step.supply (s.find? a) selection.moved .array
    (s.putSlot a slot).conclude step out tally
  | .change a change =>
    match s.find? a with
    | none => s.missing step a
    | some x =>
      let (out, x, tally) := outcomeOn step.supply x change.call id
      (s.put a x).conclude step out tally
  | .join a b joining =>
    let rest := if joining.consumes then s.clear b else s
    match s.find? b, rest.find? a with
    | none, _ => s.missing step b
    | some _, none => s.missing step a
    | some y, some x =>
      let (out, x, tally) := outcomeOn step.supply x (joining.call y) fun _ => .nothing
      (rest.put a x).conclude step out tally
  | .concat a b =>
    let rest := s.clear b
    match s.find? b, rest.find? a with
    | none, _ => s.missing step b
    | some _, none => s.missing step a
    | some y, some x =>
      let (out, _, tally) := outcomeOn step.supply () (x.concat y) .array
      (rest.clear a).conclude step out tally
  | .extend a x =>
    match s.find? a with
    | none => s.missing step a
    | some y =>
      let (out, _, tally) := outcomeOn step.supply () (y.extend x) .array
      (s.clear a).conclude step out tally
  | .drain a n =>
    match s.find? a with
    | none => s.missing step a
    | some x =>
      let (out, _, tally) :=
        outcomeOn step.supply (Drain.ofArray x) (Drain.take n) fun (xs, left) => .drained xs left
      (s.clear a).conclude step out tally

/-- The steps of a session one after the other, and their reports. -/
def run (s : Session α) : List (Step α) → Session α × List (Report α)
  | [] => (s, [])
  | step :: rest =>
    let (s, report) := s.step step
    let (s, reports) := run s rest
    (s, report :: reports)

end Session

end AnchoredArrays
