import AnchoredArrays.Anchored.Removing
import AnchoredArrays.Anchored.Order
import AnchoredArrays.Anchored.Access

/-!
The actions of a session: what can be done to the arrays in its registers, and what an action
results in. Functions that an action is given (a function of the position, a change of elements,
a comparison) are part of the action.

* `Action`: an action with the registers it works on;
* `Selection`: which elements a slice takes, for copying and for moving slices alike;
* `Making`: the ways to make an array, among them a draft that is resized and filled.
-/

namespace AnchoredArrays

namespace Session

/-- The name of a register. -/
abbrev Name : Type := String

/-- The elements that a slice takes. -/
inductive Selection where
  | head (stop : Int64)
  | tail (start : Int64)
  | range (start stop : Int64)
  | run (start n : Int64)
  deriving DecidableEq, Repr

/-- A resizing of a draft: the new length, the element for new slots, what is granted, and whether
the making goes on if it fails. -/
structure Regrowth (α : Type) where
  length : Nat
  fill : α
  supply : Supply
  goesOn : Bool

/-- The ways to make an array. -/
inductive Making (α : Type) where
  | empty (lower : Int64)
  | ofList (lower : Int64) (items : List α)
  /-- The function is given the number of earlier calls and the position. -/
  | ofFn (lower upper : Int64) (f : Nat → Int64 → α)
  | replicate (lower upper : Int64) (x : α)
  | singleton (x : α)
  | singletonAt (start : Int64) (x : α)
  | pair (x y : α)
  /-- A draft that is filled, resized as often as asked for, and filled again where it grew. -/
  | draft (lower upper : Int64) (fill : α) (regrowths : List (Regrowth α))

/-- What a comparison was asked so far: how often and, if that is kept, about which pairs, the
latest first. -/
structure Asked (α : Type) where
  count : Nat
  pairs : List (α × α)

/-- The ways to change one array in place. -/
inductive Change (α : Type) where
  | set (i : Int64) (x : α)
  | replace (i : Int64) (x : α)
  | update (f : α → α)
  | push (x : α)
  | insert (i : Int64) (x : α)
  | insertSelf (i : Int64)
  | reanchor (start : Int64)
  | remove (i : Int64)
  | swapRemove (i : Int64)
  | removeRun (i n : Int64)
  /-- The pairs that the comparison is asked about are kept if `traced` is set. -/
  | sort (direction : Sorting.Direction) (traced : Bool) (compare : Asked α → α → α → Ordering)

/-- The ways to change one array by the elements of another. -/
inductive Joining where
  | append
  | insertCopy (i : Int64)
  | insertMoved (i : Int64)
  deriving DecidableEq, Repr

/-- What an action that only reads an array results in. -/
inductive View (α : Type) where
  | summary (lower upper : Int64) (length : Nat) (isEmpty : Bool) (first last : Option α)
  | found (x : Option α)
  | elements (xs : List α)
  | text (s : String)

/-- What an action results in. -/
inductive Result (α : Type) [Element α] where
  | nothing
  /-- An array, which is stored or dropped. -/
  | array (a : Anchored α)
  /-- An element that was moved out of an array, and is dropped. -/
  | taken (x : α)
  /-- An element that stays where it is. -/
  | seen (x : α)
  | flag (b : Bool)
  | view (v : View α)
  /-- The answers of a drain and how many elements were left in between. -/
  | drained (xs : List (Option α)) (left : List Nat)
  /-- What the comparison of a sort was asked. -/
  | sorted (asked : Asked α)

/-- The actions. -/
inductive Action (α : Type) [Element α] where
  | make (making : Making α)
  | view (a : Name) (f : Anchored α → View α)
  | read (a : Name) (i : Int64)
  | equal (a b : Name) (same : Anchored α → Anchored α → Bool)
  | copy (a : Name)
  | copySlice (a : Name) (selection : Selection)
  | moveSlice (a : Name) (selection : Selection)
  | change (a : Name) (change : Change α)
  | join (a b : Name) (joining : Joining)
  | concat (a b : Name)
  | extend (a : Name) (x : α)
  | drain (a : Name) (n : Nat)

variable {α σ : Type} [Element α]

/-! ### The calls that actions make -/

/-- The copying slice of a selection. -/
def Selection.copied (a : Anchored α) : Selection → Call σ α (Anchored α)
  | .head stop => a.copyHead stop
  | .tail start => a.copyTail start
  | .range start stop => a.copyRange start stop
  | .run start n => a.copyRun start n

/-- The moving slice of a selection. -/
def Selection.moved : Selection → Call (Option (Anchored α)) α (Anchored α)
  | .head stop => Anchored.moveHead stop
  | .tail start => Anchored.moveTail start
  | .range start stop => Anchored.moveRange start stop
  | .run start n => Anchored.moveRun start n

/-- A comparison that remembers what it was asked. -/
def remembering (traced : Bool) (compare : Asked α → α → α → Ordering) :
    Sorting.Comparison (Asked α) α := fun asked x y =>
  (compare asked x y,
    ⟨asked.count + 1, if traced then (x, y) :: asked.pairs else asked.pairs⟩)

/-- The call of a change. -/
def Change.call : Change α → Call (Anchored α) α (Result α)
  | .set i x => do return .flag (← Anchored.set? i x)
  | .replace i x => do Anchored.replace i x; return .nothing
  | .update f => do Anchored.update f; return .nothing
  | .push x => do Anchored.push x; return .nothing
  | .insert i x => do Anchored.insert i x; return .nothing
  | .insertSelf i => do Anchored.insertSelf i; return .nothing
  | .reanchor start => do Anchored.reanchor start; return .nothing
  | .remove i => do return .taken (← Anchored.remove i)
  | .swapRemove i => do return .taken (← Anchored.swapRemove i)
  | .removeRun i n => do return .array (← Anchored.removeRun i n)
  | .sort direction traced compare => do
    let (asked, _) ← Anchored.sort direction (remembering traced compare) ⟨0, []⟩
    return .sorted asked

/-- The elements that a change is given. -/
def Change.given : Change α → List α
  | .set _ x | .replace _ x | .push x | .insert _ x => [x]
  | _ => []

/-- The call of a joining, given the other array. -/
def Joining.call (other : Anchored α) : Joining → Call (Anchored α) α Unit
  | .append => Anchored.append other
  | .insertCopy i => Anchored.insertCopy i other
  | .insertMoved i => Anchored.insertMoved i other

/-- Whether a joining uses up the other array. -/
def Joining.consumes : Joining → Bool
  | .append | .insertMoved _ => true
  | .insertCopy _ => false

/-! ### Making arrays -/

/-- Writes `x`, made anew for each slot, into the slots of a draft from the given one on. -/
def fillFrom (start : Nat) (x : α) : Call (Draft α) α Unit := do
  let d ← Call.held
  let new := Slots.repeated (d.length - start) x
  Call.receive new
  Draft.writeFrom start new

/-- Resizes a draft and fills it where it grew. What was in slots that are cut off is left behind:
slots that may be unwritten are not dropped. -/
def Regrowth.call (r : Regrowth α) : Call (Draft α) α Unit := do
  let d ← Call.held
  Draft.resize r.length
  Call.leak (Slots.contents (d.slots.drop r.length))
  fillFrom (min d.length r.length) r.fill

/-- The tally of a draft that is given up: what is in its slots is left behind. -/
def abandoned (d : Draft α) : Tally α := { Tally.blank with leaked := d.slots.contents }

/-- Resizes a draft as often as asked for; the draft, and what the calls did. The draft is given up
at the first failure that the making does not go on after. -/
def regrow (d : Draft α) : List (Regrowth α) → Except Halt (Draft α) × Tally α
  | [] => (.ok d, .blank)
  | r :: rest =>
    match r.call.run r.supply d with
    | (.ok (), f) =>
      let (out, tally) := regrow f.held rest
      (out, f.tally.join tally)
    | (.error h, f) =>
      if r.goesOn then
        let (out, tally) := regrow f.held rest
        (out, f.tally.join tally)
      else
        (.error h, f.tally.join (abandoned f.held))

/-- Makes an array out of a draft; the array, and what its calls did. -/
def draftArray (supply : Supply) (lower upper : Int64) (fill : α)
    (regrowths : List (Regrowth α)) : Except Halt (Anchored α) × Tally α :=
  match (Draft.allocate lower upper : Call Unit α (Draft α)).run supply () with
  | (.error h, f) => (.error h, f.tally)
  | (.ok d, f) =>
    match (fillFrom 0 fill).run supply d with
    | (.error h, g) => (.error h, (f.tally.join g.tally).join (abandoned g.held))
    | (.ok (), g) =>
      let (out, tally) := regrow g.held regrowths
      let tally := (f.tally.join g.tally).join tally
      match out with
      | .error h => (.error h, tally)
      | .ok d =>
        let (out, f') := (Draft.finish d : Call Unit α (Anchored α)).run supply ()
        (out, tally.join f'.tally)

/-- A call that holds nothing: its outcome and what it did. -/
def Making.perform (supply : Supply) (c : Call Unit α (Anchored α)) :
    Except Halt (Anchored α) × Tally α :=
  let (out, f) := c.run supply ()
  (out, f.tally)

/-- The outcome of a making, and what its calls did. -/
def Making.run (supply : Supply) : Making α → Except Halt (Anchored α) × Tally α
  | .empty lower => perform supply (Anchored.empty lower)
  | .ofList lower items => perform supply (Anchored.ofList lower items)
  | .ofFn lower upper f =>
    perform supply do
      let (a, _) ← Anchored.ofFn lower upper (fun k i => (f k i, k + 1)) 0
      return a
  | .replicate lower upper x => perform supply (Anchored.replicate lower upper x)
  | .singleton x => perform supply (Anchored.singleton x)
  | .singletonAt start x => perform supply (Anchored.singletonAt start x)
  | .pair x y => perform supply (Anchored.pair x y)
  | .draft lower upper fill regrowths => draftArray supply lower upper fill regrowths

/-- The elements that a making is given. -/
def Making.given : Making α → List α
  | .ofList _ items => items
  | .replicate _ _ x | .singleton x | .singletonAt _ x => [x]
  | .pair x y => [x, y]
  | .empty _ | .ofFn .. | .draft .. => []

/-- The elements that an action is given, besides the arrays in registers. -/
def Action.given : Action α → List α
  | .make making => making.given
  | .change _ edit => edit.given
  | .extend _ x => [x]
  | _ => []

end Session

end AnchoredArrays
