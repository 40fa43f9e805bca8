import AnchoredArrays.Element

/-!
The contents of a buffer: its slots in order. Slots of no bytes are only counted, so that a buffer
of them takes the same room whatever its length.

* `Slots.toList` is the view through which every operation is described, one lemma each;
* `Slots.ext`: contents with the same view are the same;
* `Slots.toList_ofList`: every list is the view of some contents.
-/

namespace AnchoredArrays

open Element

/-- The slots of a buffer, listed one by one or, where they have no bytes, counted. -/
inductive Slots (α : Type) [Element α] where
  | listed (sized : ¬ Weightless α) (items : List α)
  | counted (weightless : Weightless α) (length : Nat)

namespace Slots

variable {α : Type} [Element α]

/-- The elements in order. -/
def toList : Slots α → List α
  | .listed _ items => items
  | .counted h n => List.replicate n (only h)

/-- The slots that hold the elements of a list. -/
def ofList (items : List α) : Slots α :=
  if h : Weightless α then .counted h items.length else .listed h items

/-- No slots. -/
def nil : Slots α := ofList []

/-- One slot. -/
def single (x : α) : Slots α := ofList [x]

/-- The same element in `n` slots. -/
def repeated (n : Nat) (x : α) : Slots α :=
  if h : Weightless α then .counted h n else .listed h (List.replicate n x)

/-- The number of slots. -/
def length : Slots α → Nat
  | .listed _ items => items.length
  | .counted _ n => n

/-- The element of slot `i`. -/
def get? (i : Nat) : Slots α → Option α
  | .listed _ items => items[i]?
  | .counted h n => if i < n then some (only h) else none

/-- The first `n` slots. -/
def take (n : Nat) : Slots α → Slots α
  | .listed h items => .listed h (items.take n)
  | .counted h m => .counted h (min n m)

/-- The slots behind the first `n`. -/
def drop (n : Nat) : Slots α → Slots α
  | .listed h items => .listed h (items.drop n)
  | .counted h m => .counted h (m - n)

/-- The slots of both, one behind the other. -/
def append : Slots α → Slots α → Slots α
  | .listed h items, .listed _ more => .listed h (items ++ more)
  | .counted h n, .counted _ m => .counted h (n + m)
  | .listed h items, .counted _ _ => .listed h items
  | .counted h n, .listed _ _ => .counted h n

instance : Append (Slots α) := ⟨append⟩

/-- The slots with `f` applied to each element. -/
def map (f : α → α) : Slots α → Slots α
  | .listed h items => .listed h (items.map f)
  | .counted h n => .counted h n

/-- The `n` slots from slot `start` on. -/
def slice (start n : Nat) (s : Slots α) : Slots α := (s.drop start).take n

/-- The slots with those from `start` on replaced by `new`. -/
def overwrite (s : Slots α) (start : Nat) (new : Slots α) : Slots α :=
  s.take start ++ new ++ s.drop (start + new.length)

/-- Whether two contents have equal elements in the same order. -/
def same [BEq α] : Slots α → Slots α → Bool
  | .listed _ items, .listed _ others => items == others
  | .counted _ n, .counted _ m => n == m
  | _, _ => false

/-! ### The view as a list -/

theorem length_toList (s : Slots α) : s.toList.length = s.length := by
  cases s with
  | listed h items => rfl
  | counted h n => simp [toList, length]

@[simp] theorem toList_ofList (items : List α) : (ofList items).toList = items := by
  unfold ofList
  split
  case isTrue h =>
    exact (List.eq_replicate_of_mem fun x _ => eq_only h x).symm
  case isFalse h => rfl

@[simp] theorem toList_nil : (nil : Slots α).toList = [] := toList_ofList []

@[simp] theorem toList_single (x : α) : (single x).toList = [x] := toList_ofList [x]

@[simp] theorem toList_repeated (n : Nat) (x : α) :
    (repeated n x).toList = List.replicate n x := by
  unfold repeated
  split
  case isTrue h => simp [toList, ← eq_only h x]
  case isFalse h => rfl

@[simp] theorem get?_eq (i : Nat) (s : Slots α) : s.get? i = s.toList[i]? := by
  cases s with
  | listed h items => rfl
  | counted h n => simp [get?, toList, List.getElem?_replicate]

@[simp] theorem toList_take (n : Nat) (s : Slots α) : (s.take n).toList = s.toList.take n := by
  cases s with
  | listed h items => rfl
  | counted h m => simp [take, toList, List.take_replicate]

@[simp] theorem toList_drop (n : Nat) (s : Slots α) : (s.drop n).toList = s.toList.drop n := by
  cases s with
  | listed h items => rfl
  | counted h m => simp [drop, toList]

@[simp] theorem toList_append (s t : Slots α) : (s ++ t).toList = s.toList ++ t.toList := by
  change (append s t).toList = _
  cases s with
  | listed h items =>
    cases t with
    | listed _ more => rfl
    | counted h' _ => exact absurd h' h
  | counted h n =>
    cases t with
    | listed h' _ => exact absurd h h'
    | counted _ m => simp [append, toList, List.replicate_append_replicate]

@[simp] theorem toList_map (f : α → α) (s : Slots α) : (s.map f).toList = s.toList.map f := by
  cases s with
  | listed h items => rfl
  | counted h n =>
    simp only [map, toList, List.map_replicate]
    rw [eq_only h (f (only h))]

@[simp] theorem toList_slice (start n : Nat) (s : Slots α) :
    (s.slice start n).toList = (s.toList.drop start).take n := by
  simp [slice]

/-- A run of slots ends where the slots do. -/
theorem length_slice (start n : Nat) (s : Slots α) :
    (s.slice start n).length = min n (s.length - start) := by
  rw [← length_toList, toList_slice, List.length_take, List.length_drop, length_toList]

@[simp] theorem toList_overwrite (s : Slots α) (start : Nat) (new : Slots α) :
    (s.overwrite start new).toList
      = s.toList.take start ++ new.toList ++ s.toList.drop (start + new.length) := by
  simp [overwrite]

/-- Contents with the same elements in the same order are the same. -/
@[ext] theorem ext {s t : Slots α} (h : s.toList = t.toList) : s = t := by
  cases s with
  | listed hs items =>
    cases t with
    | listed _ more => exact congrArg _ h
    | counted ht _ => exact absurd ht hs
  | counted hs n =>
    cases t with
    | listed ht _ => exact absurd hs ht
    | counted _ m =>
      have hl := congrArg List.length h
      simp only [toList, List.length_replicate] at hl
      rw [hl]

end Slots

end AnchoredArrays
