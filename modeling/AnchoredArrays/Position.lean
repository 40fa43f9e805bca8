import AnchoredArrays.Failure

/-!
Arithmetic of positions. An array covers the inclusive range from `min` to `max`, both signed
64-bit positions, and the empty array is the one with `max = min - 1`; so a length is always read
off the bounds. The conversions wrap at the width of the machine word, and the sums that limits are
checked by at twice that width; the main statements say what they are over the unbounded integers.

* `toNat_count`: the length between two bounds, modulo the word size;
* `toInt_maxOfCount`: the upper bound that belongs to a length, wrapped into the positions;
* `toNat_offset`: the distance of a position from the lower bound, modulo the word size;
* `toNat_requested`: a length that is given as a position, modulo the word size;
* `wide_of_mem`, `wide_pred`, `wide_succ`, `wide_add`, `wide_last`: the sums in which limits are
  checked are exact.
-/

namespace AnchoredArrays

namespace Position

/-- The smallest position. -/
def least : Int64 := Int64.minValue

/-- The largest position. -/
def greatest : Int64 := Int64.maxValue

/-- The most bytes that one buffer may have. -/
def byteLimit : Nat := 0x7fffffffffffffff

/-- The most slots of `size` bytes that one buffer may have. -/
def maxLength (size : Nat) : Nat :=
  if size = 0 then byteLimit else byteLimit / size

/-- The number of slots from `min` to `max`. -/
def count (min max : Int64) : UInt64 :=
  (max - min).toUInt64 + 1

/-- The upper bound of an array of `n` slots anchored at `min`. -/
def maxOfCount (min : Int64) (n : UInt64) : Int64 :=
  min + n.toInt64 - 1

/-- The distance of position `i` from the anchor `min`. -/
def offset (min i : Int64) : UInt64 :=
  (i - min).toUInt64

/-- A length that is given as a position. -/
def requested (n : Int64) : Nat := n.toUInt64.toNat

/-- The integer `z` in a word of 128 bits with a sign, the kind that limits are checked in. -/
def wide (z : Int) : Int := z.bmod 0x100000000000000000000000000000000

/-- Whether `i` lies more than one below `min`. -/
def belowPred (i min : Int64) : Bool :=
  i.toInt < wide (min.toInt - 1)

/-- Whether `i` lies more than one above `max`. -/
def beyondSucc (i max : Int64) : Bool :=
  wide (max.toInt + 1) < i.toInt

/-- Whether the last of `n` slots from position `lower` on lies beyond the greatest position. -/
def overruns (lower : Int64) (n : Nat) : Bool :=
  greatest.toInt < wide (wide (lower.toInt + n) - 1)

/-- The length of an array of slots of `size` bytes, `length` of them ending at `max`, after
`extra` more were added at its end. The sum has to be a machine word, a possible buffer length,
and the new upper bound has to be a position. -/
def grownLength (size length : Nat) (max : Int64) (extra : Nat) : Except Reason Nat :=
  if length + extra < 0x10000000000000000 ∧ length + extra ≤ maxLength size
      ∧ wide (max.toInt + extra) ≤ greatest.toInt then
    .ok (length + extra)
  else
    .error .noMemory

/-- An empty array can be anchored everywhere except at the smallest position. -/
def emptyAt (min : Int64) : Except Reason Unit :=
  if min = least then .error .noEmptyAnchor else .ok ()

/-! ### The conversions over the unbounded integers -/

theorem toInt_least : least.toInt = -0x8000000000000000 := rfl

theorem toInt_greatest : greatest.toInt = 0x7fffffffffffffff := rfl

theorem toNat_toUInt64 (x : Int64) :
    (x.toUInt64.toNat : Int) = x.toInt % 0x10000000000000000 := by
  have h : x.toInt = (x.toUInt64.toNat : Int).bmod 0x10000000000000000 :=
    BitVec.toInt_eq_toNat_bmod x.toBitVec
  have hlt : x.toUInt64.toNat < 0x10000000000000000 := x.toUInt64.toNat_lt
  rw [h, Int.bmod_def]
  split <;> omega

theorem toInt_toInt64 (n : UInt64) :
    n.toInt64.toInt = (n.toNat : Int).bmod 0x10000000000000000 :=
  BitVec.toInt_eq_toNat_bmod n.toBitVec

theorem toNat_count (min max : Int64) :
    ((count min max).toNat : Int) = (max.toInt - min.toInt + 1) % 0x10000000000000000 := by
  have h := toNat_toUInt64 (max - min)
  rw [Int64.toInt_sub, Int.bmod_def] at h
  have h1 : (1 : UInt64).toNat = 1 := rfl
  simp only [count, UInt64.toNat_add]
  split at h <;> omega

theorem toInt_maxOfCount (min : Int64) (n : UInt64) :
    (maxOfCount min n).toInt = (min.toInt + n.toNat - 1).bmod 0x10000000000000000 := by
  have h1 : (1 : Int64).toInt = 1 := rfl
  simp only [maxOfCount, Int64.toInt_sub, Int64.toInt_add, toInt_toInt64, h1]
  simp

theorem toNat_offset (min i : Int64) :
    ((offset min i).toNat : Int) = (i.toInt - min.toInt) % 0x10000000000000000 := by
  have h := toNat_toUInt64 (i - min)
  rw [Int64.toInt_sub, Int.bmod_def] at h
  simp only [offset]
  split at h <;> omega

theorem toNat_requested (n : Int64) :
    (requested n : Int) = n.toInt % 0x10000000000000000 := toNat_toUInt64 n

/-- A length that is not negative is taken as it is. -/
theorem requested_of_nonneg {n : Int64} (h : 0 ≤ n.toInt) : requested n = n.toInt.toNat := by
  have hn := toNat_requested n
  have hg := n.toInt_lt
  omega

/-! ### Sums in wide words -/

theorem wide_of_mem {z : Int} (hl : -0x80000000000000000000000000000000 ≤ z)
    (hg : z < 0x80000000000000000000000000000000) : wide z = z :=
  Int.bmod_eq_of_le (by omega) (by omega)

theorem wide_pred (i : Int64) : wide (i.toInt - 1) = i.toInt - 1 := by
  have hl := i.le_toInt
  have hg := i.toInt_lt
  exact wide_of_mem (by omega) (by omega)

theorem wide_succ (i : Int64) : wide (i.toInt + 1) = i.toInt + 1 := by
  have hl := i.le_toInt
  have hg := i.toInt_lt
  exact wide_of_mem (by omega) (by omega)

theorem wide_add (i : Int64) {n : Nat} (hn : n < 0x10000000000000000) :
    wide (i.toInt + n) = i.toInt + n := by
  have hl := i.le_toInt
  have hg := i.toInt_lt
  exact wide_of_mem (by omega) (by omega)

theorem wide_last (i : Int64) {n : Nat} (hn : n < 0x10000000000000000) :
    wide (i.toInt + n - 1) = i.toInt + n - 1 := by
  have hl := i.le_toInt
  have hg := i.toInt_lt
  exact wide_of_mem (by omega) (by omega)

theorem belowPred_eq (i min : Int64) : belowPred i min = decide (i.toInt < min.toInt - 1) := by
  rw [belowPred, wide_pred]

theorem beyondSucc_eq (i max : Int64) : beyondSucc i max = decide (max.toInt + 1 < i.toInt) := by
  rw [beyondSucc, wide_succ]

theorem overruns_eq (lower : Int64) {n : Nat} (hn : n < 0x10000000000000000) :
    overruns lower n = decide (greatest.toInt < lower.toInt + n - 1) := by
  rw [overruns, wide_add lower hn, wide_last lower hn]

end Position

end AnchoredArrays
