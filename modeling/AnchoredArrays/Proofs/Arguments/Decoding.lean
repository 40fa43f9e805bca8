import AnchoredArrays.Arguments
import AnchoredArrays.Proofs.Anchored.Making
import AnchoredArrays.Proofs.Call.Granted

/-!
Reading lists of arguments. The name is read first and the rest after it, each up to the first
argument that is not valid; whichever that is, the failure is the same.

* `decodeName_toUTF8`, `decodeAll_toUTF8`, `ofBytes_toUTF8`: the encodings of strings are read as
  these strings;
* `decodeAll_invalid`, `ofBytes_invalid`: anything else fails;
* `ofList_granted`: an array of given elements is there if its buffer is granted;
* `Reads`, `laid_reads`, `ofBytes_reads`: **a list of arguments** is read exactly when all of them
  are valid, the name apart and the others from position 1 on.
-/

namespace AnchoredArrays

open Element

variable {σ α : Type} [Element α] {supply : Supply} {lower : Int64}

namespace Anchored

/-- Elements that find a place make up an array if the buffer for them is granted. -/
lemma ofList_granted {f : Frame σ α} {items : List α} (hroom : Room α lower items.length)
    (hgrants : f.grants supply items.length = true) :
    (ofList lower items supply f).1 = .ok (laid lower items) := by
  have hplan : placing f.held lower items = .ok ⟨[items.length], f.held, laid lower items⟩ := by
    rw [placing, if_neg fun h => hroom.starts h.1 h.2, if_neg]
    exact not_or.2 ⟨Nat.not_lt.2 hroom.fits, Int.not_lt.2 hroom.ends⟩
  obtain ⟨dropped, hgiven⟩ := Call.given_apply supply f (.ofList items)
    (Call.carryOut .ofList (placing f.held lower items))
  rw [ofList_eq, hgiven, hplan, Call.carryOut_cons, Call.bind_apply, Call.obtain_apply,
    if_pos hgrants]
  rfl

end Anchored

namespace Arguments

open Call Anchored

/-! ### Single arguments and lists of them -/

lemma decode_valid {bytes : ByteArray} (h : bytes.IsValidUTF8) :
    (decode bytes : Call σ String String) = pure (String.fromUTF8 bytes h) := by
  rw [decode, String.fromUTF8?, dif_pos h]

lemma decode_invalid {bytes : ByteArray} (h : ¬ bytes.IsValidUTF8) :
    (decode bytes : Call σ String String) = fail .arguments .notUnicode := by
  rw [decode, String.fromUTF8?, dif_neg h]

/-- The encoding of a string is read as this string. -/
lemma decode_toUTF8 (s : String) : (decode s.toUTF8 : Call σ String String) = pure s :=
  decode_valid s.isValidUTF8

/-- Valid arguments are the encodings of strings. -/
lemma exists_eq_map_toUTF8 {arguments : List ByteArray}
    (h : ∀ bytes ∈ arguments, bytes.IsValidUTF8) :
    ∃ items : List String, arguments = items.map String.toUTF8 := by
  induction arguments with
  | nil => exact ⟨[], rfl⟩
  | cons bytes more ih =>
    obtain ⟨items, rfl⟩ := ih fun other hother => h other (List.mem_cons_of_mem bytes hother)
    exact ⟨String.fromUTF8 bytes (h bytes List.mem_cons_self) :: items, rfl⟩

lemma decodeAll_toUTF8 (items : List String) :
    (decodeAll (items.map String.toUTF8) : Call σ String (List String)) = pure items := by
  induction items with
  | nil => rfl
  | cons s more ih => rw [List.map_cons, decodeAll, decode_toUTF8, pure_bind, ih, pure_bind]

/-- Wherever the first argument that is not valid stands, it ends the reading. -/
lemma decodeAll_invalid {arguments : List ByteArray}
    (h : ¬ ∀ bytes ∈ arguments, bytes.IsValidUTF8) :
    (decodeAll arguments : Call σ String (List String)) = fail .arguments .notUnicode := by
  induction arguments with
  | nil => exact absurd (List.forall_mem_nil _) h
  | cons bytes more ih =>
    rw [decodeAll]
    by_cases hbytes : bytes.IsValidUTF8
    · rw [List.forall_mem_cons, not_and] at h
      rw [decode_valid hbytes, pure_bind, ih (h hbytes), fail_bind]
    · rw [decode_invalid hbytes, fail_bind]

lemma decodeName_toUTF8 (items : List String) :
    (decodeName (items.map String.toUTF8) : Call σ String String) = pure (items.headD "") := by
  cases items with
  | nil => rfl
  | cons s more => exact decode_toUTF8 s

/-! ### Whole argument vectors -/

/-- Reading the encodings of strings puts all but the first into an array. -/
lemma ofBytes_toUTF8 (items : List String) :
    (ofBytes (items.map String.toUTF8) : Call σ String Arguments) = (do
      trace .arguments [.quoted (items.headD ""), .arguments items.tail.length]
      let rest ← during .arguments (ofList 1 items.tail)
      pure ⟨items.headD "", rest⟩) := by
  rw [ofBytes, decodeName_toUTF8, pure_bind, ← List.map_tail, decodeAll_toUTF8, pure_bind]

/-- Reading fails if any argument is not valid, the name or another one. -/
lemma ofBytes_invalid {arguments : List ByteArray}
    (h : ¬ ∀ bytes ∈ arguments, bytes.IsValidUTF8) :
    (ofBytes arguments : Call σ String Arguments) = fail .arguments .notUnicode := by
  cases arguments with
  | nil => exact absurd (List.forall_mem_nil _) h
  | cons bytes more =>
    rw [ofBytes, decodeName, List.tail_cons]
    by_cases hbytes : bytes.IsValidUTF8
    · rw [List.forall_mem_cons, not_and] at h
      rw [decode_valid hbytes, pure_bind, decodeAll_invalid (h hbytes), fail_bind]
    · rw [decode_invalid hbytes, fail_bind]

/-- What the reading of some arguments results in: the first of them is the name, nothing if there
is none, and the others have their positions in the list, of which 1 is the first. -/
structure Reads (arguments : List ByteArray) (a : Arguments) : Prop where
  invoked : a.invoked.toUTF8 = arguments.headD .empty
  lower : a.rest.lower.toInt = 1
  upper : a.rest.upper.toInt = max ((arguments.length : Int) - 1) 0
  get? : ∀ i : Int64, (a.rest.get? i).map String.toUTF8
    = if 1 ≤ i.toInt then arguments[i.toInt.toNat]? else none

/-- As many strings as a buffer can hold find a place at position 1. -/
lemma room_one {n : Nat} (hfits : n ≤ maxLength String) : Room String 1 n where
  fits := hfits
  ends := by
    have hlimit := Nat.le_trans hfits (maxLength_le String)
    unfold Position.byteLimit at hlimit
    rw [Int64.toInt_one, Position.toInt_greatest]
    omega
  starts _ := by decide

/-- The strings of a list, the first of them apart and the others from position 1 on. -/
lemma laid_reads {items : List String} (hroom : Room String 1 items.tail.length) :
    Reads (items.map String.toUTF8) ⟨items.headD "", laid 1 items.tail⟩ where
  invoked := by
    cases items with
    | nil => rfl
    | cons s more => rfl
  lower := rfl
  upper := by
    have hupper : (laid 1 items.tail).upper.toInt = (1 : Int64).toInt + items.tail.length - 1 :=
      hroom.toInt_upper
    rw [hupper, Int64.toInt_one, List.length_tail, List.length_map]
    omega
  get? i := by
    rw [hroom.wellFormed.get?_eq, laid_lower, Int64.toInt_one]
    split_ifs with hi
    · have hslot : slotOf 1 i + 1 = i.toInt.toNat := by
        rw [slotOf, Int64.toInt_one]
        omega
      rw [laid_toList, List.getElem?_tail, hslot, List.getElem?_map]
    · rfl

/-- The encodings of strings are read if the buffer for those behind the first is granted. -/
lemma ofBytes_granted {items : List String} (hroom : Room String 1 items.tail.length) (held : σ)
    (hgrants : (⟨held, supply.copies, .blank⟩ : Frame σ String).grants supply items.tail.length
      = true) :
    ((ofBytes (items.map String.toUTF8)).run supply held).1
      = .ok ⟨items.headD "", laid 1 items.tail⟩ := by
  let f : Frame σ String := ⟨held, supply.copies, .blank⟩
  have hrest : (ofList 1 items.tail supply (f.leaving (.trace .arguments
      [.quoted (items.headD ""), .arguments items.tail.length]))).1 = .ok (laid 1 items.tail) :=
    ofList_granted hroom hgrants
  rw [ofBytes_toUTF8, Call.run, trace_bind, bind_apply, during]
  -- the tally of the inner call is left open, only its outcome matters
  rcases hout : ofList 1 items.tail supply _ with ⟨out, g⟩
  rw [hout] at hrest
  dsimp only at hrest
  rw [hrest]
  rfl

/-- **A list of arguments** is read exactly when all of them are valid UTF-8, if the buffer for
those behind the name is granted: then the name is the first of them, and the others are the
elements of an array that is anchored at 1. Otherwise the reading fails, wherever and however often
an argument is not valid. -/
theorem ofBytes_reads (arguments : List ByteArray) (supply : Supply) (held : σ)
    (hgranted : ((request (arguments.length - 1) : Call σ String Bool).run supply held).1
      = .ok true) :
    ((∃ a, ((ofBytes arguments).run supply held).1 = .ok a)
        ↔ ∀ bytes ∈ arguments, bytes.IsValidUTF8)
      ∧ (∀ a, ((ofBytes arguments).run supply held).1 = .ok a → a.Reads arguments)
      ∧ ((¬ ∀ bytes ∈ arguments, bytes.IsValidUTF8) →
        Fails ((ofBytes arguments).run supply held).1 .memory .arguments .notUnicode) := by
  by_cases hvalid : ∀ bytes ∈ arguments, bytes.IsValidUTF8
  · obtain ⟨items, rfl⟩ := exists_eq_map_toUTF8 hvalid
    rw [Call.run, request_apply, List.length_map, ← List.length_tail] at hgranted
    have hgrants := Except.ok.inj hgranted
    have hroom : Room String 1 items.tail.length := by
      rw [Frame.grants, Bool.and_eq_true, decide_eq_true_eq] at hgrants
      exact room_one hgrants.1
    have hrun := ofBytes_granted hroom held hgrants
    refine ⟨iff_of_true ⟨_, hrun⟩ hvalid, ?_, fun h => absurd hvalid h⟩
    intro a ha
    obtain rfl := Except.ok.inj (hrun.symm.trans ha)
    exact laid_reads hroom
  · have hrun : ((ofBytes arguments).run supply held).1
        = .error (.failure ⟨.arguments, .notUnicode⟩) := by
      rw [ofBytes_invalid hvalid]
      rfl
    have hnone : ∀ a, ((ofBytes arguments).run supply held).1 ≠ .ok a := by
      intro a ha
      rw [hrun] at ha
      cases ha
    refine ⟨iff_of_false ?_ hvalid, fun a ha => absurd ha (hnone a), fun _ => ⟨hrun, rfl⟩⟩
    rintro ⟨a, ha⟩
    exact hnone a ha

/-- A name and two arguments, one of them beyond ASCII. -/
def threeArguments : List ByteArray := ["/usr/bin/tool", "-v", "größe.txt"].map String.toUTF8

/-- The three arguments are read; with a stray byte behind them they are not. -/
theorem ofBytes_reads_three :
    ((request 2 : Call Unit String Bool).run .ample ()).1 = .ok true
      ∧ (∃ a, ((ofBytes threeArguments).run .ample ()).1 = .ok a
          ∧ a.invoked.toUTF8 = "/usr/bin/tool".toUTF8 ∧ a.rest.upper.toInt = 2
          ∧ (a.rest.get? 2).map String.toUTF8 = some "größe.txt".toUTF8)
      ∧ ((request 3 : Call Unit String Bool).run .ample ()).1 = .ok true
      ∧ Fails ((ofBytes (threeArguments ++ [⟨#[0x61, 0xff]⟩])).run .ample ()).1
          .memory .arguments .notUnicode := by
  have hvalid : ∀ bytes ∈ threeArguments, bytes.IsValidUTF8 := by
    intro bytes hmem
    obtain ⟨s, -, rfl⟩ := List.mem_map.1 hmem
    exact s.isValidUTF8
  have hstray : ¬ ∀ bytes ∈ threeArguments ++ [⟨#[0x61, 0xff]⟩], bytes.IsValidUTF8 := fun h =>
    absurd (h ⟨#[0x61, 0xff]⟩ (List.mem_append_right _ List.mem_cons_self)) (by decide)
  obtain ⟨hread, hreads, -⟩ := ofBytes_reads threeArguments .ample () rfl
  obtain ⟨-, -, hfails⟩ :=
    ofBytes_reads (threeArguments ++ [⟨#[0x61, 0xff]⟩]) .ample () rfl
  obtain ⟨a, ha⟩ := hread.2 hvalid
  have hr := hreads a ha
  exact ⟨rfl, ⟨a, ha, hr.invoked, hr.upper, hr.get? 2⟩, rfl, hfails hstray⟩

end Arguments

end AnchoredArrays
