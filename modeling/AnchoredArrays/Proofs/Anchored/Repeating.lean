import AnchoredArrays.Element.Instances
import AnchoredArrays.Proofs.Anchored.Making
import AnchoredArrays.Proofs.Call.Granted

/-!
Filling slots with one element, by how many copies of it go through. The blocks and the rest tile
the slots, and at each copy exactly the slots in front of it are written, so wherever a copy does
not go through, those made before it are what is dropped.

* `Fills`: what is promised for a number of slots and a limit on copies; `Fills.next`: a step that
  goes through may follow;
* `repeatedly_fills`, `replicate_fills`: **filling a buffer**, and making an array that way;
* `fills_repeatedly`: both keep the promise, and the loop passes through every number of copies.
-/

namespace AnchoredArrays.Fill

open Element Call Anchored

variable {α σ ρ π : Type} [Element α] {supply : Supply} {x : α} {n : Nat} {f : Frame σ α}
  {lower upper : Int64}

/-- What is promised of filling `n` slots with `x`, where `full` is what a call makes of elements in
order. If there are no slots, nothing is copied and `x` is dropped. If the supply lets `n - 1`
copies through, so many are made and nothing is dropped: all slots but the last have one each, and
the last has `x` itself. Otherwise the call breaks off after as many copies as go through, and they
and `x` are dropped, and nothing else. -/
def Fills (x : α) (n : Nat) (supply : Supply) (full : List α → ρ)
    (out : Except Halt ρ × Frame σ α) : Prop :=
  if n = 0 then
    out.1 = .ok (full []) ∧ out.2.tally.copied.toList = [] ∧ out.2.tally.dropped.toList = [x]
  else if supply.Lets (n - 1) then
    out.1 = .ok (full (List.replicate (n - 1) (Element.copy x) ++ [x]))
      ∧ out.2.tally.copied.toList = List.replicate (n - 1) x
      ∧ out.2.tally.dropped.toList = []
  else
    ∃ b < n - 1, supply.copies = some b ∧ out.1 = .error (.panic .copiesExhausted)
      ∧ out.2.tally.copied.toList = List.replicate b x
      ∧ out.2.tally.dropped.toList = x :: List.replicate b (Element.copy x)

/-- What is made of the filled slots may be turned into something else. -/
lemma Fills.next {full : List α → ρ} {full' : List α → π} {c : Call σ α ρ} {next : ρ → Call σ α π}
    (hc : Fills x n supply full (c supply f))
    (hnext : ∀ items : List α, items.length = n → next (full items) = pure (full' items)) :
    Fills x n supply full' ((c >>= next) supply f) := by
  rw [Fills] at hc ⊢
  rw [bind_apply]
  rcases hrun : c supply f with ⟨e | r, g⟩
  · rw [hrun] at hc
    dsimp only at hc ⊢
    split_ifs at hc ⊢ with hnone hlets
    · exact nomatch hc.1
    · exact nomatch hc.1
    · obtain ⟨b, hb, hlimit, herror, htally⟩ := hc
      exact ⟨b, hb, hlimit, congrArg Except.error (Except.error.inj herror), htally⟩
  · rw [hrun] at hc
    dsimp only at hc ⊢
    split_ifs at hc ⊢ with hnone hlets
    · obtain ⟨hok, htally⟩ := hc
      rw [Except.ok.inj hok, hnext [] hnone.symm]
      exact ⟨rfl, htally⟩
    · obtain ⟨hok, htally⟩ := hc
      rw [Except.ok.inj hok, hnext _ (by simp; omega)]
      exact ⟨rfl, htally⟩
    · obtain ⟨b, -, -, hok, -⟩ := hc
      exact nomatch hok

/-- Filling a buffer keeps the promise. -/
lemma repeatedly_fills (x : α) (cells : Array (Cell α)) (hleft : f.copiesLeft = supply.copies)
    (hcopied : f.tally.copied = .nil) (hdropped : f.tally.dropped = .nil) :
    Fills x cells.size supply (fun items => (items.map Cell.written).toArray)
      (repeatedly x cells supply f) := by
  obtain hempty | ⟨hsome, henough⟩ | ⟨b, hlimit, hb⟩ := repeatedly_cases cells f
  · rw [repeatedly_none supply x hempty, Fills, if_pos hempty,
      Array.eq_empty_of_size_eq_zero hempty]
    exact ⟨rfl, by simp [hcopied], by simp [hdropped]⟩
  · have hlets : supply.Lets (cells.size - 1) := fun left hlimit =>
      henough left (hleft.trans hlimit)
    rw [repeatedly_enough supply x hsome henough, Fills, if_neg hsome, if_pos hlets]
    exact ⟨rfl, by simp [copying, hcopied], by simp [copying, hdropped]⟩
  · have hfew : ¬ supply.Lets (cells.size - 1) := fun hlets =>
      Nat.not_le.2 hb (hlets b (hleft ▸ hlimit))
    rw [repeatedly_exhausted supply x hlimit hb, Fills, if_neg (by omega), if_neg hfew]
    exact ⟨b, hb, hleft ▸ hlimit, rfl, by simp [abandoning, copying, hcopied],
      by simp [abandoning, copying, hdropped]⟩

/-- A draft that is allocated from a blank frame can be allocated after any record, and has the
slots between the bounds. -/
lemma allocate_after (held : σ) (r : Record) {d : Draft α}
    (hd : ((Draft.allocate lower upper : Call σ α (Draft α)).run supply held).1 = .ok d) :
    (d.WellFormed ∧ d.lower = lower ∧ (d.toList.length : Int) = upper.toInt - lower.toInt + 1)
      ∧ ∃ g : Frame σ α,
        Draft.allocate lower upper supply (Frame.leaving ⟨held, supply.copies, .blank⟩ r)
            = (.ok d, g)
          ∧ g.copiesLeft = supply.copies ∧ g.tally.copied = .nil ∧ g.tally.dropped = .nil := by
  rw [Call.run, Draft.allocate_apply] at hd
  rw [Draft.allocate_apply]
  rcases hn : Draft.allocation α lower upper with reason | n
  · rw [hn] at hd
    exact nomatch hd
  rw [hn] at hd
  dsimp only at hd ⊢
  rw [Frame.leaving_grants]
  split_ifs at hd ⊢ with hgrant
  · cases hd
    obtain ⟨hroom, hupper⟩ := Draft.allocation_room hn
    refine ⟨⟨(Draft.allocation_laid hn).1, rfl, ?_⟩, _, rfl, ?_, ?_, ?_⟩
    · rw [laid_toList, List.length_replicate]
      omega
    · exact Frame.asking_copiesLeft n
    · exact Frame.asking_copied n
    · exact Frame.asking_dropped n
  · exact nomatch hd

/-- Making an array of one element in every slot keeps the promise, once there is a draft. -/
lemma replicate_fills (x : α) (held : σ) {d : Draft α}
    (hd : ((Draft.allocate lower upper : Call σ α (Draft α)).run supply held).1 = .ok d) :
    Fills x d.toList.length supply (laid lower) ((replicate lower upper x).run supply held) := by
  obtain ⟨⟨hwell, rfl, -⟩, g, hallocate, hleft, hcopied, hdropped⟩ :=
    allocate_after held (.trace .replicate [.position lower, .position upper]) hd
  have hsize : d.slots.toList.toArray.size = d.toList.length := List.size_toArray
  have hfills := repeatedly_fills x d.slots.toList.toArray hleft hcopied hdropped
  rw [Call.run, replicate, trace_bind, bind_apply, given, guarding, during, hallocate]
  rw [hsize] at hfills
  refine hfills.next fun items hlength => ?_
  exact (finish_with_slots hwell (Slots.toList_ofList _) hlength).1

/-- **Filling with one element**, for every number of slots, every element and every limit on
copies. The blocks and the rest visit the slots in order, each once. Filling a buffer, and making an
array over bounds that a draft can be allocated for, writes all slots, or drops what was copied so
far. At any time in between, the first slots are written with the copies made so far, one each,
nothing is dropped, and the slots behind them are as they were. -/
theorem fills_repeatedly (x : α) (supply : Supply) (held : σ) :
    (∀ n, visits n = List.range n)
      ∧ (∀ cells : Array (Cell α),
        Fills x cells.size supply (fun items => (items.map Cell.written).toArray)
            ((repeatedly x cells).run supply held)
          ∧ ∀ m ≤ cells.size - 1, supply.Lets m →
            writeCopies x (visits (cells.size - 1)) 0 cells supply ⟨held, supply.copies, .blank⟩
              = writeCopies x ((visits (cells.size - 1)).drop m) m (begun x m cells) supply
                (copying x m ⟨held, supply.copies, .blank⟩))
      ∧ ∀ (lower upper : Int64) (d : Draft α),
        ((Draft.allocate lower upper : Call σ α (Draft α)).run supply held).1 = .ok d →
          (d.toList.length : Int) = upper.toInt - lower.toInt + 1
            ∧ Fills x d.toList.length supply (laid lower)
              ((replicate lower upper x).run supply held) := by
  refine ⟨fun n => ?_, fun cells => ⟨?_, fun m hm hlets => ?_⟩, fun lower upper d hd => ⟨?_, ?_⟩⟩
  · rw [visits_eq, List.range_eq_range']
  · exact repeatedly_fills x cells rfl rfl rfl
  · exact writeCopies_passes (Nat.sub_le _ _) hm hlets
  · exact (allocate_after held (.trace .replicate []) hd).1.2.2
  · exact replicate_fills x held hd

/-- A supply that lets one copy through. -/
def scarce : Supply := .limited 100 none (some 1)

/-- Only the first of two copies for three slots goes through. -/
theorem fills_repeatedly_exhausted :
    ((Draft.allocate 1 3 : Call Unit Traced (Draft Traced)).run scarce ()).1
        = .ok (laid 1 (List.replicate 3 Cell.fresh))
      ∧ ((replicate 1 3 (⟨7, 0⟩ : Traced)).run scarce ()).1 = .error (.panic .copiesExhausted)
      ∧ ((replicate 1 3 (⟨7, 0⟩ : Traced)).run scarce ()).2.tally.dropped.toList
        = [⟨7, 0⟩, Element.copy ⟨7, 0⟩] := by
  have hd : ((Draft.allocate 1 3 : Call Unit Traced (Draft Traced)).run scarce ()).1
      = .ok (laid 1 (List.replicate 3 Cell.fresh)) := rfl
  obtain ⟨-, -, hmade⟩ := fills_repeatedly (⟨7, 0⟩ : Traced) scarce ()
  obtain ⟨-, hfills⟩ := hmade 1 3 _ hd
  rw [Fills, if_neg (by decide), if_neg (by decide)] at hfills
  obtain ⟨b, -, hlimit, hpanic, -, hdropped⟩ := hfills
  cases hlimit
  exact ⟨hd, hpanic, hdropped⟩

end AnchoredArrays.Fill
