import AnchoredArrays.Proofs.Session.Steps
import AnchoredArrays.Element.Instances

/-!
Workshops: arrays and drafts in registers of their own, on which every operation there is may be
carried out, in any order and however much the surroundings refuse.

* `Task`, `Workshop.perform`, `Workshop.run`: the tasks, one of them and many;
* `Outcome.Sound`: an outcome is a well-formed result, or a halt that is no fault;
* `Promised`, `perform_promised`: what one task does to a well-formed workshop;
* `run_wellFormed`: **after every run** all arrays and drafts are well-formed;
* `failed_task_keeps`: **a task that fails** leaves everything as it was.
-/

namespace AnchoredArrays

open Session

/-- Arrays in registers, and drafts in others. -/
structure Workshop (α : Type) [Element α] where
  arrays : Session α
  drafts : Session (Cell α)

/-- What can be done in a workshop: the steps of sessions, on arrays and on drafts, and what drafts
have of their own. -/
inductive Task (α : Type) [Element α] where
  | onArrays (step : Step α)
  | onDrafts (step : Step (Cell α))
  | allocate (into : Name) (lower upper : Int64) (supply : Supply)
  | resize (d : Name) (n : Nat) (supply : Supply)
  | finish (d : Name) (into : Option Name)

/-- How a task ends. -/
inductive Outcome (α : Type) [Element α] where
  | ofArrays (outcome : Except Trouble (Result α))
  | ofDrafts (outcome : Except Trouble (Result (Cell α)))
  /-- A draft is not written everywhere, so that it cannot be finished. -/
  | unready (d : Name)

variable {α : Type} [Element α]

namespace Outcome

/-- Whether a task ended without a result. -/
def failed : Outcome α → Bool
  | .ofArrays (.ok _) | .ofDrafts (.ok _) => false
  | .ofArrays (.error _) | .ofDrafts (.error _) | .unready _ => true

/-- What is promised of an outcome: an array that is the result is well-formed, and a halt is no
fault. -/
def Sound : Outcome α → Prop
  | .ofArrays (.ok r) => r.WellFormed
  | .ofDrafts (.ok r) => r.WellFormed
  | .ofArrays (.error e) | .ofDrafts (.error e) => ∀ x, e ≠ .halted (.fault x)
  | .unready _ => True

end Outcome

namespace Task

/-- The registers of arrays that a task uses up, whether it has a result or not. -/
def usedArrays : Task α → List Name
  | .onArrays step => step.action.consumed
  | _ => []

/-- The registers of drafts that a task uses up, whether it has a result or not. -/
def usedDrafts : Task α → List Name
  | .onDrafts step => step.action.consumed
  | _ => []

end Task

namespace Workshop

/-- The workshop that holds nothing. -/
def start : Workshop α := ⟨Session.start, Session.start⟩

/-- Carries out a task. A draft is finished only if it is written everywhere. -/
def perform (w : Workshop α) : Task α → Workshop α × Outcome α
  | .onArrays step =>
    let (arrays, report) := w.arrays.step step
    ({ w with arrays }, .ofArrays report.outcome)
  | .onDrafts step =>
    let (drafts, report) := w.drafts.step step
    ({ w with drafts }, .ofDrafts report.outcome)
  | .allocate into lower upper supply =>
    match (Draft.allocate lower upper : Call Unit α (Draft α)).run supply () with
    | (.ok d, _) =>
      ({ w with drafts := (w.drafts.counted d.slots.length).settle (some into) (.array d) },
        .ofDrafts (.ok (.array d)))
    | (.error h, _) => (w, .ofDrafts (.error (.halted h)))
  | .resize d n supply =>
    match w.drafts.find? d with
    | none => (w, .ofDrafts (.error (.noArray d)))
    | some x =>
      let (out, f) := (Draft.resize n).run supply x
      let drafts := (w.drafts.put d f.held).counted (f.held.slots.length - x.slots.length)
      match out with
      | .ok _ => ({ w with drafts }, .ofDrafts (.ok .nothing))
      | .error h => ({ w with drafts }, .ofDrafts (.error (.halted h)))
  | .finish d into =>
    match w.drafts.find? d with
    | none => (w, .ofDrafts (.error (.noArray d)))
    | some x =>
      match (Draft.finish x : Call Unit α (Anchored α)).run .ample () with
      | (.ok a, _) =>
        (⟨(w.arrays.counted a.slots.length).settle into (.array a),
            (w.drafts.counted (-x.slots.length)).clear d⟩, .ofArrays (.ok (.array a)))
      | (.error _, _) => (w, .unready d)

/-- Carries out tasks one after the other. -/
def run (w : Workshop α) : List (Task α) → Workshop α × List (Outcome α)
  | [] => (w, [])
  | t :: rest =>
    let (w, outcome) := w.perform t
    let (w, outcomes) := run w rest
    (w, outcome :: outcomes)

/-! ### Well-formed workshops -/

/-- Every array and every draft in a register is well-formed. -/
structure WellFormed (w : Workshop α) : Prop where
  arrays : w.arrays.WellFormed
  drafts : w.drafts.WellFormed

variable {w : Workshop α}

/-- What is promised of the end of a task: the workshop is well-formed, the outcome is sound, and
if the task failed, every register that it does not use up is as it was. -/
structure Promised (w : Workshop α) (t : Task α) (out : Workshop α × Outcome α) : Prop where
  wellFormed : out.1.WellFormed
  sound : out.2.Sound
  keptArrays : out.2.failed = true → ∀ name, name ∉ t.usedArrays →
    out.1.arrays.find? name = w.arrays.find? name
  keptDrafts : out.2.failed = true → ∀ name, name ∉ t.usedDrafts →
    out.1.drafts.find? name = w.drafts.find? name

/-- A task that changes nothing ends as promised. -/
lemma promised_same (h : w.WellFormed) {t : Task α} {o : Outcome α} (ho : o.Sound) :
    Promised w t (w, o) := ⟨h, ho, fun _ _ _ => rfl, fun _ _ _ => rfl⟩

/-- A task that has a result ends as promised if the result is well-formed. -/
lemma promised_done {v : Workshop α} (hv : v.WellFormed) {t : Task α} {o : Outcome α}
    (ho : o.Sound) (hdone : o.failed = false) : Promised w t (v, o) :=
  ⟨hv, ho, fun hf => absurd (hf.symm.trans hdone) Bool.noConfusion,
    fun hf => absurd (hf.symm.trans hdone) Bool.noConfusion⟩

/-- Allocating a draft ends as promised. -/
lemma allocate_promised (h : w.WellFormed) (into : Name) (lower upper : Int64) (supply : Supply) :
    Promised w (.allocate into lower upper supply)
      (w.perform (.allocate into lower upper supply)) := by
  have hdraft : Call.AllOrNothing (Draft.allocate lower upper : Call Unit α (Draft α)) _ supply
    ⟨(), supply.copies, .blank⟩ := Draft.allocate_allOrNothing lower upper
  rw [perform, Call.run]
  obtain ⟨d, g, hrun, ⟨hd, -⟩, -⟩ | ⟨e, g, hrun, -, hexact⟩ := hdraft.cases
  · rw [hrun]
    refine promised_done ?_ hd rfl
    exact ⟨h.arrays, (h.drafts.counted _).settle (some into) hd⟩
  · rw [hrun]
    exact promised_same h fun x hx => hexact x (Trouble.halted.inj hx)

/-- Resizing a draft ends as promised. -/
lemma resize_promised (h : w.WellFormed) (d : Name) (n : Nat) (supply : Supply) :
    Promised w (.resize d n supply) (w.perform (.resize d n supply)) := by
  rw [perform]
  cases hd : w.drafts.find? d with
  | none => exact promised_same h fun x hx => nomatch hx
  | some x =>
    have hx := h.drafts.find? hd
    have hresize : Call.AllOrNothing (Draft.resize n) _ supply ⟨x, supply.copies, .blank⟩ :=
      Draft.resize_allOrNothing n
    dsimp only
    rw [Call.run]
    obtain ⟨u, g, hrun, hg, -⟩ | ⟨e, g, hrun, hheld, hexact⟩ := hresize.cases
    · rw [hrun]
      refine promised_done ?_ trivial rfl
      exact ⟨h.arrays, h.drafts.put d hg⟩
    · rw [hrun]
      dsimp only at hheld ⊢
      rw [hheld]
      exact ⟨⟨h.arrays, h.drafts.put d hx⟩, fun y hy => hexact y (Trouble.halted.inj hy),
        fun _ _ _ => rfl, fun _ name _ => find?_put_self hd name⟩

/-- Finishing a draft ends as promised. -/
lemma finish_promised (h : w.WellFormed) (d : Name) (into : Option Name) :
    Promised w (.finish d into) (w.perform (.finish d into)) := by
  rw [perform]
  cases hd : w.drafts.find? d with
  | none => exact promised_same h fun x hx => nomatch hx
  | some x =>
    dsimp only
    cases hsettled : x.slots.settled? with
    | none =>
      have hunready : (Draft.finish x : Call Unit α (Anchored α)).run .ample ()
          = (.error (.fault .unwritten), ⟨(), none, .blank⟩) := by
        rw [Call.run, Draft.finish, Buffer.settle, hsettled]
        rfl
      rw [hunready]
      exact promised_same h trivial
    | some slots =>
      have hfilled : Draft.Filled x slots.toList :=
        ⟨h.drafts.find? hd, Draft.toList_of_settled? hsettled⟩
      have ha := hfilled.room.wellFormed
      rw [hfilled.finish_eq]
      refine promised_done ?_ ha rfl
      exact ⟨(h.arrays.counted _).settle into ha, (h.drafts.counted _).clear d⟩

/-- **Every task** in a well-formed workshop ends as promised. -/
lemma perform_promised (h : w.WellFormed) (t : Task α) : Promised w t (w.perform t) := by
  cases t with
  | onArrays step =>
    have hstep := step_ending h.arrays step
    rw [perform]
    generalize w.arrays.step step = out at *
    obtain ⟨s, outcome, tally, released, shown, live⟩ := out
    refine ⟨⟨hstep.wellFormed, h.drafts⟩, ?_, ?_, fun _ _ _ => rfl⟩
    · cases outcome with
      | ok r => exact hstep.result r rfl
      | error e => exact fun x hx => hstep.exact x (congrArg Except.error hx)
    · intro hf name hname
      cases outcome with
      | ok r => cases hf
      | error e => exact hstep.kept e rfl name hname
  | onDrafts step =>
    have hstep := step_ending h.drafts step
    rw [perform]
    generalize w.drafts.step step = out at *
    obtain ⟨s, outcome, tally, released, shown, live⟩ := out
    refine ⟨⟨h.arrays, hstep.wellFormed⟩, ?_, fun _ _ _ => rfl, ?_⟩
    · cases outcome with
      | ok r => exact hstep.result r rfl
      | error e => exact fun x hx => hstep.exact x (congrArg Except.error hx)
    · intro hf name hname
      cases outcome with
      | ok r => cases hf
      | error e => exact hstep.kept e rfl name hname
  | allocate into lower upper supply => exact allocate_promised h into lower upper supply
  | resize d n supply => exact resize_promised h d n supply
  | finish d into => exact finish_promised h d into

/-! ### Runs -/

lemma start_wellFormed : (start : Workshop α).WellFormed :=
  ⟨Session.start_wellFormed, Session.start_wellFormed⟩

/-- A run keeps a workshop well-formed, and all its outcomes are sound. -/
lemma run_sound (h : w.WellFormed) (tasks : List (Task α)) :
    (w.run tasks).1.WellFormed ∧ ∀ o ∈ (w.run tasks).2, o.Sound := by
  induction tasks generalizing w with
  | nil => exact ⟨h, fun _ ho => nomatch ho⟩
  | cons t rest ih =>
    have ht := perform_promised h t
    obtain ⟨hrest, houtcomes⟩ := ih ht.wellFormed
    refine ⟨hrest, ?_⟩
    intro o ho
    obtain rfl | ho := List.mem_cons.1 ho
    · exact ht.sound
    · exact houtcomes o ho

/-- **After every run** of tasks, whatever their arguments are and whatever is refused, every array
and every draft in a register is well-formed, and so is every array that a task resulted in. -/
theorem run_wellFormed (tasks : List (Task α)) :
    (start.run tasks).1.WellFormed ∧ ∀ o ∈ (start.run tasks).2, o.Sound :=
  run_sound start_wellFormed tasks

/-- **A task that fails** after any run leaves every array and every draft as it was, but for those
that are handed over to the task. -/
theorem failed_task_keeps (tasks : List (Task α)) (t : Task α)
    (hfail : ((start.run tasks).1.perform t).2.failed = true) :
    (∀ name, name ∉ t.usedArrays → ((start.run tasks).1.perform t).1.arrays.find? name
        = (start.run tasks).1.arrays.find? name)
      ∧ ∀ name, name ∉ t.usedDrafts → ((start.run tasks).1.perform t).1.drafts.find? name
        = (start.run tasks).1.drafts.find? name := by
  have ht := perform_promised (run_sound start_wellFormed tasks).1 t
  exact ⟨ht.keptArrays hfail, ht.keptDrafts hfail⟩

/-- Making an array of five numbers. -/
def makeFive : Task Int64 := .onArrays ⟨.make (.ofList 1 [10, 20, 30, 40, 50]), some "five", .ample⟩

/-- Cutting two numbers out of the middle of the array while the second request is refused: the gap
is closed, and has to be opened again. -/
def cutRefused : Task Int64 :=
  .onArrays ⟨.change "five" (.removeRun 2 2), some "two", .limited 1000 (some 1) none⟩

/-- The five numbers are there after two of them could not be cut out. -/
theorem cutRefused_keeps :
    ((start.run [makeFive]).1.perform cutRefused).2.failed = true
      ∧ ((start.run [makeFive]).1.arrays.find? "five").isSome = true
      ∧ ((start.run [makeFive]).1.perform cutRefused).1.arrays.find? "five"
        = (start.run [makeFive]).1.arrays.find? "five" :=
  ⟨by rfl, by rfl, (failed_task_keeps [makeFive] cutRefused (by rfl)).1 "five" (by simp [cutRefused,
    Task.usedArrays, Action.consumed])⟩

end Workshop

end AnchoredArrays
