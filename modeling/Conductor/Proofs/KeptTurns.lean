import Conductor.Proofs.GoingOn
import Conductor.Work.Turns
import Mathlib.Data.List.Basic

/-! What units that take turns keep. Whatever the schedule picks, what the acts and the outcomes of
their courses do not undo holds when the turns have been taken; a cancellation, which cuts the turns
short, does not change that.
-/

namespace Conductor

variable {ε : Type}

-----------------------------------------------------------------------------------------
-- What turns keep
-----------------------------------------------------------------------------------------

/-- What holds of a row of waiting units holds when it does so of the row behind the next turn,
whichever unit that falls to. Witness: induction on the turns.
-/
theorem takeTurns_induction
    {motive : Progress → List (Waiting ε) → ε → Trace Act ε Progress → Prop}
    (done : ∀ progress state, motive progress [] state ⟨progress, state, []⟩)
    (late
      : ∀ {progress waiting chosen others state trace},
          waiting.Perm (chosen :: others)
          → progress.allows (chosen.turns + 1) = false
          → motive progress others state trace
          → motive progress waiting state trace)
    (ended
      : ∀ {progress waiting chosen others state outcome trace},
          waiting.Perm (chosen :: others)
          → chosen.rest state = .ended outcome
          → motive (progress.record chosen.place (chosen.turns + 1) outcome) others
              (chosen.leg.trace state).state trace
          → motive progress waiting state (trace.behind (chosen.leg.trace state).acts))
    (paused
      : ∀ {progress waiting chosen others state leg next trace},
          waiting.Perm (chosen :: others)
          → chosen.rest state = .paused leg next
          → motive progress (others ++ [⟨chosen.place, chosen.turns + 1, leg, next⟩])
              (chosen.leg.trace state).state trace
          → motive progress waiting state (trace.behind (chosen.leg.trace state).acts))
    (schedule : Schedule) (count : Nat) (progress : Progress) (waiting : List (Waiting ε))
    (state : ε)
    : motive progress waiting state ((takeTurns schedule count progress waiting).trace state) := by
  induction count, progress, waiting using turns_induction schedule generalizing state with
  | none count progress =>
      rw [takeTurns_nil]
      exact done progress state
  | next count progress first rest picked turn dropped again =>
      have taken := takeOut_perm (schedule count % (rest.length + 1)) first rest
      cases allowed : progress.allows (picked.1.turns + 1) with
      | false =>
          rw [takeTurns_passOver rfl allowed]
          exact late taken allowed (dropped progress state)
      | true =>
          cases left : picked.1.rest state with
          | ended outcome =>
              rw [takeTurns_ended rfl allowed left]
              exact ended taken left (dropped _ _)
          | paused leg later =>
              rw [takeTurns_paused rfl allowed left]
              exact paused taken left (again state leg later left _)

/-- What acts of `Q` and outcomes of `P` do not undo. -/
structure Progress.Kept (Q : Act → Prop) (P : Outcome → Prop) (I : Progress → List Act → Prop)
    : Prop where
  acts
    : ∀ {progress before acts}, (∀ act ∈ acts, Q act) → I progress before
      → I progress (before ++ acts)
  record
    : ∀ {progress before outcome} (place turn : Nat),
        P outcome → I progress before → I (progress.record place turn outcome) before

section Kept

variable {Q : Act → Prop} {P : Outcome → Prop} {I : Progress → List Act → Prop}

/-- What the courses of waiting units do not undo holds when these have taken their turns, by
induction on the turns.
-/
theorem Progress.Kept.takeTurns (kept : Progress.Kept Q P I) (schedule : Schedule) (count : Nat)
    {progress : Progress} {waiting : List (Waiting ε)} {before : List Act} (state : ε)
    (each : ∀ unit ∈ waiting, unit.left.Within Q P) (holds : I progress before)
    : let turns := (takeTurns schedule count progress waiting).trace state
      I turns.value (before ++ turns.acts) := by
  have behind {leg : Run Act ε Unit} {state : ε} {trace : Trace Act ε Progress} {before : List Act}
      (holds : I trace.value (before ++ (leg.trace state).acts ++ trace.acts))
      : let all := trace.behind (leg.trace state).acts
        I all.value (before ++ all.acts) := by
    simpa using holds
  revert before
  refine takeTurns_induction
    (motive := fun progress waiting state trace =>
      (∀ unit ∈ waiting, unit.left.Within Q P)
      → ∀ {before}, I progress before → I trace.value (before ++ trace.acts))
    ?done ?late ?ended ?paused schedule count progress waiting state each
  case done =>
    intro progress state _ before holds
    simpa using holds
  case late =>
    intro progress waiting chosen others state trace picked _ ih each before holds
    exact ih (fun unit member => each unit (picked.mem_iff.mpr (List.mem_cons_of_mem _ member)))
      holds
  case ended =>
    intro progress waiting chosen others state outcome trace picked left ih each before holds
    obtain ⟨own, others⟩ := List.forall_mem_cons.mp fun unit member =>
      each unit (picked.mem_iff.mpr member)
    have last : P outcome := (left ▸ own.rest state).of_ended
    exact behind (ih others (kept.acts (own.leg state) (kept.record _ _ last holds)))
  case paused =>
    intro progress waiting chosen others state leg next trace picked left ih each before holds
    obtain ⟨own, others⟩ := List.forall_mem_cons.mp fun unit member =>
      each unit (picked.mem_iff.mpr member)
    have later : (Suspension.paused leg next).Within Q P := left ▸ own.rest state
    refine behind (ih (List.forall_mem_append.mpr ⟨others, fun unit member => ?_⟩)
      (kept.acts (own.leg state) holds))
    rw [List.mem_singleton.mp member]
    exact later

/-- What the courses of units do not undo holds when these have started, and their courses from
there do not undo it either, by induction on the units.
-/
theorem Progress.Kept.startAll (kept : Progress.Kept Q P I) {units : List (UnitOfWork ε)}
    (place : Nat) {progress : Progress} {before : List Act} (state : ε)
    (each : ∀ unit ∈ units, unit.work.Within Q P) (holds : I progress before)
    : let started := (startAll place progress units).trace state
      I started.value.1 (before ++ started.acts)
      ∧ ∀ unit ∈ started.value.2, unit.left.Within Q P := by
  induction units generalizing place progress before state with
  | nil => exact ⟨by simpa [Conductor.startAll] using holds, nofun⟩
  | cons unit rest ih =>
      obtain ⟨first, others⟩ := List.forall_mem_cons.mp each
      let now := unit.work.turn.trace state
      have began := kept.acts (first.turn state) holds
      have later := first.left state
      cases left : (unit.work.turn.trace state).value with
      | ended outcome =>
          rw [left] at later
          have ended := kept.record place 1 later.of_ended began
          simpa only [startAll_ended left, Trace.behind_value, Trace.behind_acts, List.append_assoc]
            using ih (place + 1) now.state others ended
      | paused leg next =>
          rw [left] at later
          obtain ⟨holds, waiting⟩ := ih (place + 1) now.state others began
          simp only [startAll_paused left]
          rw [List.append_assoc] at holds
          exact ⟨holds, List.forall_mem_cons.mpr ⟨later, waiting⟩⟩

/-- What holds at first and is not undone by the courses of units holds when all have run. -/
theorem Progress.Kept.runTogether (kept : Progress.Kept Q P I) (schedule : Schedule)
    {units : List (UnitOfWork ε)} (state : ε) (each : ∀ unit ∈ units, unit.work.Within Q P)
    (initial : I {} [])
    : let together := (runTogether schedule units).trace state
      I together.value together.acts := by
  obtain ⟨started, waiting⟩ := kept.startAll 0 state each initial
  simpa only [Conductor.runTogether, Run.trace_bind, Trace.behind_value, Trace.behind_acts,
    List.nil_append] using kept.takeTurns schedule 0 _ waiting started

end Kept

/-- Whatever is done, all that has come of units satisfies what the outcomes of their courses do. -/
theorem Progress.Kept.outcomes (P : Outcome → Prop)
    : Progress.Kept (fun _ => True) P fun progress _ => ∀ entry ∈ progress.outcomes, P entry.2 where
  acts _ all := all
  record _ _ last all := List.forall_mem_append.mpr ⟨all, List.forall_mem_singleton.mpr last⟩

/-- The outcomes that have come of units that ran together are outcomes of their courses. -/
theorem runTogether_outcomes {P : Outcome → Prop} (schedule : Schedule)
    {units : List (UnitOfWork ε)} (state : ε)
    (each : ∀ unit ∈ units, ∀ acts outcome, unit.work.Goes acts outcome → P outcome)
    : ∀ entry ∈ ((runTogether schedule units).trace state).value.outcomes, P entry.2 :=
  (Progress.Kept.outcomes P).runTogether schedule state
    (fun unit member acts outcome goes => ⟨fun _ _ => trivial, each unit member acts outcome goes⟩)
    nofun

-----------------------------------------------------------------------------------------
-- Cancellations
-----------------------------------------------------------------------------------------

namespace Progress

theorem record_cancelled {progress : Progress} (cancelled : progress.cancelled ≠ none)
    (place turn : Nat) (outcome : Outcome)
    : (progress.record place turn outcome).cancelled ≠ none := by
  simp [record, cancelled]

/-- Without an outcome that is a cancellation none gets noted. -/
theorem Kept.running
    : Kept (fun _ => True) (·.cancellation? = none)
        fun progress _ => progress.cancelled = none where
  acts _ running := running
  record _ _ settled running := by simp [Progress.record, running, settled]

/-- Nothing has been cancelled unless a cancellation is noted. -/
def Noted (progress : Progress) : Prop :=
  progress.cancelled = none → ∀ entry ∈ progress.outcomes, entry.2.cancellation? = none

/-- The record of an outcome notes a cancellation, by cases on where the outcome stands. -/
theorem Kept.noted : Kept (fun _ => True) (fun _ => True) fun progress _ => progress.Noted where
  acts _ noted := noted
  record _ _ _ noted := by
    intro running entry member
    simp only [Progress.record, Option.or_eq_none_iff, Option.map_eq_none_iff] at running
    rcases List.mem_append.mp member with member | member
    · exact noted running.1 entry member
    · rw [List.mem_singleton.mp member]
      exact running.2

theorem cancelled_of_not_allows {progress : Progress} {turn : Nat}
    (late : progress.allows turn = false)
    : progress.cancelled ≠ none := by
  intro running
  simp [allows, running] at late

end Progress

theorem Async.within_any (async : Async Act ε Outcome)
    : async.Within (fun _ => True) fun _ => True :=
  fun _ _ _ => ⟨fun _ _ => trivial, trivial⟩

/-- When no cancellation has come of units that ran together, none of their outcomes is one. -/
theorem runTogether_noted (schedule : Schedule) (units : List (UnitOfWork ε)) (state : ε)
    : ((runTogether schedule units).trace state).value.Noted :=
  Progress.Kept.noted.runTogether schedule state (fun unit _ => unit.work.within_any) fun _ => nofun

/-- No course of a run ends with a cancellation: it passes, fails, or breaks off with an error. -/
def Async.Uncancelled {β : Type} (async : Async β ε Outcome) : Prop :=
  ∀ acts outcome, async.Goes acts outcome → outcome.cancellation? = none

/-- Whatever happens beside it, the end of a unit is no cancellation. -/
abbrev UnitOfWork.Uncancelled (unit : UnitOfWork ε) : Prop :=
  unit.work.Uncancelled

/-- Units that are never cancelled run together to their ends, whatever the schedule picks. -/
theorem runTogether_running (schedule : Schedule) (units : List (UnitOfWork ε)) (state : ε)
    (uncancelled : ∀ unit ∈ units, unit.Uncancelled)
    : ((runTogether schedule units).trace state).value.cancelled = none := by
  refine Progress.Kept.running.runTogether schedule state ?_ rfl
  intro unit member acts outcome goes
  exact ⟨fun _ _ => trivial, uncancelled unit member acts outcome goes⟩

-----------------------------------------------------------------------------------------
-- Views of first turns
-----------------------------------------------------------------------------------------

section Views

variable {ι α : Type}

/-- What a view shows of acts is not undone by acts of which it shows nothing. -/
theorem Progress.Kept.shown (view : Act → Option α) (all : List α)
    : Progress.Kept (view · = none) (fun _ => True) fun _ acts => acts.filterMap view = all where
  acts blind before := by
    rw [List.filterMap_append, before, List.filterMap_eq_nil_iff.mpr blind, List.append_nil]
  record _ _ _ before := before

/-- A unit of which each course shows the same, and the first turn already shows it. -/
structure UnitOfWork.Shows (view : Act → Option α) (shown : List α) (unit : UnitOfWork ε)
    : Prop where
  course : ∀ acts outcome, unit.work.Goes acts outcome → acts.filterMap view = shown
  turn : ∀ state, shown <+: (unit.work.turn.trace state).acts.filterMap view

namespace UnitOfWork.Shows

variable {view : Act → Option α} {shown : List α} {unit : UnitOfWork ε}

/-- A course from the first turn shows what this shows, and then nothing. -/
theorem split (shows : unit.Shows view shown) (state : ε) {more : List Act} {outcome : Outcome}
    (goes : (unit.work.turn.trace state).value.Goes more outcome)
    : (unit.work.turn.trace state).acts.filterMap view = shown ∧ more.filterMap view = [] := by
  obtain ⟨beyond, turn⟩ := shows.turn state
  have course := shows.course _ _ ⟨state, more, goes, rfl⟩
  rw [List.filterMap_append, ← turn, List.append_assoc, List.append_right_eq_self] at course
  obtain ⟨rfl, blind⟩ := List.append_eq_nil_iff.mp course
  exact ⟨by rw [← turn, List.append_nil], blind⟩

theorem first (shows : unit.Shows view shown) (state : ε)
    : (unit.work.turn.trace state).acts.filterMap view = shown :=
  (shows.split state (Suspension.Goes.finish _ state)).1

theorem later (shows : unit.Shows view shown) (state : ε)
    : (unit.work.turn.trace state).value.Within (view · = none) fun _ => True := by
  intro acts outcome goes
  exact ⟨List.filterMap_eq_nil_iff.mp (shows.split state goes).2, trivial⟩

end UnitOfWork.Shows

variable {view : Act → Option α} {unit : ι → UnitOfWork ε} {shown : ι → List α}

/-- What first turns show is shown in order when units start, and nothing is by those that wait
then, by induction on the units.
-/
theorem startAll_view (shows : ∀ item, (unit item).Shows view (shown item)) (items : List ι)
    (place : Nat) (progress : Progress) (state : ε)
    : let started := (startAll place progress (items.map unit)).trace state
      started.acts.filterMap view = items.flatMap shown
      ∧ ∀ waiting ∈ started.value.2, waiting.left.Within (view · = none) fun _ => True := by
  induction items generalizing place progress state with
  | nil => exact ⟨rfl, nofun⟩
  | cons item rest ih =>
      let now := (unit item).work.turn.trace state
      have later := (shows item).later state
      rw [List.map_cons]
      cases left : ((unit item).work.turn.trace state).value with
      | ended outcome =>
          obtain ⟨others, waiting⟩ := ih (place + 1) (progress.record place 1 outcome) now.state
          rw [startAll_ended left]
          refine ⟨?_, waiting⟩
          rw [Trace.behind_acts, List.filterMap_append, (shows item).first, List.flatMap_cons]
          exact congrArg _ others
      | paused leg next =>
          obtain ⟨others, waiting⟩ := ih (place + 1) progress now.state
          rw [left] at later
          simp only [startAll_paused left, List.filterMap_append, (shows item).first,
            List.flatMap_cons]
          exact ⟨congrArg _ others, List.forall_mem_cons.mpr ⟨later, waiting⟩⟩

/-- What first turns show is shown in the order in which units run together are given, whatever the
schedule picks, and even if turns are cut short by a cancellation.
-/
theorem runTogether_view (shows : ∀ item, (unit item).Shows view (shown item))
    (schedule : Schedule) (items : List ι) (state : ε)
    : ((runTogether schedule (items.map unit)).trace state).acts.filterMap view
      = items.flatMap shown := by
  obtain ⟨started, waiting⟩ := startAll_view shows items 0 {} state
  simp only [runTogether, Run.trace_bind, Trace.behind_acts]
  exact (Progress.Kept.shown view _).takeTurns schedule 0 _ waiting started

end Views

end Conductor
