import Conductor.Work.Row
import Conductor.Work.Unit

/-!
Units of work that take turns. Each is started in order and goes on until it ends or gives up
control; from then on a schedule picks the waiting unit that takes the next turn. A turn leaves less
of a unit, so that the turns come to an end whatever the schedule picks.
-/

namespace Conductor

/-- Picks which waiting unit takes the next turn, by the number of turns taken so far. The pick is
counted around the units that are waiting.
-/
abbrev Schedule := Nat → Nat

/-- The schedule that picks the unit that has waited longest. -/
def Schedule.fair : Schedule := fun _ => 0

/-- A unit that waits for a turn: its place among all units, the number of turns it has taken, the
leg that it goes next, and what is left of it then.
-/
structure Waiting (ε : Type) where
  place : Nat
  turns : Nat
  leg : Run Act ε Unit
  rest : ε → Suspension Act ε Outcome

/-- What is left of a waiting unit. -/
def Waiting.left {ε : Type} (waiting : Waiting ε) : Suspension Act ε Outcome :=
  .paused waiting.leg waiting.rest

/-- What has come of the units: the outcomes of those that have ended, by their places, and the
first cancellation with the turn in which it came.
-/
structure Progress where
  outcomes : List (Nat × Outcome) := []
  cancelled : Option (String × Nat) := none
  deriving Repr

namespace Progress

/-- The turns that other units still take after a cancellation: word of it has to get from the
unit to the group, from there to the request, and from there to the host, which then drops them.
-/
def lateTurns : Nat := 3

/-- Whether a unit may still take a turn of the given number. -/
def allows (progress : Progress) (turn : Nat) : Bool :=
  match progress.cancelled with
  | none => true
  | some (_, last) => turn ≤ last + lateTurns

/-- The progress with an outcome more, which came in a turn of the given number. -/
def record (progress : Progress) (place turn : Nat) (outcome : Outcome) : Progress where
  outcomes := progress.outcomes ++ [(place, outcome)]
  cancelled := progress.cancelled.or (outcome.cancellation?.map (·, turn))

end Progress

-----------------------------------------------------------------------------------------
-- Picking
-----------------------------------------------------------------------------------------

/-- The `n`th of the elements from `first` on, or the last if there are fewer, and all others in
their order.
-/
def takeOut {α : Type} : Nat → α → List α → α × List α
  | 0, first, rest => (first, rest)
  | _ + 1, first, [] => (first, [])
  | n + 1, first, next :: rest =>
    let (chosen, others) := takeOut n next rest
    (chosen, first :: others)

/-- Taking an element out of a row leaves the others, by induction on the place. -/
theorem takeOut_perm {α : Type} (n : Nat) (first : α) (rest : List α)
    : (first :: rest).Perm ((takeOut n first rest).1 :: (takeOut n first rest).2) := by
  induction n generalizing first rest with
  | zero => exact .refl _
  | succ n ih =>
    cases rest with
    | nil => exact .refl _
    | cons next rest =>
      simp only [takeOut]
      exact ((ih next rest).cons first).trans (.swap _ _ _)

/-- What holds of all in a row holds of the one taken out and of all others. -/
theorem takeOut_forall {α : Type} {P : α → Prop} (n : Nat) {first : α} {rest : List α}
    (all : ∀ item ∈ first :: rest, P item)
    : P (takeOut n first rest).1 ∧ ∀ item ∈ (takeOut n first rest).2, P item := by
  have same := takeOut_perm n first rest
  exact List.forall_mem_cons.mp fun item member => all item (same.mem_iff.mpr member)

-----------------------------------------------------------------------------------------
-- Turns
-----------------------------------------------------------------------------------------

variable {ε : Type}

/-- Starts units in order. Those that give up control wait. -/
def startAll (place : Nat) (progress : Progress)
    : List (UnitOfWork ε) → Run Act ε (Progress × List (Waiting ε))
  | [] => pure (progress, [])
  | unit :: rest => do
    match ← unit.work.turn with
    | .ended outcome => startAll (place + 1) (progress.record place 1 outcome) rest
    | .paused leg left => do
      let (progress, waiting) ← startAll (place + 1) progress rest
      return (progress, ⟨place, 1, leg, left⟩ :: waiting)

namespace Waiting

/-- A row of waiting units of which one has taken a turn or has been passed over. -/
def Fewer (later row : List (Waiting ε)) : Prop :=
  Suspension.Fewer (later.map left) (row.map left)

/-- Turns come to an end. -/
theorem fewer_wellFounded : WellFounded (Fewer (ε := ε)) :=
  InvImage.wf (List.map left) ⟨Suspension.fewer_acc 1000⟩

variable {row others : List (Waiting ε)} {chosen : Waiting ε}

theorem fewer_others (picked : row.Perm (chosen :: others)) : Fewer others row :=
  ⟨_, _, picked.map left, .inl (.refl _)⟩

theorem fewer_again (picked : row.Perm (chosen :: others)) {state : ε} {leg : Run Act ε Unit}
    {next : ε → Suspension Act ε Outcome} (paused : chosen.rest state = .paused leg next)
    (turns : Nat)
    : Fewer (others ++ [⟨chosen.place, turns, leg, next⟩]) row := by
  refine ⟨_, _, picked.map left, .inr ⟨.paused leg next, paused ▸ .leg state, ?_⟩⟩
  rw [List.map_append]
  exact List.perm_append_singleton _ _

end Waiting

/-- The next turn of waiting units, and those that come later. A unit that gives up control again
goes to the end of the row.
-/
def nextTurn (schedule : Schedule)
    : (row : List (Waiting ε))
      → (∀ later, Waiting.Fewer later row → Nat → Progress → Run Act ε Progress)
      → Nat
      → Progress
      → Run Act ε Progress
  | [], _, _, progress => pure progress
  | first :: rest, takeLater, count, progress =>
    let pick := schedule count % (rest.length + 1)
    let chosen := (takeOut pick first rest).1
    let others := (takeOut pick first rest).2
    have picked : (first :: rest).Perm (chosen :: others) := takeOut_perm pick first rest
    let turn := chosen.turns + 1
    if !progress.allows turn then
      takeLater others (Waiting.fewer_others picked) (count + 1) progress
    else Run.inState fun state => do
      chosen.leg
      match left : chosen.rest state with
      | .ended outcome =>
        takeLater others (Waiting.fewer_others picked) (count + 1)
          (progress.record chosen.place turn outcome)
      | .paused leg next =>
        takeLater (others ++ [⟨chosen.place, turn, leg, next⟩])
          (Waiting.fewer_again picked left turn) (count + 1) progress

/-- Lets waiting units take turns until all have ended. -/
def takeTurns (schedule : Schedule) (count : Nat) (progress : Progress) (row : List (Waiting ε))
    : Run Act ε Progress :=
  Waiting.fewer_wellFounded.fix (nextTurn schedule) row count progress

/-- A unit that ends in its first turn does not wait. -/
theorem startAll_ended {unit : UnitOfWork ε} {state : ε} {outcome : Outcome}
    (left : (unit.work.turn.trace state).value = .ended outcome) (place : Nat) (progress : Progress)
    (rest : List (UnitOfWork ε))
    : (startAll place progress (unit :: rest)).trace state
      = ((startAll (place + 1) (progress.record place 1 outcome) rest).trace
          (unit.work.turn.trace state).state).behind (unit.work.turn.trace state).acts := by
  rw [startAll, Run.trace_bind, left]

/-- A unit that gives up control in its first turn waits in front of those behind it. -/
theorem startAll_paused {unit : UnitOfWork ε} {state : ε} {leg : Run Act ε Unit}
    {next : ε → Suspension Act ε Outcome}
    (left : (unit.work.turn.trace state).value = .paused leg next) (place : Nat)
    (progress : Progress) (rest : List (UnitOfWork ε))
    : let turn := unit.work.turn.trace state
      let others := (startAll (place + 1) progress rest).trace turn.state
      (startAll place progress (unit :: rest)).trace state
      = ⟨(others.value.1, ⟨place, 1, leg, next⟩ :: others.value.2), others.state,
          turn.acts ++ others.acts⟩ := by
  rw [startAll, Run.trace_bind, left]
  simp [Trace.behind]

/-- Turns are the next one and those that come later. -/
theorem takeTurns_eq (schedule : Schedule) (count : Nat) (progress : Progress)
    (row : List (Waiting ε))
    : takeTurns schedule count progress row
      = nextTurn schedule row
          (fun later _ count progress => takeTurns schedule count progress later) count progress :=
  congrFun (congrFun (WellFounded.fix_eq _ _ row) count) progress

@[simp]
theorem takeTurns_nil (schedule : Schedule) (count : Nat) (progress : Progress)
    : takeTurns schedule count progress ([] : List (Waiting ε)) = pure progress := by
  rw [takeTurns_eq, nextTurn]

section Equations

variable {schedule : Schedule} {count : Nat} {progress : Progress} {first : Waiting ε}
  {rest : List (Waiting ε)} {picked : Waiting ε × List (Waiting ε)}

/-- A unit that may take no turn any more is passed over. -/
theorem takeTurns_passOver
    (taken : takeOut (schedule count % (rest.length + 1)) first rest = picked)
    (late : progress.allows (picked.1.turns + 1) = false)
    : takeTurns schedule count progress (first :: rest)
      = takeTurns schedule (count + 1) progress picked.2 := by
  subst taken
  rw [takeTurns_eq, nextTurn, if_pos (by simp [late])]

/-- The outcome of a unit that ends in its turn is noted. -/
theorem takeTurns_ended
    (taken : takeOut (schedule count % (rest.length + 1)) first rest = picked)
    (allowed : progress.allows (picked.1.turns + 1) = true) {state : ε} {outcome : Outcome}
    (left : picked.1.rest state = .ended outcome)
    : (takeTurns schedule count progress (first :: rest)).trace state
      = ((takeTurns schedule (count + 1)
            (progress.record picked.1.place (picked.1.turns + 1) outcome) picked.2).trace
          (picked.1.leg.trace state).state).behind (picked.1.leg.trace state).acts := by
  subst taken
  rw [takeTurns_eq, nextTurn, if_neg (by simp [allowed]), Run.trace_inState]
  split
  · rename_i ended
    cases left.symm.trans ended
    rfl
  · rename_i paused
    cases left.symm.trans paused

/-- A unit that gives up control again in its turn goes to the end of the row. -/
theorem takeTurns_paused
    (taken : takeOut (schedule count % (rest.length + 1)) first rest = picked)
    (allowed : progress.allows (picked.1.turns + 1) = true) {state : ε} {leg : Run Act ε Unit}
    {next : ε → Suspension Act ε Outcome} (left : picked.1.rest state = .paused leg next)
    : (takeTurns schedule count progress (first :: rest)).trace state
      = ((takeTurns schedule (count + 1) progress
            (picked.2 ++ [⟨picked.1.place, picked.1.turns + 1, leg, next⟩])).trace
          (picked.1.leg.trace state).state).behind (picked.1.leg.trace state).acts := by
  subst taken
  rw [takeTurns_eq, nextTurn, if_neg (by simp [allowed]), Run.trace_inState]
  split
  · rename_i ended
    cases left.symm.trans ended
  · rename_i paused
    cases left.symm.trans paused
    rfl

end Equations

/-- What holds of a row when it holds of those behind its next turn holds of every row. Witness: a
turn leaves fewer behind.
-/
theorem turns_induction (schedule : Schedule) {motive : Nat → Progress → List (Waiting ε) → Prop}
    (none : ∀ count progress, motive count progress [])
    (next
      : ∀ count progress first rest,
          let picked := takeOut (schedule count % (rest.length + 1)) first rest
          let turn := picked.1.turns + 1
          (∀ progress, motive (count + 1) progress picked.2)
          → (∀ state leg next,
              picked.1.rest state = .paused leg next
              → motive (count + 1) progress (picked.2 ++ [⟨picked.1.place, turn, leg, next⟩]))
          → motive count progress (first :: rest))
    (count : Nat) (progress : Progress) (row : List (Waiting ε))
    : motive count progress row := by
  induction row using Waiting.fewer_wellFounded.induction generalizing count progress with
  | _ row ih =>
    cases row with
    | nil => exact none count progress
    | cons first rest =>
      have picked := takeOut_perm (schedule count % (rest.length + 1)) first rest
      refine next count progress first rest (fun progress => ?_) fun state leg later paused => ?_
      · exact ih _ (Waiting.fewer_others picked) _ _
      · exact ih _ (Waiting.fewer_again picked paused _) _ _

/-- Runs units side by side to their ends. -/
def runTogether (schedule : Schedule) (units : List (UnitOfWork ε)) : Run Act ε Progress := do
  let (progress, waiting) ← startAll 0 {} units
  takeTurns schedule 0 progress waiting

end Conductor
