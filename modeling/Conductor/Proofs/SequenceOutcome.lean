import Conductor.Proofs.GroupOutcome
import Conductor.Proofs.Sequence

/-! What a sequence comes to. Its units run one after the other, up to the first that fails; the
failure of that one is the result, and of those behind it only the number is told.
-/

namespace Conductor

variable {ε : Type}

-----------------------------------------------------------------------------------------
-- Runs in turn
-----------------------------------------------------------------------------------------

/-- `InTurn units state runs final` says that units run one after the other from one state to
another, each from the state that the one before it has left.
-/
inductive InTurn : List (UnitOfWork ε) → ε → List (Trace Act ε Outcome) → ε → Prop where
  | done {state} : InTurn [] state [] state
  | next {unit rest state runs final}
    (later : InTurn rest (unit.run.trace state).state runs final)
    : InTurn (unit :: rest) state (unit.run.trace state :: runs) final

/-- Jobs in turn show each its start and then its end, before the next one starts, by induction on
the jobs.
-/
theorem InTurn.jobs {executor : Executor ε} {specs : List JobSpec} {state final : ε}
    {runs : List (Trace Act ε Outcome)}
    (inTurn : InTurn (specs.map (JobSpec.unit executor)) state runs final)
    : (runs.flatMap fun run => run.acts.filterMap Act.job?)
      = (specs.zip (runs.map Trace.value)).flatMap fun (spec, outcome) =>
          [(spec, none), (spec, some outcome)] := by
  induction specs generalizing state runs with
  | nil =>
      cases inTurn
      rfl
  | cons spec rest ih =>
      cases inTurn with
      | next later =>
          rw [List.flatMap_cons, JobSpec.unit_run_jobs, ih later]
          rfl

/-- Units in turn run once each, by induction on the runs. -/
theorem InTurn.length_eq {units : List (UnitOfWork ε)} {state final : ε}
    {runs : List (Trace Act ε Outcome)} (inTurn : InTurn units state runs final)
    : runs.length = units.length := by
  induction inTurn with
  | done => rfl
  | next _ ih => rw [List.length_cons, List.length_cons, ih]

-----------------------------------------------------------------------------------------
-- Sequences
-----------------------------------------------------------------------------------------

namespace Group

/-- How the rest of a sequence of `count` units goes, of which `before` have come through. Those
that are `started` run in turn, each behind a line with its place. All of them pass but perhaps the
last, and if some are left over, that one fails; its failure is the result.
-/
structure Halts (count before : Nat) (units : List (UnitOfWork ε)) (state : ε)
    (started rest : List (UnitOfWork ε)) (runs : List (Trace Act ε Outcome))
    (trace : Trace Act ε (Except Fault (Except UnitFailure Unit)))
    : Prop where
  split : units = started ++ rest
  inTurn : InTurn started state runs trace.state
  passed : ∀ run ∈ runs.dropLast, run.value = .passed
  halted : rest ≠ [] → ∃ run, runs.getLast? = some run ∧ run.value ≠ .passed
  value
    : trace.value
      = .ok
          (match failuresInOrder ((started.map UnitOfWork.name).zip (runs.map Trace.value)) with
          | [] => .ok ()
          | failure :: _ => .error failure)
  acts
    : trace.acts
      = (((started.zip runs).zipIdx before).flatMap fun ((unit, run), place) =>
          .did (.wrote (.print .dim
            ("[" ++ toString (place + 1) ++ "/" ++ toString count ++ "] " ++ unit.name)))
            :: run.acts)
        ++ match failuresInOrder ((started.map UnitOfWork.name).zip (runs.map Trace.value)) with
          | [] => []
          | failure :: _ =>
            if rest.isEmpty then []
            else
              [.did (.wrote (.warning
                (failure.job ++ " failed; skipping " ++ toString (units.length - started.length)
                  ++ " remaining")))]

namespace Halts

variable {count before : Nat} {unit : UnitOfWork ε} {units started rest : List (UnitOfWork ε)}
  {state : ε} {runs : List (Trace Act ε Outcome)}
  {trace : Trace Act ε (Except Fault (Except UnitFailure Unit))}

/-- A sequence goes on behind a unit that passes. -/
theorem cons (halts : Halts count (before + 1) units (unit.run.trace state).state started rest runs
      trace)
    (passed : (unit.run.trace state).value = .passed)
    : Halts count before (unit :: units) state (unit :: started) rest (unit.run.trace state :: runs)
        (trace.behind (stepAct (before + 1) count unit.name :: (unit.run.trace state).acts)) where
  split := by rw [halts.split, List.cons_append]
  inTurn := .next halts.inTurn
  passed := by
    intro run member
    cases runs with
    | nil => cases member
    | cons next others =>
        rw [List.dropLast_cons_of_ne_nil (List.cons_ne_nil _ _)] at member
        rcases List.mem_cons.mp member with rfl | member
        · exact passed
        · exact halts.passed run member
  halted := by
    intro left
    obtain ⟨run, last, failed⟩ := halts.halted left
    exact ⟨run, by rw [List.getLast?_cons, last]; rfl, failed⟩
  value := by
    simp only [Trace.behind_value, halts.value, List.map_cons, List.zip_cons_cons, passed,
      failuresInOrder]
  acts := by
    simp only [Trace.behind_acts, halts.acts, List.map_cons, List.zip_cons_cons, passed,
      failuresInOrder, List.zipIdx_cons, List.flatMap_cons, List.length_cons,
      Nat.add_sub_add_right, List.append_assoc]
    rfl

/-- A sequence halts at a unit that fails. -/
theorem failed {failure : UnitFailure}
    (failed : (unit.run.trace state).value.failure? unit.name = some failure)
    : Halts count before (unit :: rest) state [unit] rest [unit.run.trace state]
        ((runFrom count before (unit :: rest)).trace state) := by
  have counted : failuresInOrder [(unit.name, (unit.run.trace state).value)] = [failure] := by
    rw [failuresInOrder_cons, failed]
    rfl
  rw [runFrom_failed count before unit rest state failed]
  exact {
    split := rfl
    inTurn := .next .done
    passed := fun _ => nofun
    halted := by
      intro _
      refine ⟨unit.run.trace state, rfl, fun passed => ?_⟩
      rw [passed] at failed
      cases failed
    value := by
      simp only [List.map_cons, List.map_nil, List.zip_cons_cons, List.zip_nil_left, counted]
    acts := by
      simp only [List.map_cons, List.map_nil, List.zip_cons_cons, List.zip_nil_left, counted]
      cases rest <;> simp [skipped, stepAct, stepLine, Message.dim]
  }

/-- What shows of a sequence in a view that shows no deeds shows in the runs of its units. -/
theorem view {α : Type} {view : Act → Option α}
    (halts : Halts count before units state started rest runs trace)
    (blind : ∀ deed, view (.did deed) = none)
    : trace.acts.filterMap view = runs.flatMap fun run => run.acts.filterMap view := by
  let shown : Trace Act ε Outcome → List α := fun run => run.acts.filterMap view
  have lines : trace.acts.filterMap view
      = ((started.zip runs).zipIdx before).flatMap fun entry => shown entry.1.2 := by
    rw [halts.acts, List.filterMap_append, List.filterMap_flatMap]
    have silent : ∀ failures : List UnitFailure, ∀ warning : UnitFailure → Message,
        List.filterMap view (match failures with
          | [] => []
          | failure :: _ => if rest.isEmpty then [] else [.did (.wrote (warning failure))])
        = [] := by
      intro failures warning
      cases failures with
      | nil => rfl
      | cons failure _ => cases rest <;> simp [blind]
    rw [silent _ fun failure => _, List.append_nil]
    exact List.flatMap_congr fun entry _ => List.filterMap_cons_none (blind _)
  calc
    _ = (((started.zip runs).zipIdx before).map Prod.fst).flatMap fun entry => shown entry.2 := by
      rw [lines, List.flatMap_map]
    _ = ((started.zip runs).map Prod.snd).flatMap shown := by
      rw [List.zipIdx_map_fst, List.flatMap_map]
    _ = runs.flatMap shown := by
      rw [List.map_snd_zip (Nat.le_of_eq halts.inTurn.length_eq)]

end Halts

/-- The rest of a sequence halts at the first unit that fails, by induction on the units. -/
theorem runFrom_halts (count before : Nat) {units : List (UnitOfWork ε)}
    (uncancelled : ∀ unit ∈ units, unit.Uncancelled) (state : ε)
    : ∃ started rest runs,
        Halts count before units state started rest runs
          ((runFrom count before units).trace state) := by
  induction units generalizing before state with
  | nil =>
      exact ⟨[], [], [], {
        split := rfl
        inTurn := .done
        passed := fun _ => nofun
        halted := absurd rfl
        value := rfl
        acts := rfl
      }⟩
  | cons unit others ih =>
      obtain ⟨first, later⟩ := List.forall_mem_cons.mp uncancelled
      rcases Outcome.settled unit.name (unit.run.trace state).value with
        passed | ⟨failure, failed⟩ | ⟨text, cancelled⟩
      · obtain ⟨started, rest, runs, halts⟩ :=
          ih (before + 1) later (unit.run.trace state).state
        rw [runFrom_passed count before unit others state passed]
        exact ⟨unit :: started, rest, _, halts.cons passed⟩
      · exact ⟨[unit], others, _, .failed failed⟩
      · cases (first.run state).symm.trans cancelled

/-- A sequence of units that are never cancelled halts at the first that fails: the units that run
do so in turn, each once, and the others not at all. Jobs that run show each its start and its end
before the next one starts.
-/
theorem runEach_halts {units : List (UnitOfWork ε)}
    (uncancelled : ∀ unit ∈ units, unit.Uncancelled) (state : ε)
    : let trace := (runEach units).trace state
      ∃ started rest runs,
        Halts units.length 0 units state started rest runs trace
        ∧ ∀ (executor : Executor ε) (specs : List JobSpec),
            started = specs.map (JobSpec.unit executor)
            → trace.acts.filterMap Act.job?
              = (specs.zip (runs.map Trace.value)).flatMap fun (spec, outcome) =>
                  [(spec, none), (spec, some outcome)] := by
  intro trace
  obtain ⟨started, rest, runs, halts⟩ := runFrom_halts units.length 0 uncancelled state
  refine ⟨started, rest, runs, halts, fun executor specs ofJobs => ?_⟩
  have blind : ∀ deed, Act.job? (.did deed) = none := fun _ => rfl
  subst ofJobs
  exact (halts.view blind).trans halts.inTurn.jobs

/-- Three units, of which the second raises an error behind a pause. -/
def brokenOff : List (UnitOfWork Unit) :=
  [.ofBehaviour "build" ⟨2, .passed⟩,
    .ofBehaviour "lint" ⟨1, .broken (.trouble ⟨"OSError", "disk"⟩)⟩,
    .ofBehaviour "test" ⟨0, .passed⟩]

theorem runEach_halts_brokenOff
    : let trace := (runEach brokenOff).trace ()
      (∀ unit ∈ brokenOff, unit.Uncancelled)
      ∧ trace.value = .ok (.error ⟨"lint", "OSError: disk", none⟩)
      ∧ trace.acts.filterMap Act.mark? = ["start:build", "end:build", "start:lint", "end:lint"]
      ∧ (Act.console trace.acts).map Record.message
        = ["[1/3] build", "[2/3] lint", "warning: lint failed; skipping 1 remaining"]
      ∧ ∃ started rest runs, Halts 3 0 brokenOff () started rest runs trace := by
  intro trace
  have uncancelled : ∀ unit ∈ brokenOff, unit.Uncancelled := by
    intro unit member acts outcome goes
    simp only [brokenOff, List.mem_cons, List.not_mem_nil, or_false] at member
    rcases member with rfl | rfl | rfl <;> exact (ofBehaviour_goes goes).2 ▸ rfl
  obtain ⟨started, rest, runs, halts, _⟩ := runEach_halts uncancelled ()
  exact ⟨uncancelled, by decide +kernel, by decide +kernel, by decide +kernel, started, rest, runs,
    halts⟩

end Group

end Conductor
