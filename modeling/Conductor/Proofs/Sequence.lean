import Conductor.Proofs.Composition
import Conductor.Proofs.JobActs

/-! Units that run one after the other. Each runs on from where the one before it ended, and the
first that fails is the last that runs.
-/

namespace Conductor

variable {ε : Type}

/-- An outcome is a pass, counts as a failure, or is a cancellation, by cases on it. -/
theorem Outcome.settled (name : String) (outcome : Outcome)
    : outcome = .passed
      ∨ (∃ failure, outcome.failure? name = some failure)
      ∨ ∃ text, outcome.cancellation? = some text := by
  rcases outcome with _ | failure | ⟨trouble | text⟩
  · exact Or.inl rfl
  · exact Or.inr (Or.inl ⟨_, rfl⟩)
  · exact Or.inr (Or.inl ⟨_, rfl⟩)
  · exact Or.inr (Or.inr ⟨_, rfl⟩)

theorem Outcome.cancellation?_of_failure? {name : String} {outcome : Outcome}
    {failure : UnitFailure} (failed : outcome.failure? name = some failure)
    : outcome.cancellation? = none := by
  rcases outcome with _ | failure | ⟨trouble | text⟩ <;> first | rfl | cases failed

/-- A unit that is not cancelled is settled by its run, and by nothing else. -/
theorem settle_trace (unit : UnitOfWork ε) (state : ε)
    (running : (unit.run.trace state).value.cancellation? = none)
    : (settle unit).trace state
      = ⟨.ok ((unit.run.trace state).value.failure? unit.name), (unit.run.trace state).state,
          (unit.run.trace state).acts⟩ := by
  simp only [settle, Attempt.trace_liftM_bind, running, Attempt.trace_pure, Trace.behind,
    List.append_nil]

theorem settle_cancelled (unit : UnitOfWork ε) (state : ε) {text : String}
    (cancelled : (unit.run.trace state).value.cancellation? = some text)
    : (settle unit).trace state
      = ⟨.error (.cancelled text), (unit.run.trace state).state,
          (unit.run.trace state).acts⟩ := by
  simp only [settle, Attempt.trace_liftM_bind, cancelled, Attempt.trace_throw, Trace.behind,
    List.append_nil]

theorem settle_acts (unit : UnitOfWork ε) (state : ε)
    : ((settle unit).trace state).acts = (unit.run.trace state).acts := by
  cases cancelled : (unit.run.trace state).value.cancellation? with
  | none => rw [settle_trace unit state cancelled]
  | some text => rw [settle_cancelled unit state cancelled]

namespace Group

/-- The act that announces a unit of a sequence. -/
def stepAct (place count : Nat) (name : String) : Act :=
  .did (.wrote (stepLine place count name))

/-- What is written when `left` units do not run because one before them failed. -/
def skipped (failure : UnitFailure) (left : Nat) : List Message :=
  if left = 0 then []
  else [.warning (failure.job ++ " failed; skipping " ++ toString left ++ " remaining")]

/-- The sequence goes on behind a unit that passes. -/
theorem runFrom_passed (count before : Nat) (unit : UnitOfWork ε) (rest : List (UnitOfWork ε))
    (state : ε) (passed : (unit.run.trace state).value = .passed)
    : (runFrom count before (unit :: rest)).trace state
      = ((runFrom count (before + 1) rest).trace (unit.run.trace state).state).behind
          (stepAct (before + 1) count unit.name :: (unit.run.trace state).acts) := by
  have settled := settle_trace unit state (by rw [passed]; rfl)
  rw [passed] at settled
  simp only [runFrom, Attempt.trace_write_bind, Attempt.trace_bind_ok settled,
    Outcome.failure?, Trace.behind_behind]
  rfl

theorem runFrom_failed (count before : Nat) (unit : UnitOfWork ε) (rest : List (UnitOfWork ε))
    (state : ε) {failure : UnitFailure}
    (failed : (unit.run.trace state).value.failure? unit.name = some failure)
    : (runFrom count before (unit :: rest)).trace state
      = ⟨.ok (.error failure), (unit.run.trace state).state,
          stepAct (before + 1) count unit.name
            :: ((unit.run.trace state).acts
              ++ (skipped failure rest.length).map fun message => .did (.wrote message))⟩ := by
  have settled := settle_trace unit state (Outcome.cancellation?_of_failure? failed)
  rw [failed] at settled
  simp only [runFrom, Attempt.trace_write_bind, Attempt.trace_bind_ok settled, Trace.behind_behind]
  cases rest with
  | nil => rfl
  | cons next rest => rfl

theorem runFrom_cancelled (count before : Nat) (unit : UnitOfWork ε) (rest : List (UnitOfWork ε))
    (state : ε) {text : String}
    (cancelled : (unit.run.trace state).value.cancellation? = some text)
    : (runFrom count before (unit :: rest)).trace state
      = ⟨.error (.cancelled text), (unit.run.trace state).state,
          stepAct (before + 1) count unit.name :: (unit.run.trace state).acts⟩ := by
  have settled := settle_cancelled unit state cancelled
  simp only [runFrom, Attempt.trace_write_bind, Attempt.trace_bind_error settled]
  rfl

/-- A sequence whose first unit does not pass does nothing behind it but write messages.
Witness: by cases on how the unit ends; it is skipped over what is left, or breaks the request off.
-/
theorem runFrom_halted (count before : Nat) (unit : UnitOfWork ε) (rest : List (UnitOfWork ε))
    (state : ε) (halted : (unit.run.trace state).value ≠ .passed)
    : ∃ messages : List Message,
        ((runFrom count before (unit :: rest)).trace state).acts
        = stepAct (before + 1) count unit.name
          :: ((unit.run.trace state).acts
            ++ messages.map fun message => .did (.wrote message)) := by
  rcases Outcome.settled unit.name (unit.run.trace state).value with
    passed | ⟨failure, failed⟩ | ⟨text, cancelled⟩
  · exact absurd passed halted
  · rw [runFrom_failed count before unit rest state failed]
    exact ⟨skipped failure rest.length, rfl⟩
  · rw [runFrom_cancelled count before unit rest state cancelled]
    exact ⟨[], by simp⟩

/-- A sequence starts with its first unit, and then does nothing but what the others do, besides
writing messages. Witness: by cases on whether the first unit passes.
-/
theorem runFrom_head {P : Act → Prop} (writing : ∀ message, P (.did (.wrote message)))
    (count before : Nat) (unit : UnitOfWork ε) {rest : List (UnitOfWork ε)}
    (every : ∀ unit ∈ rest, unit.Every P) (state : ε)
    : ∃ more : List Act,
        ((runFrom count before (unit :: rest)).trace state).acts
        = stepAct (before + 1) count unit.name :: ((unit.run.trace state).acts ++ more)
        ∧ ∀ act ∈ more, P act := by
  by_cases passed : (unit.run.trace state).value = .passed
  · rw [runFrom_passed count before unit rest state passed]
    exact ⟨_, rfl, runFrom_every writing count (before + 1) every _⟩
  · obtain ⟨messages, acts⟩ := runFrom_halted count before unit rest state passed
    refine ⟨_, acts, ?_⟩
    intro act member
    obtain ⟨message, _, rfl⟩ := List.mem_map.mp member
    exact writing message

end Group

-----------------------------------------------------------------------------------------
-- Jobs in sequence
-----------------------------------------------------------------------------------------

/-- The job of a stage that has one. -/
def Catalog.Stage.job? : Catalog.Stage → Option JobSpec
  | .job spec => some spec
  | .idle _ => none

/-- `InSequence specs jobs result` says that of `specs` each job started when the one before it had
passed, up to the first that failed, and that the result is the failure of that one.
-/
inductive InSequence
    : List JobSpec → List (JobSpec × Option Outcome) → Except UnitFailure Unit → Prop where
  | done : InSequence [] [] (.ok ())
  | passed {spec rest jobs result} (later : InSequence rest jobs result)
    : InSequence (spec :: rest) ((spec, none) :: (spec, some .passed) :: jobs) result
  | failed {spec rest outcome failure} (failed : outcome.failure? spec.name = some failure)
    : InSequence (spec :: rest) [(spec, none), (spec, some outcome)] (.error failure)

namespace InSequence

variable {specs : List JobSpec} {jobs : List (JobSpec × Option Outcome)}
  {result : Except UnitFailure Unit}

def start? (entry : JobSpec × Option Outcome) : Option JobSpec :=
  match entry.2 with
  | none => some entry.1
  | some _ => none

/-- Jobs that all ran and passed are those that started, by induction on them. -/
theorem filterMap_passed (specs : List JobSpec)
    : (specs.flatMap fun spec => [(spec, none), (spec, some .passed)]).filterMap start?
      = specs := by
  induction specs with
  | nil => rfl
  | cons spec rest ih =>
      rw [List.flatMap_cons, List.filterMap_append, ih]
      rfl

/-- The jobs that start are the first ones of all, in order, by induction on the sequence. -/
theorem starts (sequence : InSequence specs jobs result)
    : jobs.filterMap start? <+: specs := by
  induction sequence with
  | done => exact List.nil_prefix
  | passed _ ih => exact List.cons_prefix_cons.mpr ⟨rfl, ih⟩
  | failed _ => exact List.cons_prefix_cons.mpr ⟨rfl, List.nil_prefix⟩

/-- A sequence comes to nothing but success exactly when each of its jobs ran and passed.
Witness: induction on the sequence; the failed job at its end is none that passed.
-/
theorem ok_iff (sequence : InSequence specs jobs result)
    : result = .ok () ↔ jobs = specs.flatMap fun spec => [(spec, none), (spec, some .passed)] := by
  induction sequence with
  | done => simp
  | passed _ ih => simpa using ih
  | @failed spec rest outcome failure failed =>
      have different : outcome ≠ .passed := by
        rintro rfl
        cases failed
      simp [different]

/-- The last job of a sequence that fails is the one that failed, and all before it passed, by
induction on the sequence.
-/
theorem failed_last (sequence : InSequence specs jobs result) {failure : UnitFailure}
    (broken : result = .error failure)
    : ∃ before spec outcome,
        jobs
        = List.flatMap (fun spec => [(spec, none), (spec, some .passed)]) before
          ++ [(spec, none), (spec, some outcome)]
        ∧ outcome.failure? spec.name = some failure := by
  induction sequence with
  | done => cases broken
  | @passed spec _ _ _ _ ih =>
      obtain ⟨before, last, outcome, rfl, failed⟩ := ih broken
      exact ⟨spec :: before, last, outcome, rfl, failed⟩
  | @failed spec _ outcome _ failed =>
      cases broken
      exact ⟨[], spec, outcome, rfl, failed⟩

/-- Behind first jobs that are different and have all passed, a sequence is that of the others.
Witness: induction on the first jobs; none of them is the one that failed.
-/
theorem behind_passed {first rest : List JobSpec}
    (sequence : InSequence (first ++ rest) jobs result) (different : first.Nodup)
    (passed : ∀ spec ∈ first, (spec, some Outcome.passed) ∈ jobs)
    : ∃ later,
        jobs = first.flatMap (fun spec => [(spec, none), (spec, some .passed)]) ++ later
        ∧ InSequence rest later result := by
  induction first generalizing jobs with
  | nil => exact ⟨jobs, rfl, sequence⟩
  | cons spec first ih =>
      obtain ⟨absent, different⟩ := List.nodup_cons.mp different
      obtain ⟨own, others⟩ := List.forall_mem_cons.mp passed
      cases sequence with
      | @passed _ _ entries _ later =>
          have still : ∀ other ∈ first, (other, some Outcome.passed) ∈ entries := by
            intro other member
            have unlike : other ≠ spec := fun same => absent (same ▸ member)
            simpa [unlike] using others other member
          obtain ⟨last, rfl, sequence⟩ := ih later different still
          exact ⟨last, rfl, sequence⟩
      | @failed _ _ outcome failure failed =>
          have same : outcome = .passed := by simpa [eq_comm] using own
          rw [same] at failed
          cases failed

/-- A sequence of one job comes to the failure that its outcome counts as, if to any. -/
theorem of_one {spec : JobSpec} (sequence : InSequence [spec] jobs result)
    : ∃ outcome : Outcome,
        jobs = [(spec, none), (spec, some outcome)]
        ∧ result = match outcome.failure? spec.name with
            | none => .ok ()
            | some failure => .error failure := by
  cases sequence with
  | passed later =>
      cases later
      exact ⟨.passed, rfl, rfl⟩
  | @failed _ _ outcome failure failed => exact ⟨outcome, rfl, by rw [failed]⟩

end InSequence

-----------------------------------------------------------------------------------------
-- Stages in sequence
-----------------------------------------------------------------------------------------

/-- The last of the acts is no message of success. -/
def EndsShort (acts : List Act) : Prop :=
  ∃ earlier last, acts = earlier ++ [last] ∧ ∀ text, last ≠ .did (.wrote (.success text))

theorem EndsShort.behind {acts : List Act} (before : List Act) (short : EndsShort acts)
    : EndsShort (before ++ acts) := by
  obtain ⟨earlier, last, rfl, other⟩ := short
  exact ⟨before ++ earlier, last, (List.append_assoc _ _ _).symm, other⟩

theorem EndsShort.getLast?_ne {acts : List Act} (short : EndsShort acts) (text : String)
    : acts.getLast? ≠ some (.did (.wrote (.success text))) := by
  obtain ⟨earlier, last, rfl, other⟩ := short
  rw [List.getLast?_concat]
  exact fun same => other text (Option.some.inj same)

/-- The trace of a sequence that comes to a result: the jobs went in sequence, and the acts end
short if one of them failed.
-/
def RunsInSequence (specs : List JobSpec)
    (trace : Trace Act ε (Except Fault (Except UnitFailure Unit)))
    : Prop :=
  ∃ result,
    trace.value = .ok result
    ∧ InSequence specs (trace.acts.filterMap Act.job?) result
    ∧ (result ≠ .ok () → EndsShort trace.acts)

namespace RunsInSequence

variable {specs : List JobSpec} {trace : Trace Act ε (Except Fault (Except UnitFailure Unit))}
  {before : List Act}

/-- A sequence may be preceded by anything but jobs. -/
theorem behind_other (runs : RunsInSequence specs trace)
    (other : before.filterMap Act.job? = [])
    : RunsInSequence specs (trace.behind before) := by
  obtain ⟨result, value, sequence, short⟩ := runs
  refine ⟨result, value, ?_, fun failed => (short failed).behind before⟩
  rw [Trace.behind_acts, List.filterMap_append, other, List.nil_append]
  exact sequence

/-- A sequence may be preceded by a job that passes. -/
theorem behind_passed {spec : JobSpec} (runs : RunsInSequence specs trace)
    (jobs : before.filterMap Act.job? = [(spec, none), (spec, some .passed)])
    : RunsInSequence (spec :: specs) (trace.behind before) := by
  obtain ⟨result, value, sequence, short⟩ := runs
  refine ⟨result, value, ?_, fun failed => (short failed).behind before⟩
  rw [Trace.behind_acts, List.filterMap_append, jobs]
  exact .passed sequence

end RunsInSequence

theorem JobSpec.unit_run_jobs (executor : Executor ε) (spec : JobSpec) (state : ε)
    : ((spec.unit executor).run.trace state).acts.filterMap Act.job?
      = [(spec, none), (spec, some ((spec.unit executor).run.trace state).value)] := by
  obtain ⟨deeds, acts⟩ := JobSpec.unit_run executor spec state
  rw [acts, List.filterMap_cons, List.filterMap_append, Act.filterMap_did fun _ => rfl]
  rfl

/-- A job on its own starts once. -/
theorem JobSpec.unit_run_starts (executor : Executor ε) (spec : JobSpec) (state : ε)
    : ((spec.unit executor).run.trace state).acts.filterMap Act.start? = [spec] := by
  obtain ⟨deeds, acts⟩ := JobSpec.unit_run executor spec state
  rw [acts, List.filterMap_cons, List.filterMap_append, Act.filterMap_did fun _ => rfl]
  rfl

/-- A sequence that ends with a failed job ends short.
Witness: behind the end of the job there is at most the warning that others are skipped.
-/
theorem endsShort_failed (executor : Executor ε) (spec : JobSpec) (state : ε)
    (failure : UnitFailure) (left : Nat)
    : EndsShort
        (((spec.unit executor).run.trace state).acts
          ++ (Group.skipped failure left).map fun message => .did (.wrote message)) := by
  by_cases all : left = 0
  · obtain ⟨deeds, acts⟩ := JobSpec.unit_run executor spec state
    rw [acts, Group.skipped, if_pos all, List.map_nil, List.append_nil]
    exact ⟨.started spec :: deeds.map .did, _, rfl, fun text same => by cases same⟩
  · rw [Group.skipped, if_neg all]
    exact ⟨_, _, rfl, fun text same => by cases same⟩

/-- Stages that no cancellation breaks off run in sequence, as far as they are jobs.
Witness: induction on the stages; what fails ends the sequence, and what passes goes before it.
-/
theorem Group.runFrom_inSequence {services : Services ε}
    (uncancelled : services.executor.Uncancelled) (count before : Nat)
    (stages : List Catalog.Stage) (state : ε)
    : RunsInSequence (stages.filterMap Catalog.Stage.job?)
        ((runFrom count before (stages.map services.stage)).trace state) := by
  induction stages generalizing before state with
  | nil => exact ⟨.ok (), rfl, .done, fun failed => absurd rfl failed⟩
  | cons stage rest ih =>
      cases stage with
      | idle name =>
          -- an idle stage always passes, and shows no job
          rw [List.map_cons, Services.stage, runFrom_passed count before _ _ state rfl]
          exact (ih (before + 1) state).behind_other rfl
      | job spec =>
          rw [List.map_cons, List.filterMap_cons]
          have jobs := JobSpec.unit_run_jobs services.executor spec state
          rcases Outcome.settled spec.name
            ((spec.unit services.executor).run.trace state).value with
            passed | ⟨failure, failed⟩ | ⟨text, cancelled⟩
          · rw [Services.stage, Services.unit, runFrom_passed count before _ _ state passed]
            rw [passed] at jobs
            exact (ih (before + 1) _).behind_passed jobs
          · rw [Services.stage, Services.unit, runFrom_failed count before _ _ state failed]
            refine ⟨.error failure, rfl, ?_, fun _ => ?_⟩
            · rw [List.filterMap_cons, List.filterMap_append, jobs,
                Act.filterMap_wrote fun _ => rfl]
              exact .failed failed
            · exact (endsShort_failed services.executor spec state failure _).behind [_]
          · have running := (uncancelled.unit spec).run state
            rw [cancelled] at running
            cases running

end Conductor
