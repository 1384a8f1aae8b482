import Conductor.Check
import Conductor.Proofs.Composition
import Conductor.Services

/-! The acts of jobs and checks. Whatever runs jobs and takes reports can only do deeds in between:
the start and the end of a job, and the handing over and delivery of a report, are acts of the
units themselves.
-/

namespace Conductor

variable {ε : Type}

-----------------------------------------------------------------------------------------
-- Jobs
-----------------------------------------------------------------------------------------

namespace JobSpec

/-- On each of its courses a job starts, does the deeds of the executor, and ends as the executor
does.
-/
theorem unit_goes {executor : Executor ε} {spec : JobSpec} {acts : List Act} {outcome : Outcome}
    (goes : (spec.unit executor).work.Goes acts outcome)
    : ∃ deeds,
        (executor spec).Goes deeds outcome
        ∧ acts = .started spec :: (deeds.map .did ++ [.ended spec outcome]) := by
  obtain ⟨_, _, _, started, going, rfl⟩ := goes.of_bind
  obtain ⟨_, own, _, ran, ending, rfl⟩ := going.of_bind
  obtain ⟨deeds, course, rfl⟩ := ran.of_mapActs
  obtain ⟨_, _, _, ended, last, rfl⟩ := ending.of_bind
  obtain ⟨rfl, rfl⟩ := last.of_pure
  refine ⟨deeds, course, ?_⟩
  rw [started.of_act, ended.of_act]
  rfl

/-- A job starts with its own act. -/
theorem unit_turn (executor : Executor ε) (spec : JobSpec) (state : ε)
    : ∃ more, ((spec.unit executor).work.turn.trace state).acts = .started spec :: more :=
  ⟨_, rfl⟩

/-- A job on its own starts, does the deeds of the executor and ends. -/
theorem unit_run_trace (executor : Executor ε) (spec : JobSpec) (state : ε)
    : let own := (executor spec).alone.trace state
      (spec.unit executor).run.trace state
      = ⟨own.value, own.state,
          .started spec :: (own.acts.map .did ++ [.ended spec own.value])⟩ := by
  simp [UnitOfWork.run, unit, Trace.behind]

/-- Between its start and its end a job on its own does deeds alone. -/
theorem unit_run (executor : Executor ε) (spec : JobSpec) (state : ε)
    : ∃ deeds : List Deed,
        ((spec.unit executor).run.trace state).acts
        = .started spec
          :: (deeds.map .did ++ [.ended spec ((spec.unit executor).run.trace state).value]) := by
  rw [unit_run_trace]
  exact ⟨_, rfl⟩

/-- A job does nothing but start, end, and do deeds in between. -/
theorem unit_every {P : Act → Prop} (executor : Executor ε) {spec : JobSpec}
    (starting : P (.started spec)) (ending : ∀ outcome, P (.ended spec outcome))
    (doing : ∀ deed, P (.did deed))
    : (spec.unit executor).Every P := by
  intro acts outcome goes
  obtain ⟨deeds, _, rfl⟩ := unit_goes goes
  refine ⟨List.forall_mem_cons.mpr ⟨starting, List.forall_mem_append.mpr ⟨?_, ?_⟩⟩, trivial⟩
  · exact List.forall_mem_map.mpr fun deed _ => doing deed
  · exact List.forall_mem_singleton.mpr (ending outcome)

end JobSpec

namespace Executor

/-- No job that the executor runs is cancelled: it passes, fails, or breaks off with an error. -/
def Uncancelled (executor : Executor ε) : Prop :=
  ∀ spec, (executor spec).Uncancelled

theorem Uncancelled.unit {executor : Executor ε} (uncancelled : executor.Uncancelled)
    (spec : JobSpec)
    : (spec.unit executor).Uncancelled := by
  intro acts outcome goes
  obtain ⟨deeds, course, _⟩ := JobSpec.unit_goes goes
  exact uncancelled spec deeds outcome course

/-- A dry run shows the plan of a job and lets it pass. -/
theorem dryRun_goes {spec : JobSpec} {deeds : List Deed} {outcome : Outcome}
    (goes : (dryRun spec : Async Deed ε Outcome).Goes deeds outcome)
    : deeds = spec.plan.map .wrote ∧ outcome = .passed := by
  obtain ⟨_, _, _, said, last, rfl⟩ := goes.of_bind
  obtain ⟨_, rfl, _⟩ := said.of_ofRun
  obtain ⟨rfl, rfl⟩ := last.of_pure
  exact ⟨List.append_nil _, rfl⟩

theorem dryRun_uncancelled : (dryRun : Executor ε).Uncancelled :=
  fun _ _ _ goes => (dryRun_goes goes).2 ▸ rfl

section Docker

namespace DockerSettings

/-- What a job in a container says before its call. -/
def announcement (spec : JobSpec) : Message :=
  .dim (spec.name ++ ": docker run " ++ spec.image)

/-- The outcome of a job in a container whose call ends in a given way. -/
def outcome (settings : DockerSettings) (spec : JobSpec) (ending : ChildProcess.Ending) : Outcome :=
  match ChildProcess.outcome (settings.call spec) ending with
  | .error failure => .failed (callFailure spec failure)
  | .ok _ => .passed

/-- What a job in a container says of a call that ends in a given way. -/
def conclusion (settings : DockerSettings) (spec : JobSpec) (ending : ChildProcess.Ending)
    : List Message :=
  match ChildProcess.outcome (settings.call spec) ending with
  | .error _ => []
  | .ok _ => [.success spec.name]

end DockerSettings

variable (settings : DockerSettings) (launch : Launcher ε) (spec : JobSpec)

/-- A job in a container announces itself, gives up control once, makes its call, and says what it
has to say of the end of the call.
-/
theorem docker_eq
    : docker settings launch spec = (do
        Async.say [DockerSettings.announcement spec]
        Async.pause
        Async.act (.called (settings.call spec))
        let ending ← Async.ofRun (Run.change (launch (settings.call spec)))
        Async.say (settings.conclusion spec ending)
        return settings.outcome spec ending) := by
  have called : (fun ending : ChildProcess.Ending =>
        match ChildProcess.outcome (settings.call spec) ending with
        | .error failure => return .failed (callFailure spec failure)
        | .ok _ => do
          Async.say [.success spec.name]
          return .passed)
      = fun ending => (do
        Async.say (settings.conclusion spec ending)
        return settings.outcome spec ending : Async Deed ε Outcome) := by
    funext ending
    unfold DockerSettings.conclusion DockerSettings.outcome
    cases ChildProcess.outcome (settings.call spec) ending <;> rfl
  unfold docker
  rw [← called]
  rfl

/-- On each of its courses a job in a container announces itself, makes one call, and ends as this
does.
-/
theorem docker_goes {deeds : List Deed} {outcome : Outcome}
    (goes : (docker settings launch spec).Goes deeds outcome)
    : ∃ later,
        let call := settings.call spec
        let ending := (launch call later).1
        deeds
          = .wrote (DockerSettings.announcement spec)
            :: .called call :: (settings.conclusion spec ending).map .wrote
        ∧ outcome = settings.outcome spec ending := by
  rw [docker_eq] at goes
  obtain ⟨_, _, _, announced, waiting, rfl⟩ := goes.of_bind
  obtain ⟨_, _, _, paused, calling, rfl⟩ := waiting.of_bind
  obtain ⟨_, _, _, called, changing, rfl⟩ := calling.of_bind
  obtain ⟨_, ending, _, changed, concluding, rfl⟩ := changing.of_bind
  obtain ⟨_, _, _, said, last, rfl⟩ := concluding.of_bind
  obtain ⟨_, rfl, _⟩ := announced.of_ofRun
  obtain ⟨later, rfl, rfl⟩ := changed.of_ofRun
  obtain ⟨_, rfl, _⟩ := said.of_ofRun
  obtain ⟨rfl, rfl⟩ := last.of_pure
  rw [paused.of_pause, called.of_act]
  exact ⟨later, by simp [Run.say], rfl⟩

/-- Alone, a job in a container makes its call from where it starts. -/
theorem docker_alone (state : ε)
    : let call := settings.call spec
      let ending := (launch call state).1
      (docker settings launch spec).alone.trace state
      = ⟨settings.outcome spec ending, (launch call state).2,
          .wrote (DockerSettings.announcement spec)
            :: .called call :: (settings.conclusion spec ending).map .wrote⟩ := by
  simp [docker_eq, Run.say, Trace.behind]

/-- A job in a container as a unit of work, step by step. -/
theorem docker_unit
    : (spec.unit (docker settings launch)).work = (do
        Async.act (.started spec)
        Async.ofRun (Run.write [DockerSettings.announcement spec])
        Async.pause
        Async.act (.did (.called (settings.call spec)))
        let ending ← Async.ofRun (Run.change (launch (settings.call spec)))
        Async.ofRun (Run.write (settings.conclusion spec ending))
        Async.act (.ended spec (settings.outcome spec ending))
        return settings.outcome spec ending) := by
  simp only [JobSpec.unit, docker_eq, Async.mapActs_bind, Async.mapActs_ofRun, Async.mapActs_pause,
    Async.mapActs_pure, Run.mapActs_say, Run.mapActs_act, Run.mapActs_change, bind_assoc, pure_bind]

/-- A job in a container is never cancelled: its call ends in success or in a failure of the job. -/
theorem docker_uncancelled : (docker settings launch).Uncancelled := by
  intro spec deeds outcome goes
  obtain ⟨later, _, rfl⟩ := docker_goes settings launch spec goes
  unfold DockerSettings.outcome
  split <;> rfl

end Docker

end Executor

theorem UnitOfWork.Uncancelled.run {unit : UnitOfWork ε} (uncancelled : unit.Uncancelled)
    (state : ε)
    : (unit.run.trace state).value.cancellation? = none :=
  uncancelled _ _ (unit.run_goes state)


-----------------------------------------------------------------------------------------
-- Checks
-----------------------------------------------------------------------------------------

/-- An outcome counts as a failure unless it is a pass or a cancellation, by cases on it. -/
theorem Outcome.failure?_eq_none_iff (outcome : Outcome) (name : String)
    (running : outcome.cancellation? = none)
    : outcome.failure? name = none ↔ outcome = .passed := by
  rcases outcome with _ | failure | ⟨trouble | text⟩
  · simp [failure?]
  · simp [failure?]
  · simp [failure?]
  · cases running

/-- The console takes a report by writing its messages. -/
theorem Reporter.console_goes {report : StatusReport} {deeds : List Deed}
    {answer : Except Breakdown Unit}
    (goes : (Reporter.console report : Async Deed ε _).Goes deeds answer)
    : deeds = report.messages.map .wrote ∧ answer = .ok () := by
  obtain ⟨_, _, _, said, last, rfl⟩ := goes.of_bind
  obtain ⟨_, rfl, _⟩ := said.of_ofRun
  obtain ⟨rfl, rfl⟩ := last.of_pure
  exact ⟨List.append_nil _, rfl⟩

/-- What broke the delivery of a report off, if anything did. -/
def Reporter.breakdown? : Except Breakdown Unit → Option Breakdown
  | .error breakdown => some breakdown
  | .ok () => none

namespace Check

/-- A course of a check is one of its job, followed by one of its conclusion. -/
theorem unit_goes {reporter : Reporter ε} {check : Check ε} {acts : List Act} {outcome : Outcome}
    (goes : (check.unit reporter).work.Goes acts outcome)
    : ∃ own job after,
        check.job.work.Goes own job
        ∧ (check.conclude reporter job).Goes after outcome
        ∧ acts = own ++ after :=
  goes.of_bind

/-- How a check ends whose job has the given failure, if any, and whose report was broken off by the
given breakdown, if by any.
-/
def result (failure : Option UnitFailure) : Option Breakdown → Outcome
  | some breakdown => .broken breakdown
  | none => .ofFailure? failure

/-- A check whose job is not cancelled passes exactly if the job did and the delivery came through,
by cases on what broke the delivery off.
-/
theorem result_eq_passed_iff {name : String} {outcome : Outcome}
    (running : outcome.cancellation? = none) (breakdown : Option Breakdown)
    : result (outcome.failure? name) breakdown = .passed
      ↔ outcome = .passed ∧ breakdown = none := by
  cases breakdown with
  | some breakdown => simp [result]
  | none =>
      rw [← outcome.failure?_eq_none_iff name running, result]
      cases outcome.failure? name <;> simp [Outcome.ofFailure?]

/-- A check whose job is not cancelled hands its report over and ends with the delivery. In between
come the deeds of the reporter, on one of the courses that it may take with the report.
-/
theorem conclude_reported {reporter : Reporter ε} {check : Check ε} {outcome last : Outcome}
    {acts : List Act} (running : outcome.cancellation? = none)
    (goes : (check.conclude reporter outcome).Goes acts last)
    : let failure := outcome.failure? check.job.name
      let report := check.report failure
      ∃ deeds answer,
        (reporter report).Goes deeds answer
        ∧ acts
          = .reported report
            :: (deeds.map .did ++ [.delivered report (Reporter.breakdown? answer)])
        ∧ last = result failure (Reporter.breakdown? answer) := by
  simp only [conclude, running] at goes
  obtain ⟨_, _, _, reported, going, rfl⟩ := goes.of_bind
  obtain ⟨_, answer, _, answered, ending, rfl⟩ := going.of_bind
  obtain ⟨deeds, course, rfl⟩ := answered.of_mapActs
  refine ⟨deeds, answer, course, ?_⟩
  rw [reported.of_act]
  rcases answer with breakdown | ⟨⟩
  all_goals
    obtain ⟨_, _, _, delivered, last, rfl⟩ := ending.of_bind
    obtain ⟨rfl, rfl⟩ := last.of_pure
    rw [delivered.of_act]
    exact ⟨rfl, rfl⟩

/-- A check whose job was cancelled concludes at once, without a report. -/
theorem conclude_cancelled {reporter : Reporter ε} {check : Check ε} {outcome last : Outcome}
    {acts : List Act} {text : String} (cancelled : outcome.cancellation? = some text)
    (goes : (check.conclude reporter outcome).Goes acts last)
    : acts = [] ∧ last = outcome := by
  rcases outcome with _ | failure | ⟨trouble | text⟩ <;> cases cancelled
  exact goes.of_pure

/-- A check is of a kind if its job and its conclusions are. -/
theorem unit_isOf {kind : Run.Kind ε} (closed : kind.Closed) {reporter : Reporter ε}
    {check : Check ε} (job : check.job.IsOf kind)
    (concluding : ∀ outcome, (check.conclude reporter outcome).IsOf kind)
    : (check.unit reporter).IsOf kind :=
  job.bind closed fun _ outcome _ => concluding outcome

/-- A check concludes with nothing but its report, the end of the delivery, and deeds in between. -/
theorem conclude_every {P : Act → Prop} {reporter : Reporter ε} {check : Check ε}
    (doing : ∀ deed, P (.did deed)) (reporting : ∀ failure, P (.reported (check.report failure)))
    (delivering
      : ∀ failure deeds answer,
          (reporter (check.report failure)).Goes deeds answer
          → P (.delivered (check.report failure) (Reporter.breakdown? answer)))
    (outcome : Outcome)
    : (check.conclude reporter outcome).Every P := by
  intro acts last goes
  refine ⟨?_, trivial⟩
  cases cancelled : outcome.cancellation? with
  | some text =>
      rw [(conclude_cancelled cancelled goes).1]
      exact List.forall_mem_nil _
  | none =>
      obtain ⟨deeds, answer, course, rfl, _⟩ := conclude_reported cancelled goes
      refine List.forall_mem_cons.mpr ⟨reporting _, List.forall_mem_append.mpr ⟨?_, ?_⟩⟩
      · exact List.forall_mem_map.mpr fun deed _ => doing deed
      · exact List.forall_mem_singleton.mpr (delivering _ _ _ course)

/-- All acts of a check satisfy what those of its job do and those of its conclusions. -/
theorem unit_every {P : Act → Prop} {reporter : Reporter ε} {check : Check ε}
    (job : check.job.Every P) (concluding : ∀ outcome, (check.conclude reporter outcome).Every P)
    : (check.unit reporter).Every P := by
  intro acts outcome goes
  obtain ⟨own, mid, after, before, ending, rfl⟩ := unit_goes goes
  exact ⟨List.forall_mem_append.mpr ⟨(job _ _ before).1, (concluding mid _ _ ending).1⟩, trivial⟩

end Check

-----------------------------------------------------------------------------------------
-- Acts about a name
-----------------------------------------------------------------------------------------

/-- The name of the job or check that an act is about. -/
def Act.about? : Act → Option String
  | .did _ => none
  | .built _ => none
  | .started spec => some spec.name
  | .ended spec _ => some spec.name
  | .reported report => some report.check
  | .delivered report _ => some report.check

/-- An act that is not about the job or check of a name. -/
def Act.Spares (name : String) (act : Act) : Prop :=
  act.about? ≠ some name

theorem Act.spares_did (name : String) (deed : Deed) : (Act.did deed).Spares name := nofun

/-- A job of another name spares a name. -/
theorem JobSpec.unit_spares (executor : Executor ε) {spec : JobSpec} {name : String}
    (other : spec.name ≠ name)
    : (spec.unit executor).Every (Act.Spares name) :=
  unit_every executor (fun same => other (Option.some.inj same))
    (fun _ same => other (Option.some.inj same)) (Act.spares_did name)

/-- A check of a job of another name spares a name.
Witness: the job does, and what is reported goes by the name of the job.
-/
theorem Check.unit_spares (reporter : Reporter ε) (executor : Executor ε) {check : Check ε}
    {spec : JobSpec} {name : String} (job : check.job = spec.unit executor)
    (other : spec.name ≠ name)
    : (check.unit reporter).Every (Act.Spares name) := by
  have every := JobSpec.unit_spares executor other
  rw [← job] at every
  have reported : ∀ failure, (check.report failure).check ≠ name := by
    intro failure
    rw [report, job]
    exact other
  refine unit_every every (conclude_every (Act.spares_did name) ?_ ?_)
  · exact fun failure same => reported failure (Option.some.inj same)
  · exact fun failure _ _ _ same => reported failure (Option.some.inj same)

end Conductor
