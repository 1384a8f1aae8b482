import Conductor.Proofs.JobActs
import Conductor.Proofs.ReasonsAside
import Conductor.Proofs.RequestedCheck
import Conductor.Proofs.SuiteOutcome

/-! Events, reasons aside. What becomes of docker calls shows on the console, while an event is
answered, by their exit codes alone; so the answer looks the same whatever else the calls come to.
-/

namespace Conductor

variable {ε : Type}

-----------------------------------------------------------------------------------------
-- Jobs in containers
-----------------------------------------------------------------------------------------

namespace ChildProcess

/-- The exit code that a call ends with, or that is written down for it. -/
def Ending.code : Ending → Int
  | .exited code _ _ => code
  | .notStarted _ => noExitCode
  | .timedOut _ => noExitCode

/-- A call whose code is zero is a success, and any other is a failure with its code. -/
theorem outcome_cases (call : Call) (ending : Ending)
    : (∃ stdout, outcome call ending = .ok stdout ∧ ending.code = 0)
      ∨ ∃ failure,
          outcome call ending = .error failure
          ∧ ending.code ≠ 0
          ∧ failure.exitCode = ending.code := by
  have noSuccess : noExitCode ≠ 0 := by decide
  cases ending with
  | exited code stdout stderr =>
      by_cases success : code = 0
      · exact Or.inl ⟨stdout, if_pos success, success⟩
      · exact Or.inr ⟨_, if_neg success, success, rfl⟩
  | notStarted reason => exact Or.inr ⟨_, rfl, noSuccess, rfl⟩
  | timedOut stdout => exact Or.inr ⟨_, rfl, noSuccess, rfl⟩

end ChildProcess

namespace Executor

/-- Two launchers of which every call ends in the same state and with the same code. -/
def Launcher.SameCodes (launch launch' : Launcher ε) : Prop :=
  ∀ call state,
    (launch call state).2 = (launch' call state).2
    ∧ (launch call state).1.code = (launch' call state).1.code

/-- What comes of a call that ends with the same code is the same, reasons aside, and is told in the
same words. Witness: by cases on what the call amounts to with either end.
-/
theorem DockerSettings.outcome_aside (settings : DockerSettings) (spec : JobSpec)
    {ending ending' : ChildProcess.Ending} (code : ending.code = ending'.code)
    : (settings.outcome spec ending).Aside (settings.outcome spec ending')
      ∧ settings.conclusion spec ending = settings.conclusion spec ending' := by
  unfold outcome conclusion
  rcases ChildProcess.outcome_cases (settings.call spec) ending with
    ⟨_, amounts, success⟩ | ⟨failure, amounts, failed, exitCode⟩
  · rcases ChildProcess.outcome_cases (settings.call spec) ending' with
      ⟨_, amounts', _⟩ | ⟨_, _, failed', _⟩
    · rw [amounts, amounts']
      exact ⟨.same _, rfl⟩
    · exact absurd (code ▸ success) failed'
  · rcases ChildProcess.outcome_cases (settings.call spec) ending' with
      ⟨_, _, success'⟩ | ⟨failure', amounts', _, exitCode'⟩
    · exact absurd (code.trans success') failed
    · have codes : failure.exitCode = failure'.exitCode := by rw [exitCode, exitCode', code]
      have both : (callFailure spec failure).Aside (callFailure spec failure') :=
        ⟨rfl, congrArg some codes, fun none => by cases none⟩
      rw [amounts, amounts']
      exact ⟨.failed both, rfl⟩

/-- Jobs in containers whose calls end with the same codes look the same. -/
theorem docker_aside (settings : DockerSettings) {launch launch' : Launcher ε}
    (same : launch.SameCodes launch') (spec : JobSpec)
    : (spec.unit (docker settings launch)).Aside (spec.unit (docker settings launch')) where
  name := rfl
  work := by
    have called
      : (Run.change (launch (settings.call spec))).Aside (β := ChildProcess.Ending)
          (fun ending ending' => ending.code = ending'.code)
          (Run.change (launch' (settings.call spec))) := by
      intro state
      obtain ⟨next, code⟩ := same (settings.call spec) state
      exact ⟨code, next, rfl⟩
    rw [docker_unit, docker_unit]
    refine .bindSame _ fun _ => .bindSame _ fun _ => .bindSame _ fun _ => .bindSame _ fun _ => ?_
    refine (Async.Aside.ofRun called).bind fun ending ending' code => ?_
    obtain ⟨outcome, conclusion⟩ := settings.outcome_aside spec code
    rw [conclusion]
    refine .bindSame _ fun _ => ?_
    have ended : (Run.act (.ended spec (settings.outcome spec ending))).Aside (ε := ε) (· = ·)
        (Run.act (.ended spec (settings.outcome spec ending'))) :=
      fun _ => ⟨rfl, rfl, rfl⟩
    exact (Async.Aside.ofRun ended).bind fun _ _ _ => .pure outcome

end Executor

-----------------------------------------------------------------------------------------
-- Checks
-----------------------------------------------------------------------------------------

/-- Reports on failures that are the same, reasons aside, are the same. -/
theorem Check.report_aside (event : Event) (project : Project) (detailsUrl : String)
    {job job' : UnitOfWork ε} (name : job.name = job'.name) {failure failure' : Option UnitFailure}
    (both : Option.Rel UnitFailure.Aside failure failure')
    : (Suite.checkOf event project detailsUrl job).report failure
      = (Suite.checkOf event project detailsUrl job').report failure' := by
  unfold report Suite.checkOf
  cases both with
  | none => simp only [name, Option.isNone_none, Option.map_none]
  | some both => simp only [name, both.message, Option.isNone_some, Option.map_some]

theorem Outcome.Aside.ofFailure? {failure failure' : Option UnitFailure}
    (both : Option.Rel UnitFailure.Aside failure failure')
    : (Outcome.ofFailure? failure).Aside (Outcome.ofFailure? failure') := by
  cases both with
  | none => exact .same _
  | some both => exact .failed both

/-- Checks conclude alike if their jobs end alike: what they report is the same. -/
theorem Check.conclude_aside (reporter : Reporter ε) {event : Event} {project : Project}
    {detailsUrl : String} {job job' : UnitOfWork ε} (name : job.name = job'.name)
    {outcome outcome' : Outcome} (both : outcome.Aside outcome')
    : ((Suite.checkOf event project detailsUrl job).conclude reporter outcome).Aside Outcome.Aside
        ((Suite.checkOf event project detailsUrl job').conclude reporter outcome') := by
  have named : (Suite.checkOf event project detailsUrl job').job.name
      = (Suite.checkOf event project detailsUrl job).job.name := name.symm
  unfold conclude
  rw [← both.cancellation?]
  cases outcome.cancellation? with
  | some text => exact .pure (.same _)
  | none =>
      dsimp only
      rw [named, ← report_aside event project detailsUrl name (both.failure? _)]
      refine .bindSame _ fun _ => .bindSame _ fun answer => ?_
      rcases answer with breakdown | ⟨⟩
      · exact .bindSame _ fun _ => .pure (.same _)
      · exact .bindSame _ fun _ => .pure (.ofFailure? (both.failure? _))

/-- Checks look the same if their jobs do. -/
theorem Check.unit_aside (reporter : Reporter ε) (event : Event) (project : Project)
    (detailsUrl : String) {job job' : UnitOfWork ε} (both : job.Aside job')
    : ((Suite.checkOf event project detailsUrl job).unit reporter).Aside
        ((Suite.checkOf event project detailsUrl job').unit reporter) where
  name := both.name
  work := both.work.bind fun _ _ same => conclude_aside reporter both.name same

-----------------------------------------------------------------------------------------
-- Failures of requests
-----------------------------------------------------------------------------------------

/-- Two failures of requests that are the same, reasons aside. -/
inductive Failure.Aside : Failure → Failure → Prop where
  | same (failure : Failure) : Aside failure failure
  | unit {failure failure' : UnitFailure} (both : failure.Aside failure')
    : Aside (.unit failure) (.unit failure')
  | group {group group' : Aggregate} (both : group.Aside group')
    : Aside (.group group) (.group group')

theorem Handlers.ofGroup_aside {result result' : Attempt ε (Except Aggregate Unit)}
    (both : result.Aside (ResultsAgree Aggregate.Aside (· = ·)) result')
    : (ofGroup result).Aside (ResultsAgree Failure.Aside (· = ·)) (ofGroup result') := by
  refine both.bind fun _ _ same => ?_
  cases same with
  | error same => exact .pure (.error (.group same))
  | ok => exact .pure (.ok rfl)

-----------------------------------------------------------------------------------------
-- Suites and releases
-----------------------------------------------------------------------------------------

section Services

variable {services : Services ε} {executor : Executor ε}
  (jobs : ∀ spec, (services.unit spec).Aside (spec.unit executor))

include jobs

theorem Services.units_aside (specs : List JobSpec)
    : List.Forall₂ UnitOfWork.Aside (specs.map services.unit) (specs.map (JobSpec.unit executor)) :=
  List.forall₂_map_left_iff.mpr (List.forall₂_map_right_iff.mpr
    (List.forall₂_same.mpr fun spec _ => jobs spec))

namespace Suite

/-- The checks of jobs look the same, built and run together. -/
theorem runChecks_aside (specs : List JobSpec) (event : Event) (project : Project)
    : (runChecks services (specs.map (Factory.ofJob services)) event project).Aside
        (ResultsAgree Aggregate.Aside (· = ·))
        (runChecks { services with executor } (specs.map (Factory.ofJob { services with executor }))
          event project) := by
  have address : Services.detailsUrl { services with executor } event.buildId
      = services.detailsUrl event.buildId := rfl
  unfold runChecks
  rw [address]
  dsimp only
  split
  · exact .throw _ _
  rename_i detailsUrl _
  have building
    : Attempt.Aside (List.Forall₂ UnitOfWork.Aside)
        ((specs.map (Factory.ofJob services)).mapM Factory.run)
        ((specs.map (Factory.ofJob { services with executor })).mapM Factory.run) := by
    intro state
    have built := Factory.mapM_ofJob_run services specs state
    have built' := Factory.mapM_ofJob_run { services with executor } specs state
    unfold Attempt.trace at built built'
    rw [built, built']
    exact ⟨.ok (Services.units_aside jobs specs), rfl, rfl⟩
  refine building.bind fun units units' row => ?_
  rw [List.map_map, List.map_map]
  refine Group.runAll_aside services.schedule ?_
  refine List.forall₂_map_left_iff.mpr (List.forall₂_map_right_iff.mpr ?_)
  exact row.imp fun _ _ both => Check.unit_aside services.reporter event project detailsUrl both

theorem runTests_aside
    : (runTests services).Aside (ResultsAgree Aggregate.Aside (· = ·))
        (runTests { services with executor }) :=
  Group.runAll_aside services.schedule (Services.units_aside jobs _)

/-- The publishing of images looks the same: of a failure its message is told. -/
theorem publishEdge_aside (project : Project)
    : (publishEdge services project).Aside (· = ·)
        (publishEdge { services with executor } project) := by
  refine .bindSame _ fun _ => (settle_aside (jobs _)).bind fun failure failure' both => ?_
  cases both with
  | none => exact .refl _
  | some both =>
      dsimp only
      rw [both.message]
      exact .refl _

/-- Suites look the same, by cases on what their checks come to. -/
theorem run_aside (event : Event) (project : Project)
    : (run services event project).Aside (ResultsAgree Aggregate.Aside (· = ·))
        (run { services with executor } event project) := by
  have checks := runChecks_aside jobs (Catalog.suite services.config) event project
  refine .bindSame _ fun _ => checks.bind fun result result' both => ?_
  cases both with
  | error both => exact .pure (.error both)
  | ok =>
      dsimp only
      split
      · exact (publishEdge_aside jobs project).bind fun _ _ _ => .pure (.ok rfl)
      · exact .pure (.ok rfl)

end Suite

/-- Releases look the same: their stages do. -/
theorem Release.run_aside (project : Project) (version : String)
    : (Release.run services project version).Aside (ResultsAgree Failure.Aside (· = ·))
        (Release.run { services with executor } project version) := by
  unfold run
  dsimp only
  split
  · exact .pure (.error (.same _))
  refine .bindSame _ fun _ => .bindSame _ fun _ => ?_
  have row
    : List.Forall₂ UnitOfWork.Aside
        ((stages services.config project version).1.map services.stage)
        ((stages services.config project version).1.map
          (Services.stage { services with executor })) := by
    refine List.forall₂_map_left_iff.mpr (List.forall₂_map_right_iff.mpr ?_)
    refine List.forall₂_same.mpr fun stage _ => ?_
    cases stage with
    | job spec => exact jobs spec
    | idle name => exact .refl _
  refine (Group.runEach_aside row).bind fun result result' both => ?_
  cases both with
  | error both => exact .pure (.error (.unit both))
  | ok => exact .bindSame _ fun _ => .pure (.ok rfl)

-----------------------------------------------------------------------------------------
-- Events
-----------------------------------------------------------------------------------------

namespace Handlers

variable (event : Event) (project : Project)

theorem checkSuite_aside
    : (checkSuite services event project).Aside (ResultsAgree Failure.Aside (· = ·))
        (checkSuite { services with executor } event project) :=
  ofGroup_aside (Suite.run_aside jobs event project)

/-- Pushes look the same, by way of the suite and the release. -/
theorem push_aside
    : (push services event project).Aside (ResultsAgree Failure.Aside (· = ·))
        (push { services with executor } event project) := by
  refine .bindSame _ fun (version, messages) => .bindSame _ fun _ => ?_
  dsimp only
  split
  · split
    · exact .bindSame _ fun _ => .pure (.ok rfl)
    · exact .pure (.ok rfl)
  refine (checkSuite_aside jobs event project).bind fun _ _ same => ?_
  cases same with
  | error same => exact .pure (.error same)
  | ok =>
      cases version with
      | none => exact .pure (.ok rfl)
      | some version => exact Release.run_aside jobs project version

/-- Requests for one check look the same, by cases on whether a job of the suite is named. -/
theorem checkRun_aside
    : (checkRun services event project).Aside (ResultsAgree Failure.Aside (· = ·))
        (checkRun { services with executor } event project) := by
  refine .bindSame _ fun requested => ?_
  cases requested with
  | none => exact .pure (.error (.same _))
  | some name =>
      dsimp only [CheckRequest.run]
      rcases CheckRequest.known_or_other services.config name with ⟨spec, member, rfl⟩ | other
      · rw [CheckRequest.factory?_suite services member,
          CheckRequest.factory?_suite { services with executor } member]
        exact .bindSame _ fun _ => ofGroup_aside (Suite.runChecks_aside jobs [spec] event project)
      · rw [CheckRequest.factory?_other services other,
          CheckRequest.factory?_other { services with executor } other]
        dsimp only [Suite.factories]
        rw [List.map_map, List.map_map]
        exact .pure (.error (.same _))

theorem exec_aside
    : (exec services event project).Aside (ResultsAgree Failure.Aside (· = ·))
        (exec { services with executor } event project) :=
  ofGroup_aside (Suite.runTests_aside jobs)

theorem e2e_aside
    : (e2e services event project).Aside (ResultsAgree Failure.Aside (· = ·))
        (e2e { services with executor } event project) := by
  refine (settle_aside (jobs _)).bind fun _ _ both => ?_
  cases both with
  | none => exact .pure (.ok rfl)
  | some both => exact .pure (.error (.unit both))

theorem issueComment_aside
    : (issueComment services event project).Aside (ResultsAgree Failure.Aside (· = ·))
        (issueComment { services with executor } event project) := by
  refine .bindSame _ fun verdict => ?_
  cases verdict with
  | accepted => exact checkSuite_aside jobs event project
  | _ => exact .bindSame _ fun _ => .pure (.ok rfl)

/-- All events look the same, by cases on the handler. -/
theorem dispatch_aside
    : ((router services).dispatch event project).Aside (ResultsAgree Failure.Aside (· = ·))
        ((router { services with executor }).dispatch event project) := by
  rw [dispatch_eq, dispatch_eq]
  cases EventKind.ofText? event.kind with
  | none => exact .bindSame _ fun _ => .pure (.ok rfl)
  | some kind =>
      cases kind with
      | push => exact push_aside jobs event project
      | exec => exact exec_aside jobs event project
      | e2e => exact e2e_aside jobs event project
      | checkSuiteRequested => exact checkSuite_aside jobs event project
      | checkSuiteRerequested => exact checkSuite_aside jobs event project
      | checkRunRerequested => exact checkRun_aside jobs event project
      | issueCommentCreated => exact issueComment_aside jobs event project
      | issueCommentEdited => exact issueComment_aside jobs event project

end Handlers

end Services

end Conductor
