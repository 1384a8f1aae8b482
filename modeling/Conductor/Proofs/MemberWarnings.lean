import Conductor.Proofs.RequestedCheck

/-! Members of failed groups. Jobs in containers fail with an exit code, and a group of them that
fails has warned of each of its members, whichever event it was run for.
-/

namespace Conductor

variable {ε α β : Type}

-----------------------------------------------------------------------------------------
-- Failures with an exit code
-----------------------------------------------------------------------------------------

/-- The outcome counts as no failure without an exit code. -/
def Outcome.Coded (outcome : Outcome) : Prop :=
  ∀ name failure, outcome.failure? name = some failure → failure.exitCode ≠ none

/-- On none of its courses the unit ends with a failure without an exit code. -/
def UnitOfWork.Coded (unit : UnitOfWork ε) : Prop :=
  ∀ acts outcome, unit.work.Goes acts outcome → outcome.Coded

theorem Executor.docker_coded (settings : DockerSettings) (launch : Launcher ε) (spec : JobSpec)
    : (spec.unit (docker settings launch)).Coded := by
  intro acts outcome goes name failure counts
  obtain ⟨deeds, course, _⟩ := JobSpec.unit_goes goes
  obtain ⟨later, _, rfl⟩ := docker_goes settings launch spec course
  unfold DockerSettings.outcome at counts
  split at counts <;> cases counts
  nofun

/-- A check whose report comes through ends as its job does, by cases on whether that is cancelled.
-/
theorem Check.unit_coded {check : Check ε} (coded : check.job.Coded)
    : (check.unit .console).Coded := by
  intro acts outcome goes name failure counts
  obtain ⟨own, job, after, running, concluding, _⟩ := unit_goes goes
  cases cancelled : job.cancellation? with
  | some text =>
      obtain ⟨_, rfl⟩ := conclude_cancelled cancelled concluding
      exact coded own _ running name failure counts
  | none =>
      obtain ⟨deeds, answer, course, _, rfl⟩ := conclude_reported cancelled concluding
      obtain ⟨_, rfl⟩ := Reporter.console_goes course
      cases ended : job.failure? check.job.name with
      | none =>
          rw [ended] at counts
          cases counts
      | some other =>
          rw [ended] at counts
          cases counts
          exact coded own _ running _ _ ended

-----------------------------------------------------------------------------------------
-- Warnings
-----------------------------------------------------------------------------------------

/-- Each failure listed by what the attempt comes to has an exit code, and the attempt has warned of
it.
-/
def Attempt.Warns (listed : α → List UnitFailure) (attempt : Attempt ε α) : Prop :=
  ∀ state value,
    (attempt.trace state).value = .ok value
    → ∀ failure ∈ listed value,
        failure.exitCode ≠ none
        ∧ .did (.wrote (.warning failure.message)) ∈ (attempt.trace state).acts

namespace Attempt.Warns

variable {listed : α → List UnitFailure} {listed' : β → List UnitFailure}

/-- There is nothing to warn of. -/
theorem pure {value : α} (silent : listed value = [])
    : (pure value : Attempt ε α).Warns listed := by
  intro state other same failure member
  cases same
  rw [silent] at member
  cases member

/-- An attempt in two parts warns of what it lists if the first part does, and what follows warns of
its own or lists what the first part does.
-/
theorem bind {first : Attempt ε α} {next : α → Attempt ε β} (before : first.Warns listed)
    (after
      : ∀ value,
          (next value).Warns listed'
          ∨ ∃ result, next value = Pure.pure result ∧ listed' result = listed value)
    : (first >>= next).Warns listed' := by
  intro state other through failure member
  rcases trace_bind_cases first next state with ⟨fault, _, ended⟩ | ⟨value, came, ended⟩
  · rw [ended] at through
    cases through
  rw [ended] at through ⊢
  rw [Trace.behind_acts]
  rcases after value with own | ⟨result, ends, same⟩
  · obtain ⟨coded, warned⟩ := own _ other through failure member
    exact ⟨coded, List.mem_append_right _ warned⟩
  · rw [ends] at through
    cases through
    obtain ⟨coded, warned⟩ := before state value came failure (same ▸ member)
    exact ⟨coded, List.mem_append_left _ warned⟩

/-- An attempt whose first part lists nothing warns if the second part does. -/
theorem bindSilent (first : Attempt ε α) {next : α → Attempt ε β}
    (after : ∀ value, (next value).Warns listed')
    : (first >>= next).Warns listed' :=
  have silent : first.Warns fun _ => [] := fun _ _ _ _ member => absurd member List.not_mem_nil
  bind silent fun value => Or.inl (after value)

end Attempt.Warns

-----------------------------------------------------------------------------------------
-- Groups
-----------------------------------------------------------------------------------------

namespace Group

/-- The failures that a group lists in its result. -/
def listed : Except Aggregate Unit → List UnitFailure
  | .error group => group.failures
  | .ok () => []

theorem listed_verdict (failures : List UnitFailure) : listed (verdict failures) = failures := by
  cases failures <;> rfl

/-- Units that fail with an exit code leave only such failures when they run together. -/
theorem failures_coded (schedule : Schedule) {units : List (UnitOfWork ε)}
    (coded : ∀ unit ∈ units, unit.Coded) (state : ε)
    : ∀ failure ∈ failures units ((runTogether schedule units).trace state).value.outcomes,
        failure.exitCode ≠ none := by
  have ended := runTogether_outcomes schedule state coded
  intro failure member
  obtain ⟨⟨unit, place⟩, _, counts⟩ := List.mem_filterMap.mp member
  obtain ⟨outcome, found, counts⟩ := Option.bind_eq_some_iff.mp counts
  obtain ⟨_, _, split, _⟩ := List.lookup_eq_some_iff.mp found
  exact ended (place, outcome) (by simp [split]) _ _ counts

/-- A group of units that fail with an exit code warns of each of its failures.
Witness: the closing of the group, by cases on whether a unit is cancelled.
-/
theorem runAll_warns (schedule : Schedule) {units : List (UnitOfWork ε)}
    (coded : ∀ unit ∈ units, unit.Coded)
    : (runAll schedule units).Warns listed := by
  intro state result through failure member
  by_cases empty : units = []
  · subst empty
    cases through
    cases member
  cases cancelled : ((runTogether schedule units).trace state).value.cancelled with
  | some noted =>
      rw [runAll_broken schedule empty state cancelled] at through
      cases through
  | none =>
      rw [runAll_trace schedule empty state cancelled] at through ⊢
      cases through
      rw [listed_verdict] at member
      refine ⟨failures_coded schedule coded state failure member, ?_⟩
      refine List.mem_cons_of_mem _ (List.mem_append_right _ ?_)
      rw [closing_acts]
      exact List.mem_append_left _ (List.mem_map_of_mem member)

end Group

-----------------------------------------------------------------------------------------
-- Events
-----------------------------------------------------------------------------------------

/-- The failures that a request lists in its result if a group of jobs has failed. -/
def Handlers.listed : Except Failure Unit → List UnitFailure
  | .error (.group group) => group.failures
  | _ => []

section Services

variable {services : Services ε} (jobs : ∀ spec, (services.unit spec).Coded)
  (console : services.reporter = .console) (event : Event) (project : Project)

include jobs console

namespace Suite

/-- The checks of jobs warn of all that fail. -/
theorem runChecks_warns (specs : List JobSpec)
    : (runChecks services (specs.map (Factory.ofJob services)) event project).Warns
        Group.listed := by
  intro state result through
  rcases shown : services.detailsUrl event.buildId with refusal | detailsUrl
  · rw [runChecks_refused services _ event project state shown] at through
    cases through
  rw [runChecks_trace services specs event project state shown] at through ⊢
  have coded
    : ∀ unit ∈ specs.map fun spec =>
          (check services event project detailsUrl spec).unit services.reporter,
        unit.Coded := by
    rw [console]
    exact List.forall_mem_map.mpr fun spec _ => Check.unit_coded (jobs spec)
  intro failure member
  obtain ⟨known, warned⟩ := Group.runAll_warns services.schedule coded state result through _ member
  exact ⟨known, List.mem_append_right _ warned⟩

/-- Suites warn of all jobs that fail: their checks do, and nothing else is listed. -/
theorem run_warns : (run services event project).Warns Group.listed := by
  have checks := runChecks_warns jobs console event project (Catalog.suite services.config)
  refine .bindSilent _ fun _ => .bind checks fun result => ?_
  cases result with
  | error group => exact Or.inr ⟨_, rfl, rfl⟩
  | ok =>
      refine Or.inl ?_
      dsimp only
      split
      · exact .bindSilent _ fun _ => .pure rfl
      · exact .pure rfl

end Suite

omit jobs console in
/-- Releases list no group: their stages run one after the other. -/
theorem Release.run_warns (version : String)
    : (Release.run services project version).Warns Handlers.listed := by
  unfold run
  dsimp only
  cases validated : validate services.config project with
  | error failure =>
      have single : Handlers.listed (.error failure) = [] := by
        unfold validate at validated
        split at validated <;> cases validated
        rfl
      exact .pure single
  | ok =>
      refine .bindSilent _ fun _ => .bindSilent _ fun _ => .bindSilent _ fun result => ?_
      cases result with
      | error failure => exact .pure rfl
      | ok => exact .bindSilent _ fun _ => .pure rfl

namespace Handlers

omit jobs console in
theorem ofGroup_warns {result : Attempt ε (Except Aggregate Unit)}
    (warns : result.Warns Group.listed)
    : (ofGroup result).Warns listed := by
  refine .bind warns fun result => Or.inr ⟨_, rfl, ?_⟩
  cases result <;> rfl

theorem checkSuite_warns : (checkSuite services event project).Warns listed :=
  ofGroup_warns (Suite.run_warns jobs console event project)

/-- Pushes warn of all jobs that fail, by way of the suite. -/
theorem push_warns : (push services event project).Warns listed := by
  refine .bindSilent _ fun (version, messages) => .bindSilent _ fun _ => ?_
  dsimp only
  split
  · split
    · exact .bindSilent _ fun _ => .pure rfl
    · exact .pure rfl
  refine .bind (checkSuite_warns jobs console event project) fun result => ?_
  cases result with
  | error failure => exact Or.inr ⟨_, rfl, rfl⟩
  | ok =>
      cases version with
      | none => exact Or.inl (.pure rfl)
      | some version => exact Or.inl (Release.run_warns project version)

/-- Requests for one check warn of its failure, by cases on whether a job of the suite is named. -/
theorem checkRun_warns : (checkRun services event project).Warns listed := by
  refine .bindSilent _ fun requested => ?_
  cases requested with
  | none => exact .pure rfl
  | some name =>
      dsimp only [CheckRequest.run]
      rcases CheckRequest.known_or_other services.config name with ⟨spec, member, rfl⟩ | other
      · rw [CheckRequest.factory?_suite services member]
        have checks := Suite.runChecks_warns jobs console event project [spec]
        exact .bindSilent _ fun _ => ofGroup_warns checks
      · rw [CheckRequest.factory?_other services other]
        exact .pure rfl

omit console in
theorem exec_warns : (exec services event project).Warns listed :=
  ofGroup_warns (Group.runAll_warns services.schedule
    (List.forall_mem_map.mpr fun spec _ => jobs spec))

omit jobs console in
theorem e2e_warns : (e2e services event project).Warns listed := by
  refine .bindSilent _ fun failure => ?_
  cases failure <;> exact .pure rfl

theorem issueComment_warns : (issueComment services event project).Warns listed := by
  refine .bindSilent _ fun verdict => ?_
  cases verdict with
  | accepted => exact checkSuite_warns jobs console event project
  | _ => exact .bindSilent _ fun _ => .pure rfl

/-- Whatever the event, each member of a group that fails has an exit code and was warned of, by
cases on the handler.
-/
theorem dispatch_warns : ((router services).dispatch event project).Warns listed := by
  rw [dispatch_eq]
  cases EventKind.ofText? event.kind with
  | none => exact .bindSilent _ fun _ => .pure rfl
  | some kind =>
      cases kind with
      | push => exact push_warns jobs console event project
      | exec => exact exec_warns jobs event project
      | e2e => exact e2e_warns event project
      | checkSuiteRequested => exact checkSuite_warns jobs console event project
      | checkSuiteRerequested => exact checkSuite_warns jobs console event project
      | checkRunRerequested => exact checkRun_warns jobs console event project
      | issueCommentCreated => exact issueComment_warns jobs console event project
      | issueCommentEdited => exact issueComment_warns jobs console event project

end Handlers

end Services

end Conductor
