import Conductor.Proofs.AddedReports
import Conductor.Proofs.DispatchComposition
import Conductor.Proofs.ExitCodes

/-! Plans of requests. Which jobs a request starts when all of them pass, and what it comes to then,
is known from the configuration, the event and the project alone. Whatever runs the jobs, a request
starts the first of them, in order, and no others.
-/

namespace Conductor

variable {ε : Type}

-----------------------------------------------------------------------------------------
-- Plans
-----------------------------------------------------------------------------------------

/-- What a request comes to when every job passes: the jobs that it starts, in order, and the
result.
-/
structure Plan where
  jobs : List JobSpec
  result : Except Failure Unit

namespace Plan

variable (platform : Platform) (config : Config) (event : Event) (project : Project)

/-- A plan without jobs. -/
def idle (result : Except Failure Unit) : Plan := ⟨[], result⟩

/-- A plan of checks, which need the address of the build. -/
def checks (jobs : List JobSpec) : Except Fault Plan :=
  match config.detailsUrl platform.attributes event.buildId with
  | .error refusal => .error (.template refusal)
  | .ok _ => .ok ⟨jobs, .ok ()⟩

def suite : Except Fault Plan :=
  checks platform config event
    (Catalog.suite config
      ++ if Suite.isMainline config event then [Catalog.publishImages config project ""] else [])

def release (version : String) : Plan :=
  match Release.validate config project with
  | .error failure => idle (.error failure)
  | .ok () => ⟨Release.jobs config project version, .ok ()⟩

/-- A release comes behind the suite. -/
def push (tags : TagMatcher) : Except Fault Plan :=
  match tags.version? event.ref with
  | .error fault => .error fault
  | .ok (version, _) =>
    if version.isNone && !Suite.isMainline config event then .ok (idle (.ok ()))
    else
      match suite platform config event project, version with
      | .error fault, _ => .error fault
      | .ok suite, none => .ok suite
      | .ok suite, some version =>
        let release := release config project version
        .ok ⟨suite.jobs ++ release.jobs, release.result⟩

def checkRun : Except Fault Plan :=
  match CheckRequest.nameOf platform event.payload with
  | .error fault => .error fault
  | .ok none => .ok (idle (.error CheckRequest.unnamed))
  | .ok (some name) =>
    match (Catalog.suite config).find? fun spec => Text.ofString spec.name == name with
    | none => .ok (idle (.error (.unknownCheck name ((Catalog.suite config).map JobSpec.name))))
    | some spec => checks platform config event [spec]

def issueComment : Except Fault Plan :=
  match Handlers.verdict platform config event with
  | .error fault => .error fault
  | .ok .accepted => suite platform config event project
  | .ok _ => .ok (idle (.ok ()))

/-- The plan of an event, by its kind. -/
def ofEvent (tags : TagMatcher) : Except Fault Plan :=
  match EventKind.ofText? event.kind with
  | none => .ok (idle (.ok ()))
  | some .push => push platform config event project tags
  | some .exec => .ok ⟨Catalog.suite config, .ok ()⟩
  | some .e2e => .ok ⟨[Catalog.e2e config], .ok ()⟩
  | some .checkSuiteRequested | some .checkSuiteRerequested =>
    suite platform config event project
  | some .checkRunRerequested => checkRun platform config event
  | some .issueCommentCreated | some .issueCommentEdited =>
    issueComment platform config event project

/-- A plan of checks is that of success. -/
theorem checks_result {platform : Platform} {config : Config} {event : Event}
    {jobs : List JobSpec} {plan : Plan} (planned : checks platform config event jobs = .ok plan)
    : plan = ⟨jobs, .ok ()⟩ := by
  unfold checks at planned
  split at planned
  · cases planned
  · exact (Except.ok.inj planned).symm

/-- No release is planned to be a failed build. -/
theorem release_exitCode (version : String)
    : exitCode (release config project version).result ≠ 3 := by
  unfold release
  cases valid : Release.validate config project with
  | ok => exact (by decide : (0 : Nat) ≠ 3)
  | error failure =>
      unfold Release.validate at valid
      split at valid
      · cases valid
      · cases valid
        exact (by decide : (2 : Nat) ≠ 3)

end Plan

/-- All jobs that acts end have passed. -/
def AllPassed (acts : List Act) : Prop :=
  ∀ entry ∈ acts.filterMap Act.end?, entry.2 = .passed

/-- A run follows a plan. Without a plan it breaks off before any job. With one it starts the first
of the planned jobs in order, and all of them if it comes to the planned result, which it does if
all jobs passed.
-/
inductive Follows (trace : Trace Act ε (Except Fault (Except Failure Unit)))
    : Except Fault Plan → Prop where
  | broken {fault} (value : trace.value = .error fault)
    (unstarted : trace.acts.filterMap Act.start? = [])
    : Follows trace (.error fault)
  | followed {plan : Plan} {result} (value : trace.value = .ok result)
    (starts : trace.acts.filterMap Act.start? <+: plan.jobs)
    (ended : result = plan.result → trace.acts.filterMap Act.start? = plan.jobs)
    (passed : AllPassed trace.acts → result = plan.result)
    : Follows trace (.ok plan)

namespace Follows

/-- Messages before a run do not keep it from following a plan. -/
theorem behind {trace : Trace Act ε (Except Fault (Except Failure Unit))}
    {plan : Except Fault Plan} (follows : Follows trace plan) (messages : List Message)
    : Follows (trace.behind (messages.map fun message => .did (.wrote message))) plan := by
  have blind : ∀ {α : Type} (view : Act → Option α), (∀ deed, view (.did deed) = none)
      → ((messages.map fun message => Act.did (.wrote message)) ++ trace.acts).filterMap view
        = trace.acts.filterMap view := by
    intro α view shown
    rw [List.filterMap_append, Act.filterMap_wrote shown, List.nil_append]
  have starts := blind Act.start? fun _ => rfl
  have ends := blind Act.end? fun _ => rfl
  cases follows with
  | broken value unstarted => exact .broken value (by rw [Trace.behind_acts, starts, unstarted])
  | followed value prefixed ended passed =>
      refine .followed value ?_ ?_ ?_
      · rwa [Trace.behind_acts, starts]
      · rwa [Trace.behind_acts, starts]
      · rwa [AllPassed, Trace.behind_acts, ends]

/-- Behind acts that have started other jobs, a run follows the plan that starts with these. -/
theorem andThen {before : List Act} {jobs : List JobSpec} {plan : Plan}
    {trace : Trace Act ε (Except Fault (Except Failure Unit))} (follows : Follows trace (.ok plan))
    (started : before.filterMap Act.start? = jobs)
    : Follows (trace.behind before) (.ok ⟨jobs ++ plan.jobs, plan.result⟩) := by
  cases follows with
  | followed value starts ended passed =>
      refine .followed value ?_ ?_ ?_
      · rw [Trace.behind_acts, List.filterMap_append, started]
        exact (List.prefix_append_right_inj jobs).mpr starts
      · intro same
        rw [Trace.behind_acts, List.filterMap_append, started, ended same]
      · intro all
        rw [AllPassed, Trace.behind_acts, List.filterMap_append] at all
        exact passed fun entry member => all entry (List.mem_append_right _ member)

/-- A run without jobs follows the plan of its result. -/
theorem idle {trace : Trace Act ε (Except Fault (Except Failure Unit))}
    {result : Except Failure Unit}
    (value : trace.value = .ok result) (unstarted : trace.acts.filterMap Act.start? = [])
    : Follows trace (.ok (.idle result)) :=
  .followed value (unstarted ▸ List.nil_prefix) (fun _ => unstarted) fun _ => rfl

/-- A run that starts all of its jobs whatever comes of them follows their plan. -/
theorem of_starts {trace : Trace Act ε (Except Fault (Except Failure Unit))} {jobs : List JobSpec}
    {result : Except Failure Unit} (value : trace.value = .ok result)
    (starts : trace.acts.filterMap Act.start? = jobs)
    (passed : AllPassed trace.acts → result = .ok ())
    : Follows trace (.ok ⟨jobs, .ok ()⟩) :=
  .followed value (starts ▸ List.prefix_refl _) (fun _ => starts) passed

end Follows

-----------------------------------------------------------------------------------------
-- Reports on the console
-----------------------------------------------------------------------------------------

/-- An act that does not end a delivery that was broken off. -/
def Act.Unbroken : Act → Prop
  | .delivered _ (some _) => False
  | _ => True

/-- No report is broken off on its way to the console. -/
theorem Services.unbroken {services : Services ε} (console : services.reporter = .console)
    : services.AreOf (.every Act.Unbroken) fun _ => True := by
  have jobs : ∀ spec, (services.unit spec).IsOf (.every Act.Unbroken) := fun spec =>
    (JobSpec.unit_every services.executor trivial (fun _ => trivial) fun _ => trivial).isOf
  exact {
    closed := Run.Kind.every_closed _
    writing := Run.Kind.every_write fun _ => trivial
    building := fun _ => Run.Kind.every_act trivial
    jobs := fun spec _ => jobs spec
    checks := by
      intro check spec _ job
      refine Check.unit_isOf (Run.Kind.every_closed _) (job ▸ jobs spec) fun outcome => ?_
      refine (Check.conclude_every (fun _ => trivial) (fun _ => trivial) ?_ outcome).isOf
      intro failure deeds answer goes
      rw [console] at goes
      rw [(Reporter.console_goes goes).2]
      trivial
  }

/-- Acts show no failure if all of their jobs passed and none of their reports was broken off. -/
theorem not_showsFailure_of_allPassed {acts : List Act} (passed : AllPassed acts)
    (unbroken : ∀ act ∈ acts, act.Unbroken)
    : ¬ShowsFailure [] acts := by
  rw [showsFailure_iff]
  rintro ⟨first, act, last, rfl, fails⟩
  have member : act ∈ first ++ act :: last := List.mem_append_right _ List.mem_cons_self
  cases act with
  | ended spec outcome => exact fails.1 (passed _ (List.mem_filterMap.mpr ⟨_, member, rfl⟩))
  | delivered report breakdown =>
      cases breakdown with
      | none => exact fails rfl
      | some breakdown => exact unbroken _ member
  | _ => exact fails

/-- A run that accounts for its failures, and can only succeed or be a failed build, succeeds if all
of its jobs passed and none of its reports was broken off.
-/
theorem Attempt.Accounts.ok_of_passed {attempt : Attempt ε (Except Failure Unit)}
    (accounts : attempt.Accounts (exitCode · = 3))
    (unbroken : attempt.IsOf (.every Act.Unbroken)) {state : ε} {result : Except Failure Unit}
    (through : (attempt.trace state).value = .ok result) (code : exitCode result ∈ [0, 3])
    (passed : AllPassed (attempt.trace state).acts)
    : result = .ok () := by
  have quiet := not_showsFailure_of_allPassed passed (unbroken state)
  rw [accounts [] state result through] at quiet
  simp only [List.mem_cons, List.not_mem_nil, or_false] at code
  rcases result with failure | ⟨⟩
  · exact absurd (code.resolve_right quiet) (Handlers.exitCode_error failure)
  · rfl

-----------------------------------------------------------------------------------------
-- Requests follow their plans
-----------------------------------------------------------------------------------------

section Services

variable {services : Services ε} (executing : services.executor.Uncancelled)
  (console : services.reporter = .console) (event : Event) (project : Project) (state : ε)

include executing

/-- A release follows its plan, by cases on the required secrets. -/
theorem Release.run_follows (console : services.reporter = .console) (version : String)
    : Follows ((run services project version).trace state)
        (.ok (Plan.release services.config project version)) := by
  unfold Plan.release
  cases valid : validate services.config project with
  | error failure => exact .idle (by simp [run, valid]) (by simp [run, valid])
  | ok =>
      have complete : missingSecrets services.config project = [] := by
        unfold validate at valid
        split at valid
        · assumption
        · cases valid
      have account := run_account executing project version state complete
      obtain ⟨result, value, _⟩ := account.inSequence
      refine .followed value account.startedInOrder ?ended ?passed
      case ended =>
        intro released
        rw [released] at value
        rw [filterMap_start?, account.released_iff.mp value, InSequence.filterMap_passed]
      case passed =>
        exact (run_accounts services project version).ok_of_passed
          (run_isOf (Services.unbroken console) fun _ _ => trivial) value
          (Handlers.release_exitCode services project complete value)

namespace Handlers

/-- A suite follows its plan. Its checks all run, and what it comes to is what they come to. -/
theorem checkSuite_follows (console : services.reporter = .console)
    : Follows ((checkSuite services event project).trace state)
        (Plan.suite services.platform services.config event project) := by
  have grouped : (checkSuite services event project).trace state = _ :=
    ofGroup_trace (Suite.run services event project) state
  unfold Plan.suite Plan.checks
  cases shown : services.config.detailsUrl services.platform.attributes event.buildId with
  | error refusal =>
      obtain ⟨message, refused⟩ := Suite.run_refused services event project state shown
      rw [grouped, refused]
      exact .broken rfl rfl
  | ok detailsUrl =>
      have reporting : services.reporter.Uncancelled := console ▸ Reporter.console_uncancelled
      have account := Suite.run_account executing reporting event project state shown
      obtain ⟨result, _, value, _⟩ := account.result
      have through
        : ((checkSuite services event project).trace state).value
          = .ok (result.mapError Failure.group) := by
        rw [grouped]
        simp only [value]
        rfl
      refine .followed through ?starts ?ended ?passed
      case starts =>
        rw [grouped, Suite.run_starts_eq services event project state shown]
        refine (List.prefix_append_right_inj _).mpr ?_
        split
        · simp_all
        · exact List.nil_prefix
      case ended =>
        intro succeeded
        rw [succeeded] at through
        exact checkSuite_starts services event project state through
      case passed =>
        exact (checkSuite_accounts services event project).ok_of_passed
          (checkSuite_isOf (Services.unbroken console) (fun _ _ => trivial) event trivial) through
          (ofGroup_exitCode state through)

/-- Bare tests follow their plan: all of them run, whatever comes of them. -/
theorem exec_follows (console : services.reporter = .console)
    : Follows ((exec services event project).trace state)
        (.ok ⟨Catalog.suite services.config, .ok ()⟩) := by
  have grouped : (exec services event project).trace state = _ :=
    ofGroup_trace (Suite.runTests services) state
  have nonempty : (Catalog.suite services.config).map services.unit ≠ [] := List.cons_ne_nil _ _
  have running := runTogether_running services.schedule _ state
    (List.forall_mem_map.mpr fun spec (_ : spec ∈ Catalog.suite services.config) =>
      executing.unit spec)
  obtain ⟨stretches, outcomes, completion, _⟩ :=
    Group.runAll_completed services.schedule nonempty state running
  have through
    : ∃ result, ((exec services event project).trace state).value = .ok result := by
    rw [grouped, Suite.runTests, completion.value]
    exact ⟨_, rfl⟩
  obtain ⟨result, through⟩ := through
  refine .of_starts through ?starts ?passed
  case starts =>
    rw [grouped]
    exact Suite.runAll_jobs_starts services.executor services.schedule _ state
  case passed =>
    exact (exec_accounts services event project).ok_of_passed
      (exec_isOf (Services.unbroken console) (fun _ _ => trivial) event project) through
      (ofGroup_exitCode state through)

/-- The test of the whole follows its plan. -/
theorem e2e_follows (console : services.reporter = .console)
    : Follows ((e2e services event project).trace state)
        (.ok ⟨[Catalog.e2e services.config], .ok ()⟩) := by
  let spec := Catalog.e2e services.config
  have settled := settle_trace (services.unit spec) state ((executing.unit spec).run state)
  have ran
    : ∃ result,
        (e2e services event project).trace state
        = ⟨.ok result, ((services.unit spec).run.trace state).state,
            ((services.unit spec).run.trace state).acts⟩ := by
    unfold e2e
    rw [Attempt.trace_bind_ok settled]
    cases ((services.unit spec).run.trace state).value.failure? (services.unit spec).name with
    | none => exact ⟨.ok (), by simp [Trace.behind]⟩
    | some failure => exact ⟨.error (.unit failure), by simp [Trace.behind]⟩
  obtain ⟨result, ran⟩ := ran
  have through := congrArg Trace.value ran
  refine .of_starts through ?starts ?passed
  case starts =>
    rw [ran]
    exact JobSpec.unit_run_starts services.executor spec state
  case passed =>
    exact (e2e_accounts services event project).ok_of_passed
      (e2e_isOf (Services.unbroken console) (fun _ _ => trivial) event project) through
      (e2e_exitCode services event project through)

/-- A comment follows its plan, by cases on what it comes to. -/
theorem issueComment_follows (console : services.reporter = .console)
    : Follows ((issueComment services event project).trace state)
        (Plan.issueComment services.platform services.config event project) := by
  unfold issueComment Plan.issueComment
  cases judged : verdict services.platform services.config event with
  | error fault =>
      rw [Attempt.trace_bind_error (Attempt.trace_liftExcept _ state)]
      exact .broken rfl rfl
  | ok verdict =>
      rw [Attempt.trace_bind_ok (Attempt.trace_liftExcept _ state)]
      cases verdict with
      | accepted => exact (checkSuite_follows executing event project state console).behind []
      | _ =>
          simp only [Attempt.trace_write_bind]
          have quiet : Follows (⟨.ok (.ok ()), state, []⟩ : Trace Act ε _) _ := .idle rfl rfl
          exact quiet.behind _

/-- A check of the suite follows the plan of it alone. -/
theorem check_follows (console : services.reporter = .console) {spec : JobSpec}
    (member : spec ∈ Catalog.suite services.config)
    : Follows
        ((ofGroup (Suite.runChecks services [Factory.ofJob services spec] event project)).trace
          state)
        (Plan.checks services.platform services.config event [spec]) := by
  have each := Services.unbroken console
  have others : ∀ other ∈ [spec], other.name ≠ "build-and-publish-images" :=
    List.forall_mem_singleton.mpr (Suite.suite_ne_images services.config spec member).symm
  have accounts
    : (ofGroup (Suite.runChecks services [Factory.ofJob services spec] event project)).Accounts
        (exitCode · = 3) :=
    ofGroup_accounts (Suite.runChecks_accounts services others event project)
  have grouped :=
    ofGroup_trace (Suite.runChecks services [Factory.ofJob services spec] event project) state
  unfold Plan.checks
  cases shown : services.config.detailsUrl services.platform.attributes event.buildId with
  | error refusal =>
      rw [grouped, Suite.runChecks_refused services _ event project state shown]
      exact .broken rfl rfl
  | ok detailsUrl =>
      have reporting : services.reporter.Uncancelled := console ▸ Reporter.console_uncancelled
      obtain ⟨result, value, _⟩ := Group.runAll_checks services.schedule reporting executing
        (Suite.check services event project detailsUrl) (fun _ => rfl) (List.cons_ne_nil spec [])
        state
      have through
        : ((ofGroup (Suite.runChecks services [Factory.ofJob services spec] event
            project)).trace state).value
          = .ok (result.mapError Failure.group) := by
        have traced : (Suite.runChecks services [Factory.ofJob services spec] event
            project).trace state = _ :=
          Suite.runChecks_trace services [spec] event project state shown
        rw [grouped, traced]
        simp only [Trace.behind_value, value]
        rfl
      refine .of_starts through ?starts ?passed
      case starts =>
        rw [grouped]
        exact Suite.runChecks_starts services [spec] event project state shown
      case passed =>
        have single : ∀ other ∈ [spec], True := fun _ _ => trivial
        have isOf := ofGroup_isOf each (Suite.runChecks_isOf each single event project)
        exact accounts.ok_of_passed isOf through (ofGroup_exitCode state through)

/-- A request for one check follows its plan, by cases on the name of the check. -/
theorem checkRun_follows (console : services.reporter = .console)
    : Follows ((checkRun services event project).trace state)
        (Plan.checkRun services.platform services.config event) := by
  unfold checkRun CheckRequest.runEvent Plan.checkRun
  cases named : CheckRequest.nameOf services.platform event.payload with
  | error fault =>
      rw [Attempt.trace_bind_error (Attempt.trace_liftExcept _ state)]
      exact .broken rfl rfl
  | ok requested =>
      rw [Attempt.trace_bind_ok (Attempt.trace_liftExcept _ state)]
      cases requested with
      | none => exact .idle rfl rfl
      | some name =>
          have registered
            : CheckRequest.factory? (Suite.factories services) name
              = ((Catalog.suite services.config).find? fun spec =>
                  Text.ofString spec.name == name).map (Factory.ofJob services) :=
            List.find?_map
          dsimp only [CheckRequest.run]
          rw [registered]
          cases found : (Catalog.suite services.config).find? fun spec =>
              Text.ofString spec.name == name with
          | none => exact .idle rfl rfl
          | some spec =>
              have check := check_follows executing event project state console
                (List.mem_of_find?_eq_some found)
              simp only [Option.map_some, Attempt.trace_write_bind]
              exact (check.behind _).behind []

/-- A push follows its plan. The release comes behind a suite that has started all of its jobs.
Witness: by cases on the version, and on what the suite comes to.
-/
theorem push_follows (console : services.reporter = .console)
    : Follows ((push services event project).trace state)
        (Plan.push services.platform services.config event project services.tags) := by
  unfold push Plan.push
  cases matched : services.tags.version? event.ref with
  | error fault =>
      rw [Attempt.trace_bind_error (Attempt.trace_liftExcept _ state)]
      exact .broken rfl rfl
  | ok found =>
      obtain ⟨version, notices⟩ := found
      rw [Attempt.trace_bind_ok (Attempt.trace_liftExcept _ state), Attempt.trace_write_bind]
      refine .behind (.behind ?_ notices) []
      by_cases skipped : (version.isNone && !Suite.isMainline services.config event) = true
      · simp only [if_pos skipped]
        split
        · rw [Attempt.trace_write_bind]
          exact .idle rfl rfl
        · exact .idle rfl rfl
      simp only [if_neg skipped]
      have suite := checkSuite_follows executing event project state console
      rcases ran : (checkSuite services event project).trace state with ⟨value, later, acts⟩
      rw [ran] at suite
      cases planned : Plan.suite services.platform services.config event project with
      | error fault =>
          rw [planned] at suite
          obtain ⟨rfl, unstarted⟩ : value = .error fault ∧ acts.filterMap Act.start? = [] := by
            cases suite with
            | broken value unstarted => exact ⟨value, unstarted⟩
          rw [Attempt.trace_bind_error ran]
          exact .broken rfl unstarted
      | ok plan =>
          rw [planned] at suite
          have ok := Plan.checks_result planned
          cases suite with
          | @followed _ result value starts ended passed =>
              cases value
              rw [Attempt.trace_bind_ok ran]
              rcases result with failure | ⟨⟩
              · -- a suite that fails ends the push, and no release is planned to fail like that
                have code := checkSuite_exitCode services event project (congrArg Trace.value ran)
                have differs := Plan.release_exitCode services.config project
                simp only [Attempt.trace_pure, Trace.behind, List.append_nil]
                cases version with
                | none => exact .followed rfl starts ended passed
                | some tag =>
                    refine .followed rfl (starts.trans (List.prefix_append _ _)) ?_ ?_
                    · exact fun same => absurd (same ▸ code) (differs tag)
                    · intro all
                      have succeeded := passed all
                      rw [ok] at succeeded
                      cases succeeded
              · cases version with
                | none =>
                    simp only [Attempt.trace_pure, Trace.behind, List.append_nil]
                    exact .followed rfl starts ended passed
                | some tag =>
                    have release := Release.run_follows executing project later console tag
                    exact release.andThen (ended (ok ▸ rfl))

/-- Every request follows the plan of its event, by cases on the handler of the event. -/
theorem dispatch_follows (console : services.reporter = .console)
    : Follows (((router services).dispatch event project).trace state)
        (Plan.ofEvent services.platform services.config event project services.tags) := by
  unfold Router.dispatch Plan.ofEvent
  cases known : EventKind.ofText? event.kind with
  | none =>
      simp only [Option.bind_none, Attempt.trace_write_bind]
      exact .idle rfl rfl
  | some kind =>
      simp only [Option.bind_some, router_handler?]
      cases kind with
      | push => exact push_follows executing event project state console
      | exec => exact exec_follows executing event project state console
      | e2e => exact e2e_follows executing event project state console
      | checkSuiteRequested => exact checkSuite_follows executing event project state console
      | checkSuiteRerequested => exact checkSuite_follows executing event project state console
      | checkRunRerequested => exact checkRun_follows executing event project state console
      | issueCommentCreated => exact issueComment_follows executing event project state console
      | issueCommentEdited => exact issueComment_follows executing event project state console

end Handlers

end Services

end Conductor
