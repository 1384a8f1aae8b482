import Conductor.Proofs.CheckTurns
import Conductor.Proofs.CommentGate
import Conductor.Proofs.EdgePublish

/-! Reports are all that checks add to their jobs. A group of checks comes to what the group of the
bare jobs comes to, if what takes the reports lets them through, however long that takes and
whatever goes on in the meantime.
-/

namespace Conductor

variable {ε : Type}

-----------------------------------------------------------------------------------------
-- Reports that come through
-----------------------------------------------------------------------------------------

/-- What takes every report, and breaks none off. -/
def Reporter.TakesAll (reporter : Reporter ε) : Prop :=
  ∀ report deeds answer, (reporter report).Goes deeds answer → answer = .ok ()

/-- What does nothing on the way of a report that jobs take notice of. -/
def Reporter.Unnoticed (alike : ε → ε → Prop) (reporter : Reporter ε) : Prop :=
  ∀ report, ((reporter report).mapActs .did).IsOf (.unnoticed alike)

theorem Reporter.TakesAll.uncancelled {reporter : Reporter ε} (taking : reporter.TakesAll)
    : reporter.Uncancelled :=
  fun report deeds _ goes => nomatch taking report deeds _ goes

/-- What lets others go on before it takes a report. -/
def Reporter.later (reporter : Reporter ε) : Reporter ε := fun report => do
  Async.pause
  reporter report

theorem Reporter.console_takesAll : (Reporter.console : Reporter ε).TakesAll :=
  fun _ _ _ goes => (console_goes goes).2

theorem Reporter.TakesAll.later {reporter : Reporter ε} (taking : reporter.TakesAll)
    : reporter.later.TakesAll := by
  intro report deeds answer goes
  obtain ⟨_, _, _, _, answered, _⟩ := goes.of_bind
  exact taking report _ answer answered

theorem Reporter.Uncancelled.later {reporter : Reporter ε} (uncancelled : reporter.Uncancelled)
    : reporter.later.Uncancelled := by
  intro report deeds text goes
  obtain ⟨_, _, _, _, answered, _⟩ := goes.of_bind
  exact uncancelled report _ text answered

/-- Writing on the console is not noticed, whatever states are alike. -/
theorem Reporter.console_unnoticed (alike : ε → ε → Prop)
    : (Reporter.console : Reporter ε).Unnoticed alike := by
  intro report
  have closed := Run.Kind.unnoticed_closed alike
  simp only [console, Async.mapActs_bind, Async.mapActs_ofRun, Run.mapActs_say, Async.mapActs_pure]
  exact .bind closed (.ofRun closed fun _ _ both => both) fun _ _ _ => .pure closed _

theorem Reporter.Unnoticed.later {alike : ε → ε → Prop} {reporter : Reporter ε}
    (unnoticed : reporter.Unnoticed alike)
    : reporter.later.Unnoticed alike := by
  intro report
  have closed := Run.Kind.unnoticed_closed alike
  simp only [Reporter.later, Async.mapActs_bind, Async.mapActs_pause]
  exact .bind closed (.pause closed) fun _ _ _ => unnoticed report

theorem Outcome.failure?_ofFailure? (name : String) (failure : Option UnitFailure)
    : (Outcome.ofFailure? failure).failure? name = failure := by
  cases failure <;> rfl

namespace Check

variable {reporter : Reporter ε} {check : Check ε} {outcome last : Outcome} {acts : List Act}

/-- Where all reports are taken, a check whose job is not cancelled concludes with acts of its
report alone, and ends with the failure of its job.
-/
theorem conclude_taken (taking : reporter.TakesAll) (running : outcome.cancellation? = none)
    (goes : (check.conclude reporter outcome).Goes acts last)
    : (∀ act ∈ acts, act.OfReport) ∧ last = .ofFailure? (outcome.failure? check.job.name) := by
  obtain ⟨deeds, answer, course, rfl, rfl⟩ := conclude_reported running goes
  obtain rfl := taking _ deeds answer course
  refine ⟨List.forall_mem_cons.mpr ⟨trivial, List.forall_mem_append.mpr ⟨?_, ?_⟩⟩, rfl⟩
  · exact List.forall_mem_map.mpr fun _ _ => trivial
  · exact List.forall_mem_singleton.mpr rfl

/-- A conclusion does nothing but report, unnoticed, and keeps the outcome of the job.
Witness: its parts do, of which the end of a delivery that was broken off is never reached.
-/
theorem conclude_reports {alike : ε → ε → Prop} (taking : reporter.TakesAll)
    (unnoticed : reporter.Unnoticed alike) (running : outcome.cancellation? = none)
    : (check.conclude reporter outcome).Reports alike check.job.name outcome where
  unnoticed := by
    have closed := Run.Kind.reporting_closed alike
    have acts {act : Act} (reports : act.OfReport)
        : (Async.act act : Async Act ε Unit).IsOf (.reporting alike) :=
      .ofRun closed ⟨fun _ _ both => both, Run.Kind.every_act reports⟩
    let report := check.report (outcome.failure? check.job.name)
    have answering : ((reporter report).mapActs .did).IsOf (.reporting alike) := by
      refine .and (unnoticed report) (Async.Within.isOf fun acts answer goes => ⟨?_, trivial⟩)
      obtain ⟨deeds, _, rfl⟩ := goes.of_mapActs
      exact List.forall_mem_map.mpr fun _ _ => trivial
    simp only [conclude, running]
    refine .bind closed (acts trivial) fun _ _ _ => .bind closed answering fun _ answer goes => ?_
    obtain ⟨deeds, goes, _⟩ := goes.of_mapActs
    obtain rfl := taking _ deeds answer goes
    exact .bind closed (acts rfl) fun _ _ _ => .pure closed _
  kept := by
    intro acts last goes
    obtain ⟨_, rfl⟩ := conclude_taken taking running goes
    exact ⟨fun _ _ => trivial, Outcome.ofFailure?_settled _, Outcome.failure?_ofFailure? _ _⟩

end Check

-----------------------------------------------------------------------------------------
-- Units with outcomes of their own
-----------------------------------------------------------------------------------------

/-- However a unit starts and whenever it goes on, it ends with the same outcome. -/
def UnitOfWork.EndsAs (unit : UnitOfWork ε) (outcome : Outcome) : Prop :=
  ∀ acts last, unit.work.Goes acts last → last = outcome

/-- In a completed run of units with outcomes of their own, these are the outcomes. -/
theorem Group.Completion.outcomes_own {ι : Type} {items : List ι} {unit : ι → UnitOfWork ε}
    {state : ε} {stretches : List Stretch} {outcomes : List Outcome}
    {trace : Trace Act ε (Except Fault (Except Aggregate Unit))}
    (completion : Completion (items.map unit) state stretches outcomes trace) {own : ι → Outcome}
    (settled : ∀ item ∈ items, (unit item).EndsAs (own item))
    : outcomes = items.map own := by
  refine completion.outcomes_eq (by rw [List.length_map, List.length_map]) ?_
  intro place _ acts outcome there goes
  rw [List.getElem?_map, Option.map_eq_some_iff] at there
  obtain ⟨item, there, rfl⟩ := there
  rw [List.getElem?_map, there, settled item (List.mem_of_getElem? there) acts outcome goes]
  rfl

-----------------------------------------------------------------------------------------
-- Groups of checks
-----------------------------------------------------------------------------------------

/-- What a group does by some stretches of its units and with the given failures: in between its
opening and its closing these units do what they do.
-/
def Group.told (units : List (UnitOfWork ε)) (stretches : List Stretch) (failed : List UnitFailure)
    : List Act :=
  if units.isEmpty then []
  else
    .did (.wrote (opening units))
      :: (stretches.flatMap Stretch.acts
        ++ (closing units.length failed).map fun message => .did (.wrote message))

/-- A group that is run to completion tells of its failures. -/
theorem Group.Completion.told {units : List (UnitOfWork ε)} {state : ε}
    {stretches : List Stretch} {outcomes : List Outcome}
    {trace : Trace Act ε (Except Fault (Except Aggregate Unit))}
    (completion : Completion units state stretches outcomes trace) (nonempty : units ≠ [])
    : let failed := failuresInOrder ((units.map UnitOfWork.name).zip outcomes)
      trace.value = .ok (verdict failed) ∧ trace.acts = Group.told units stretches failed := by
  refine ⟨?_, ?_⟩
  · rw [completion.value]
    cases failuresInOrder ((units.map UnitOfWork.name).zip outcomes) <;> rfl
  · have some : units.isEmpty = false := by simpa using nonempty
    rw [completion.acts]
    simp only [Group.told, some, Bool.false_eq_true, if_false, closing_acts, List.append_assoc]

/-- What a group tells hangs on the names of its units alone. -/
theorem Group.told_congr {units units' : List (UnitOfWork ε)}
    (names : units.map UnitOfWork.name = units'.map UnitOfWork.name) (stretches : List Stretch)
    (failed : List UnitFailure)
    : told units stretches failed = told units' stretches failed := by
  have length : units.length = units'.length := by
    simpa using congrArg List.length names
  have empty : units.isEmpty = units'.isEmpty := by
    simpa only [List.isEmpty_map] using congrArg List.isEmpty names
  rw [told, told, opening, opening, names, length, empty]

namespace Suite

/-- Checks come to what their bare jobs come to, with nothing but reports added: they do all that
the jobs and their group do, in the same order, and start and end the same jobs.
-/
structure AddsReports (factories : List (Factory ε)) (jobs : List (UnitOfWork ε))
    (checked bare : Trace Act ε (Except Fault (Except Aggregate Unit)))
    : Prop where
  value : checked.value = bare.value
  acts
    : ∃ acts,
        checked.acts = (factories.map fun factory => .built factory.key) ++ acts
        ∧ WithReports acts bare.acts
  started
    : ∀ executor specs,
        jobs = specs.map (JobSpec.unit executor)
        → checked.acts.filterMap Act.start? = specs ∧ bare.acts.filterMap Act.start? = specs
  ended : checked.acts.filterMap Act.end? = bare.acts.filterMap Act.end?

/-- Checks of jobs with outcomes of their own come to what the bare jobs come to, in whatever order
either of them take turns. The two groups open and close with the same messages. In between each
check does what its job may do by itself, and then nothing but report; and the same jobs start, each
once.
-/
structure Agrees (factories : List (Factory ε)) (jobs : List (UnitOfWork ε))
    (own : UnitOfWork ε → Outcome)
    (checked bare : Trace Act ε (Except Fault (Except Aggregate Unit)))
    : Prop where
  value : checked.value = bare.value
  told
    : ∃ stretches stretches' failed,
        checked.acts
          = (factories.map fun factory => .built factory.key) ++ Group.told jobs stretches failed
        ∧ bare.acts = Group.told jobs stretches' failed
        ∧ ∀ (place : Nat) job,
            jobs[place]? = some job
            → (∃ ran added,
                Stretch.actsAt place stretches = ran ++ added
                ∧ job.work.Goes ran (own job)
                ∧ ∀ act ∈ added, act.OfReport)
              ∧ job.work.Goes (Stretch.actsAt place stretches') (own job)
  started
    : ∀ executor specs,
        jobs = specs.map (JobSpec.unit executor)
        → checked.acts.filterMap Act.start? = specs ∧ bare.acts.filterMap Act.start? = specs

/-- A group starts jobs in order, each once. -/
theorem runAll_jobs_starts (executor : Executor ε) (schedule : Schedule) (specs : List JobSpec)
    (state : ε)
    : ((Group.runAll schedule (specs.map (JobSpec.unit executor))).trace state).acts.filterMap
        Act.start?
      = specs := by
  rw [Group.runAll_view (fun _ => rfl) (JobSpec.unit_shows_start executor) schedule specs state]
  exact List.flatMap_singleton' specs

section Checks

variable {services : Services ε} (taking : services.reporter.TakesAll) {event : Event}
  (project : Project) {detailsUrl : String}
  (shown : services.detailsUrl event.buildId = .ok detailsUrl)
  {factories : List (Factory ε)} {jobs : List (UnitOfWork ε)} {state : ε}
  (building : (Attempt.trace (factories.mapM Factory.run) state).value = .ok jobs)

include shown building

/-- Checks start the jobs that the bare group starts. -/
theorem runChecks_starts_as (schedule : Schedule) (now : ε) (executor : Executor ε)
    (specs : List JobSpec) (described : jobs = specs.map (JobSpec.unit executor))
    : ((runChecks services factories event project).trace state).acts.filterMap Act.start? = specs
      ∧ ((Group.runAll schedule jobs).trace now).acts.filterMap Act.start? = specs := by
  subst described
  rw [runChecks_built services project shown building, Trace.behind_acts, List.filterMap_append,
    Factory.built_view (fun _ => rfl), List.nil_append, List.map_map]
  refine ⟨?_, runAll_jobs_starts executor schedule specs now⟩
  have starting (spec : JobSpec)
      : ((checkOf event project detailsUrl (spec.unit executor)).unit services.reporter).Shows
          Act.start? [spec] :=
    Check.unit_shows_start services.reporter rfl
  have starts := Group.runAll_view (fun _ => rfl) starting services.schedule specs
    (Attempt.trace (factories.mapM Factory.run) state).state
  rw [List.flatMap_singleton'] at starts
  exact starts

include taking

/-- Checks of jobs with outcomes of their own agree with the bare jobs.
Witness: the completed runs of both groups, in which the outcomes count as the same failures.
-/
theorem runChecks_agrees {own : UnitOfWork ε → Outcome}
    (settled : ∀ job ∈ jobs, job.EndsAs (own job) ∧ (own job).cancellation? = none)
    (schedule : Schedule) (now : ε)
    : Agrees factories jobs own ((runChecks services factories event project).trace state)
        ((Group.runAll schedule jobs).trace now) := by
  have started := runChecks_starts_as project shown building schedule now
  rw [runChecks_built services project shown building] at started ⊢
  generalize (Attempt.trace (factories.mapM Factory.run) state).state = ready at started ⊢
  by_cases empty : jobs = []
  · subst empty
    exact ⟨rfl, ⟨[], [], [], rfl, rfl, nofun⟩, started⟩
  let unit := fun job => (checkOf event project detailsUrl job).unit services.reporter
  have nonempty : jobs.map unit ≠ [] := by simpa using empty
  have uncancelled : ∀ job ∈ jobs, job.Uncancelled := by
    intro job member acts outcome goes
    obtain ⟨ends, running⟩ := settled job member
    rw [ends acts outcome goes]
    exact running
  obtain ⟨stretches, outcomes, completion⟩ :=
    Group.runAll_completion services.schedule nonempty
      (List.forall_mem_map.mpr fun job member =>
        Check.unit_uncancelled taking.uncancelled (uncancelled job member))
      ready
  obtain ⟨stretches', outcomes', completion'⟩ :=
    Group.runAll_completion schedule empty uncancelled now
  have ends : ∀ job ∈ jobs, (unit job).EndsAs (.ofFailure? ((own job).failure? job.name)) := by
    intro job member acts last goes
    obtain ⟨ran, mid, added, running, concluding, rfl⟩ := Check.unit_goes goes
    obtain ⟨ending, running'⟩ := settled job member
    obtain rfl := ending ran mid running
    exact (Check.conclude_taken taking running' concluding).2
  obtain rfl := completion.outcomes_own ends
  obtain rfl : outcomes' = jobs.map own := by
    have own' := completion'
    rw [← List.map_id jobs] at own'
    exact own'.outcomes_own fun job member => (settled job member).1
  have names : (jobs.map unit).map UnitOfWork.name = jobs.map UnitOfWork.name := by
    rw [List.map_map]
    rfl
  have failed
    : failuresInOrder (((jobs.map unit).map UnitOfWork.name).zip
          (jobs.map fun job => .ofFailure? ((own job).failure? job.name)))
      = failuresInOrder ((jobs.map UnitOfWork.name).zip (jobs.map own)) := by
    rw [names, failuresInOrder_eq_filterMap, failuresInOrder_eq_filterMap, List.zip_map',
      List.zip_map',
      List.filterMap_map, List.filterMap_map]
    exact List.filterMap_congr fun job _ => Outcome.failure?_ofFailure? job.name _
  obtain ⟨value, acts⟩ := completion.told nonempty
  obtain ⟨value', acts'⟩ := completion'.told empty
  refine ⟨?value, ⟨stretches, stretches', _, ?_, acts', ?places⟩, started⟩
  case value => rw [Trace.behind_value, value, value', failed]
  case places =>
    intro place job there
    have came : (jobs.map own)[place]? = some (own job) := by simp [there]
    refine ⟨?_, completion'.course place job _ there came⟩
    have goes := completion.course place (unit job) (.ofFailure? ((own job).failure? job.name))
      (by simp [there]) (by simp [there])
    obtain ⟨ran, mid, added, running, concluding, split⟩ := Check.unit_goes goes
    obtain ⟨ending, settled⟩ := settled job (List.mem_of_getElem? there)
    obtain rfl := ending ran mid running
    exact ⟨ran, added, split, running, (Check.conclude_taken taking settled concluding).1⟩
  · rw [Trace.behind_acts, acts, failed, Group.told_congr names]

/-- Checks come to what the bare jobs come to under some schedule, with reports added. Witness: the
jobs take the turns that they take in their checks.
-/
theorem runChecks_adds {alike : ε → ε → Prop} (unnoticed : services.reporter.Unnoticed alike)
    (steady : ∀ job ∈ jobs, job.Steady alike) (uncancelled : ∀ job ∈ jobs, job.Uncancelled)
    {now : ε}
    (both : alike (Attempt.trace (factories.mapM Factory.run) state).state now)
    : ∃ schedule,
        AddsReports factories jobs ((runChecks services factories event project).trace state)
          ((Group.runAll schedule jobs).trace now) := by
  have reports : AllReport alike
      (fun job => (checkOf event project detailsUrl job).conclude services.reporter) jobs := by
    intro job _ outcome running
    let check := checkOf event project detailsUrl job
    have concludes
      : (check.conclude services.reporter outcome).Reports alike check.job.name outcome :=
      Check.conclude_reports taking unnoticed running
    exact concludes
  obtain ⟨schedule, value, acts⟩ :=
    Group.runAll_follows reports steady uncancelled services.schedule both
  refine ⟨schedule, ?_⟩
  have started := runChecks_starts_as project shown building schedule now
  rw [runChecks_built services project shown building] at started ⊢
  have ends := acts.view_eq Act.end? Act.OfReport.end?_eq_none
  exact {
    value
    acts := ⟨_, rfl, acts⟩
    started
    ended := by
      rw [Trace.behind_acts, List.filterMap_append, Factory.built_view (fun _ => rfl),
        List.nil_append]
      exact ends
  }

end Checks

/-- Off the mainline a suite comes to what its checks come to. -/
theorem run_offMainline (services : Services ε) (event : Event) (project : Project) (state : ε)
    (elsewhere : isMainline services.config event = false)
    : ((run services event project).trace state).value
      = ((runChecks services (factories services) event project).trace state).value := by
  obtain ⟨heading, whole⟩ := run_trace services event project state
  rw [whole, Trace.behind_value]
  rcases ended : (runChecks services (factories services) event project).trace state with
    ⟨fault | failure | ⟨⟩, later, acts⟩
  · rfl
  · rfl
  · simp only [behindChecks, edge, elsewhere]
    rfl

end Suite

-----------------------------------------------------------------------------------------
-- The check suite and the bare tests
-----------------------------------------------------------------------------------------

namespace Handlers

/-- Off the mainline the check suite comes to what the bare tests come to, if the checks come to
what the bare jobs of the suite come to.
-/
theorem checkSuite_exec {services : Services ε} {event : Event} (project : Project)
    (elsewhere : event.branch? ≠ some services.config.sources.mainline) {schedule : Schedule}
    {state now : ε}
    (same
      : ((Suite.runChecks services (Suite.factories services) event project).trace state).value
        = ((Group.runAll schedule ((Catalog.suite services.config).map services.unit)).trace
            now).value)
    (trigger : Event) (project' : Project)
    : ((checkSuite services event project).trace state).value
      = ((exec { services with schedule } trigger project').trace now).value := by
  have off : Suite.isMainline services.config event = false := by
    simpa [Suite.isMainline] using elsewhere
  have grouped := ofGroup_trace (Suite.run services event project) state
  have tested := ofGroup_trace (Suite.runTests { services with schedule }) now
  unfold checkSuite exec
  rw [grouped, tested]
  dsimp only
  rw [Suite.run_offMainline services event project state off, same]
  rfl

/-- A check suite and a request for the bare tests go to their handlers. -/
theorem dispatch_suite_exec (services : Services ε) {event trigger : Event}
    (requested : event.kind ∈ ["check_suite:requested", "check_suite:rerequested"])
    (triggered : trigger.kind = "exec") (project project' : Project)
    : (router services).dispatch event project = checkSuite services event project
      ∧ (router services).dispatch trigger project' = exec services trigger project' := by
  have tests : trigger.kind = EventKind.exec.text := triggered
  refine ⟨?_, router_dispatch services tests project'⟩
  rcases List.mem_pair.mp requested with requested | again
  · have named : event.kind = EventKind.checkSuiteRequested.text := requested
    exact router_dispatch services named project
  · have named : event.kind = EventKind.checkSuiteRerequested.text := again
    exact router_dispatch services named project

/-- Reports are all that checks add to their jobs, if what takes them breaks none off. For factories
of any jobs with outcomes of their own, checks agree with the bare jobs in whatever order they take
turns; and whatever the jobs do that take no notice of the reports, checks come to what the bare
jobs come to in some order. Off the mainline the check suite comes to what a request for the bare
tests comes to.
-/
theorem runChecks_addsReports {services : Services ε} (taking : services.reporter.TakesAll)
    {event : Event} (project : Project) {detailsUrl : String}
    (shown : services.detailsUrl event.buildId = .ok detailsUrl)
    : (∀ (factories : List (Factory ε)) (jobs : List (UnitOfWork ε)) (state : ε),
        (Attempt.trace (factories.mapM Factory.run) state).value = .ok jobs
        → ∀ own : UnitOfWork ε → Outcome,
            (∀ job ∈ jobs, job.EndsAs (own job) ∧ (own job).cancellation? = none)
            → ∀ schedule now,
                Suite.Agrees factories jobs own
                  ((Suite.runChecks services factories event project).trace state)
                  ((Group.runAll schedule jobs).trace now))
      ∧ (∀ (alike : ε → ε → Prop) (factories : List (Factory ε)) (jobs : List (UnitOfWork ε))
            (state now : ε),
          let building := Attempt.trace (factories.mapM Factory.run) state
          services.reporter.Unnoticed alike
          → building.value = .ok jobs
          → (∀ job ∈ jobs, job.Steady alike ∧ job.Uncancelled)
          → alike building.state now
          → ∃ schedule,
              Suite.AddsReports factories jobs
                ((Suite.runChecks services factories event project).trace state)
                ((Group.runAll schedule jobs).trace now))
      ∧ ∀ (trigger : Event) (project' : Project) (state now : ε),
          let suite := ((router services).dispatch event project).trace state
          let tests := fun schedule =>
            ((router { services with schedule }).dispatch trigger project').trace now
          event.kind ∈ ["check_suite:requested", "check_suite:rerequested"]
          → trigger.kind = "exec"
          → event.branch? ≠ some services.config.sources.mainline
          → (∀ own : UnitOfWork ε → Outcome,
              (∀ spec ∈ Catalog.suite services.config,
                (services.unit spec).EndsAs (own (services.unit spec))
                ∧ (own (services.unit spec)).cancellation? = none)
              → ∀ schedule, suite.value = (tests schedule).value)
            ∧ ∀ alike : ε → ε → Prop,
                services.reporter.Unnoticed alike
                → (∀ spec ∈ Catalog.suite services.config,
                    (services.unit spec).Steady alike ∧ (services.unit spec).Uncancelled)
                → alike state now
                → ∃ schedule, suite.value = (tests schedule).value := by
  refine ⟨?agrees, ?adds, ?exec⟩
  case agrees =>
    intro factories jobs state building own settled schedule now
    exact Suite.runChecks_agrees taking project shown building settled schedule now
  case adds =>
    intro alike factories jobs state now built unnoticed building jobs both
    exact Suite.runChecks_adds taking project shown building unnoticed
      (fun job member => (jobs job member).1) (fun job member => (jobs job member).2) both
  case exec =>
    intro trigger project' state now suite tests requested triggered elsewhere
    have built := Factory.mapM_ofJob_run services (Catalog.suite services.config) state
    have building := congrArg Trace.value built
    have ready
      : (Attempt.trace ((Suite.factories services).mapM Factory.run) state).state = state :=
      congrArg Trace.state built
    constructor
    · intro own settled schedule
      have agrees := Suite.runChecks_agrees taking project shown building
        (List.forall_mem_map.mpr settled) schedule now
      have suites := (dispatch_suite_exec services requested triggered project project').1
      have execs :=
        (dispatch_suite_exec { services with schedule } requested triggered project project').2
      simp only [suite, tests, suites, execs]
      exact checkSuite_exec project elsewhere agrees.value trigger project'
    · intro alike unnoticed jobs both
      obtain ⟨schedule, adds⟩ := Suite.runChecks_adds taking project shown building unnoticed
        (List.forall_mem_map.mpr fun spec member => (jobs spec member).1)
        (List.forall_mem_map.mpr fun spec member => (jobs spec member).2) (ready.symm ▸ both)
      have suites := (dispatch_suite_exec services requested triggered project project').1
      have execs :=
        (dispatch_suite_exec { services with schedule } requested triggered project project').2
      refine ⟨schedule, ?_⟩
      simp only [suite, tests, suites, execs]
      exact checkSuite_exec project elsewhere adds.value trigger project'

/-- An event of a pull request. -/
def branchEvent : Event :=
  { kind := "check_suite:requested", ref := "refs/heads/fix", buildId := "b7" }

/-- Checks whose reports take a turn of their own come to what the bare jobs come to, whether these
take turns in the same order or in another.
-/
theorem runChecks_addsReports_namesakes
    : let services : Services Unit :=
        { rehearsal with reporter := .later .console, schedule := fun count => count + 1 }
      let factories := Group.namesakes.map (Factory.ofUnit "check")
      let checked := (Suite.runChecks services factories branchEvent Release.equipped).trace ()
      let own := fun job : UnitOfWork Unit => (job.run.trace ()).value
      let suite := ((router services).dispatch branchEvent Release.equipped).trace ()
      let style : UnitFailure := ⟨"lint", "style", some 2⟩
      services.reporter.TakesAll
      ∧ services.reporter.Unnoticed Eq
      ∧ (∃ detailsUrl, services.detailsUrl branchEvent.buildId = .ok detailsUrl)
      ∧ Suite.Agrees factories Group.namesakes own checked
          ((Group.runAll .fair Group.namesakes).trace ())
      ∧ (∃ schedule,
          Suite.AddsReports factories Group.namesakes checked
            ((Group.runAll schedule Group.namesakes).trace ()))
      ∧ checked.value = .ok (.error (.ofFailures style [⟨"lint", "OSError: disk", none⟩]))
      ∧ suite.value
        = (((router { services with schedule := .fair }).dispatch { kind := "exec" }
            Release.equipped).trace ()).value := by
  intro services factories checked own suite style
  have taking : services.reporter.TakesAll := Reporter.console_takesAll.later
  have unnoticed : services.reporter.Unnoticed Eq := (Reporter.console_unnoticed Eq).later
  have shown : services.detailsUrl branchEvent.buildId
      = .ok "https://brigadecore.github.io/kashti/builds/b7" := by cbv
  have settled
    : ∀ job ∈ Group.namesakes, job.EndsAs (own job) ∧ (own job).cancellation? = none := by
    intro job member
    simp only [Group.namesakes, List.mem_cons, List.not_mem_nil, or_false] at member
    rcases member with rfl | rfl | rfl
    all_goals exact ⟨fun _ _ goes => (Group.ofBehaviour_goes goes).2, rfl⟩
  have running : ∀ job ∈ Group.namesakes, job.Steady Eq ∧ job.Uncancelled := by
    intro job member
    refine ⟨job.steady_eq, fun acts last goes => ?_⟩
    obtain ⟨ends, running⟩ := settled job member
    rw [ends acts last goes]
    exact running
  have tests : ∀ spec ∈ Catalog.suite services.config,
      (services.unit spec).EndsAs (own (services.unit spec))
      ∧ (own (services.unit spec)).cancellation? = none := by
    intro spec _
    refine ⟨fun acts last goes => ?_, rfl⟩
    obtain ⟨_, course, _⟩ := JobSpec.unit_goes goes
    exact (Executor.dryRun_goes course).2
  obtain ⟨agrees, adds, exec⟩ := runChecks_addsReports taking Release.equipped shown
  obtain ⟨exec, _⟩ := exec { kind := "exec" } Release.equipped () () (by decide) rfl (by decide)
  exact ⟨taking, unnoticed, ⟨_, shown⟩,
    agrees factories Group.namesakes () rfl own settled .fair (),
    adds Eq factories Group.namesakes () () unnoticed rfl running rfl,
    by decide +kernel, exec own tests .fair⟩

end Handlers

end Conductor
