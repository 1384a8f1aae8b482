import Conductor.CommandLine.Reply
import Conductor.Proofs.ExitCodes
import Conductor.Proofs.ReportDelivery
import Conductor.Proofs.RequestedCheck
import Conductor.Proofs.TemplateTexts

/-! Checks that run again. A suite whose reports are all taken reports once on each of its jobs,
under the name of the job; a request by that name runs the same job again, and what is reported and
answered then depends on the outcome of the job alone.
-/

namespace Conductor

variable {ε : Type}

-----------------------------------------------------------------------------------------
-- Reports that are taken
-----------------------------------------------------------------------------------------

theorem JobSpec.unit_silent (executor : Executor ε) (spec : JobSpec)
    : (spec.unit executor).Silent :=
  unit_every executor ⟨rfl, rfl⟩ (fun _ => ⟨rfl, rfl⟩) fun _ => ⟨rfl, rfl⟩

/-- Where all reports are taken, none is broken off. -/
theorem Check.Course.Taken.delivered {reporter : Reporter ε}
    {report : Check.Course ε → StatusReport}
    {course : Check.Course ε} {acts : List Act} (taken : course.Taken reporter report acts)
    (taking : reporter.TakesAll)
    : course.breakdown = none := by
  obtain ⟨_, deeds, answer, _, answered, broken, _⟩ := taken
  obtain rfl := taking _ deeds answer answered
  exact broken.symm

/-- What is made of the names of jobs and the outcomes of their courses is made of the courses. -/
theorem Check.Course.map_zip {α : Type} {executor : Executor ε} {specs : List JobSpec}
    {courses : List (Check.Course ε)}
    (ofJobs : courses.map Check.Course.job = specs.map (JobSpec.unit executor))
    (made : String → Outcome → α)
    : (specs.zip (courses.map Check.Course.outcome)).map
          (fun entry => made entry.1.name entry.2)
      = courses.map fun course => made course.job.name course.outcome := by
  have names : specs.map JobSpec.name = courses.map fun course => course.job.name := by
    have same := congrArg (List.map UnitOfWork.name) ofJobs
    rw [List.map_map, List.map_map] at same
    exact same.symm
  calc
    _ = ((specs.map JobSpec.name).zip (courses.map Check.Course.outcome)).map
          fun entry => made entry.1 entry.2 := by
      rw [List.zip_map_left, List.map_map]
      rfl
    _ = _ := by
      rw [names, List.zip_map', List.map_map]
      rfl

namespace Suite

-----------------------------------------------------------------------------------------
-- Checks that settle
-----------------------------------------------------------------------------------------

/-- The failure that the end of a job counts as. -/
def failureOf? (entry : JobSpec × Outcome) : Option UnitFailure :=
  entry.2.failure? entry.1.name

/-- The report on the end of a job. -/
def reportOn (event : Event) (project : Project) (detailsUrl : String)
    (entry : JobSpec × Outcome) : StatusReport where
  repoName := project.repoName
  buildId := event.buildId
  check := entry.1.name
  status := if (failureOf? entry).isNone then .success else .failure
  detailsUrl
  summary := (failureOf? entry).map UnitFailure.message

/-- Checks settle with the ends of their jobs: the jobs start in order, each ends once with one
report on it, and the result is made of the failures in the order of the jobs.
-/
structure Settles (event : Event) (project : Project) (detailsUrl : String)
    (ended : List (JobSpec × Outcome)) (trace : Trace Act ε (Except Fault (Except Aggregate Unit)))
    : Prop where
  starts : trace.acts.filterMap Act.start? = ended.map Prod.fst
  ends : (trace.acts.filterMap Act.end?).Perm ended
  reports
    : (trace.acts.filterMap Act.report?).Perm (ended.map (reportOn event project detailsUrl))
  value : trace.value = .ok (Group.verdict (ended.filterMap failureOf?))

/-- Reports on courses that come to their ends are reports on the ends of the jobs. -/
theorem map_reportOn {executor : Executor ε} {specs : List JobSpec}
    {courses : List (Check.Course ε)}
    (ofJobs : courses.map Check.Course.job = specs.map (JobSpec.unit executor))
    (running : ∀ course ∈ courses, course.outcome.cancellation? = none) (event : Event)
    (project : Project) (detailsUrl : String)
    : (specs.zip (courses.map Check.Course.outcome)).map (reportOn event project detailsUrl)
      = courses.map (Check.Course.report event project detailsUrl) := by
  have made := Check.Course.map_zip ofJobs fun name outcome =>
    (checkOf event project detailsUrl (.idle name : UnitOfWork ε)).report (outcome.failure? name)
  refine made.trans (List.map_congr_left fun course member => ?_)
  exact course.report_eq (running course member)

/-- Courses of which no report is broken off fail as their jobs do. -/
theorem filterMap_failureOf? {executor : Executor ε} {specs : List JobSpec}
    {courses : List (Check.Course ε)}
    (ofJobs : courses.map Check.Course.job = specs.map (JobSpec.unit executor))
    (delivered : ∀ course ∈ courses, course.breakdown = none)
    : (specs.zip (courses.map Check.Course.outcome)).filterMap failureOf?
      = courses.filterMap Check.Course.failure? := by
  have made := Check.Course.map_zip ofJobs fun name outcome => outcome.failure? name
  have each : ∀ course ∈ courses, course.outcome.failure? course.job.name = course.failure? := by
    intro course member
    rw [Check.Course.failure?, delivered course member]
  rw [List.map_congr_left each] at made
  have kept := congrArg (List.filterMap id) made
  rw [List.filterMap_map, List.filterMap_map] at kept
  exact kept

section Rerun

variable {services : Services ε} (executing : services.executor.Uncancelled)
  (taking : services.reporter.TakesAll) (event : Event) (project : Project) (state : ε)

include executing taking

/-- Checks whose reports are all taken settle.
Witness: the jobs with the outcomes of the courses that their checks take.
-/
theorem runChecks_settles (specs : List JobSpec) {detailsUrl : String}
    (shown : services.detailsUrl event.buildId = .ok detailsUrl)
    : ∃ ended,
        ended.map Prod.fst = specs
        ∧ Settles event project detailsUrl ended
            ((runChecks services (specs.map (Factory.ofJob services)) event project).trace
              state) := by
  have building := congrArg Trace.value (Factory.mapM_ofJob_run services specs state)
  obtain ⟨stretches, courses, delivers⟩ :=
    runChecks_delivers taking.uncancelled project shown building
      (List.forall_mem_map.mpr fun spec _ => executing.unit spec)
  have ofJobs : courses.map Check.Course.job = specs.map (JobSpec.unit services.executor) :=
    delivers.ofJobs
  have count : specs.length ≤ (courses.map Check.Course.outcome).length := by
    rw [List.length_map, ← List.length_map Check.Course.job, ofJobs, List.length_map]
  have delivered : ∀ course ∈ courses, course.breakdown = none := by
    intro course member
    obtain ⟨place, there⟩ := List.mem_iff_getElem?.mp member
    exact (delivers.taken place course there).delivered taking
  obtain ⟨starts, ends⟩ := delivers.jobsOnce services.executor specs rfl
  refine ⟨specs.zip (courses.map Check.Course.outcome), List.map_fst_zip count, ?_⟩
  exact {
    starts := starts.trans (List.map_fst_zip count).symm
    ends
    reports := by
      rw [map_reportOn ofJobs delivers.running]
      exact delivers.reported (List.forall_mem_map.mpr fun spec _ => spec.unit_silent _)
    value := by
      rw [delivers.value, filterMap_failureOf? ofJobs delivered]
      cases courses.filterMap Check.Course.failure? <;> rfl
  }

/-- A suite whose reports are all taken shows of each of its jobs one start, one end and one report,
and comes to the failures of these jobs, whatever is published behind the checks.
-/
theorem run_settles {detailsUrl : String}
    (shown : services.detailsUrl event.buildId = .ok detailsUrl)
    : let suite := (run services event project).trace state
      ∃ ended : List (JobSpec × Outcome),
        ended.map Prod.fst = Catalog.suite services.config
        ∧ (∀ entry ∈ ended,
            (suite.acts.filterMap Act.start?).filter (fun spec => spec.name == entry.1.name)
              = [entry.1]
            ∧ (suite.acts.filterMap Act.end?).filter (fun other => other.1.name == entry.1.name)
              = [entry])
        ∧ (suite.acts.filterMap Act.report?).Perm (ended.map (reportOn event project detailsUrl))
        ∧ suite.value = .ok (Group.verdict (ended.filterMap failureOf?)) := by
  intro suite
  obtain ⟨ended, ofSuite, settles⟩ := runChecks_settles executing taking event project state
    (Catalog.suite services.config) shown
  obtain ⟨heading, behind, value, acts, spares⟩ :=
    run_around executing event project state settles.value
  have different : (ended.map fun entry => entry.1.name).Nodup := by
    have names := suite_different services.config
    rw [← ofSuite, List.map_map] at names
    exact names
  refine ⟨ended, ofSuite, fun entry member => ?jobs, ?reports, value⟩
  case jobs =>
    have inSuite : entry.1 ∈ Catalog.suite services.config :=
      ofSuite ▸ List.mem_map_of_mem member
    have before : ∀ act ∈ [Act.did (.wrote heading)], act.Spares entry.1.name :=
      List.forall_mem_singleton.mpr (Act.spares_did _ _)
    have after : ∀ act ∈ behind, act.Spares entry.1.name :=
      fun act known => (spares act known).2 entry.1 inSuite
    constructor
    · rw [acts, spares_filter_around before after _ Act.start? JobSpec.name Act.about?_of_start?]
      refine (congrArg (List.filter _) settles.starts).trans ?_
      rw [ofSuite]
      exact filter_keyed JobSpec.name (suite_different services.config) inSuite
    · rw [acts, spares_filter_around before after _ Act.end? (fun other => other.1.name)
        Act.about?_of_end?]
      have named := filter_keyed (fun other : JobSpec × Outcome => other.1.name) different member
      exact List.perm_singleton.mp (named ▸ settles.ends.filter _)
  case reports =>
    have quiet : behind.filterMap Act.report? = [] :=
      List.filterMap_eq_nil_iff.mpr fun act known => (spares act known).1
    rw [acts, List.filterMap_append, List.filterMap_append, quiet, List.append_nil]
    exact settles.reports

end Rerun

end Suite

-----------------------------------------------------------------------------------------
-- Requests for checks
-----------------------------------------------------------------------------------------

namespace Handlers

/-- A request that names a job of the suite runs the check of that job. -/
theorem dispatch_checkRun (services : Services ε) {spec : JobSpec}
    (member : spec ∈ Catalog.suite services.config) {request : Event}
    (asked : request.kind = "check_run:rerequested")
    (named : CheckRequest.Names services.platform request.payload (Text.ofString spec.name))
    (project : Project)
    (state : ε)
    : let checks :=
        (Suite.runChecks services [Factory.ofJob services spec] request project).trace state
      ((router services).dispatch request project).trace state
      = ⟨checks.value.map fun ended => ended.mapError Failure.group, checks.state,
          .did (.wrote (.info ("Check requested: " ++ spec.name))) :: checks.acts⟩ := by
  intro checks
  have kind : request.kind = EventKind.checkRunRerequested.text := asked
  have dispatched := router_dispatch services kind project
  rw [dispatched, handler, checkRun, CheckRequest.runEvent,
    CheckRequest.nameOf_eq_some_iff.mpr named,
    Attempt.trace_bind_ok (Attempt.trace_liftExcept _ state)]
  exact congrArg (Trace.behind []) (CheckRequest.run_suite services member request project state)

end Handlers

namespace Suite

/-- A request for the check of a report runs the job again that a suite ran for the report, and
nothing else, and reports once under the same name. It is answered with the failure of that job, if
any; with the same outcome as in the suite, that is the failure that the suite has told of.
-/
structure Reruns (suite : Trace Act ε (Except Fault (Except Aggregate Unit)))
    (report : StatusReport) (again : Trace Act ε (Except Fault (Except Failure Unit)))
    (spec : JobSpec) (outcome newOutcome : Outcome) (newReport : StatusReport)
    : Prop where
  started
    : (suite.acts.filterMap Act.start?).filter (fun other => other.name == report.check) = [spec]
  ended
    : (suite.acts.filterMap Act.end?).filter (fun other => other.1.name == report.check)
      = [(spec, outcome)]
  told
    : ∀ failure,
        outcome.failure? report.check = some failure
        → report.summary = some failure.message
          ∧ ∃ group, suite.value = .ok (.error group) ∧ failure ∈ group.failures
  startedAgain : again.acts.filterMap Act.start? = [spec]
  endedAgain : again.acts.filterMap Act.end? = [(spec, newOutcome)]
  reportedAgain : again.acts.filterMap Act.report? = [newReport]
  named : newReport.check = report.check
  answered
    : again.value
      = .ok
          (match newOutcome.failure? report.check with
          | none => .ok ()
          | some failure => .error (.group (.ofFailures failure [])))
  same
    : newOutcome = outcome
      → newReport.status = report.status ∧ newReport.summary = report.summary

/-- A request runs the job again that a suite ran for the check that it names.
Witness: the ends of the jobs with which the suite and the check of the request settle.
-/
theorem reruns_of_named {services : Services ε} (executing : services.executor.Uncancelled)
    (taking : services.reporter.TakesAll) {event : Event} {project : Project} {state : ε}
    {detailsUrl : String} (shown : services.detailsUrl event.buildId = .ok detailsUrl)
    {report : StatusReport}
    (reported
      : report ∈ ((run services event project).trace state).acts.filterMap Act.report?)
    {request : Event} (asked : request.kind = "check_run:rerequested")
    (named : CheckRequest.Names services.platform request.payload (Text.ofString report.check))
    {requestUrl : String} (shownAgain : services.detailsUrl request.buildId = .ok requestUrl)
    (asking : Project) (later : ε)
    : ∃ spec outcome newOutcome newReport,
        Reruns ((run services event project).trace state) report
          (((Handlers.router services).dispatch request asking).trace later) spec outcome newOutcome
          newReport := by
  obtain ⟨ended, ofSuite, jobs, reports, value⟩ :=
    run_settles executing taking event project state shown
  obtain ⟨⟨spec, outcome⟩, member, rfl⟩ := List.mem_map.mp (reports.mem_iff.mp reported)
  have inSuite : spec ∈ Catalog.suite services.config := ofSuite ▸ List.mem_map_of_mem member
  obtain ⟨endedAgain, ofSpec, settles⟩ :=
    runChecks_settles executing taking request asking later [spec] shownAgain
  obtain ⟨⟨same, newOutcome⟩, rfl, ofSame⟩ := List.map_eq_singleton_iff.mp ofSpec
  obtain rfl : spec = same := ofSame.symm
  obtain ⟨started, finished⟩ := jobs _ member
  have again := Handlers.dispatch_checkRun services inSuite asked named asking later
  refine ⟨spec, outcome, newOutcome, reportOn request asking requestUrl (spec, newOutcome), ?_⟩
  rw [again]
  exact {
    started
    ended := finished
    told := by
      intro failure failed
      have counted : failure ∈ ended.filterMap failureOf? :=
        List.mem_filterMap.mpr ⟨_, member, failed⟩
      refine ⟨congrArg (Option.map UnitFailure.message) failed, ?_⟩
      cases all : ended.filterMap failureOf? with
      | nil => rw [all] at counted; cases counted
      | cons first rest =>
          rw [all] at value counted
          exact ⟨_, value, counted⟩
    startedAgain := settles.starts
    endedAgain := List.perm_singleton.mp settles.ends
    reportedAgain := List.perm_singleton.mp settles.reports
    named := rfl
    answered := by
      refine (congrArg (Except.map _) settles.value).trans ?_
      simp only [List.filterMap_cons, List.filterMap_nil, failureOf?, reportOn]
      cases newOutcome.failure? spec.name <;> rfl
    same := by
      rintro rfl
      exact ⟨rfl, rfl⟩
  }

/-- A listing of checks prints the name of each with the image of its job, in the order of the
suite.
-/
theorem checks_listed {services : Services ε} {δ : Type} (host : CommandLine.Host δ)
    {path : Option String}
    (loaded : Config.load host.platform host.files path = .ok (.ok services.config))
    (state : δ)
    : (CommandLine.checks host path).run.trace state
      = ⟨.ok
          (.ofLines
            (List.zipWith (fun name image => name ++ "\t" ++ image)
              ((factories services).map Factory.key)
              ((Catalog.suite services.config).map JobSpec.image))),
          state, []⟩ := by
  rw [CommandLine.checks, loaded, factories, List.map_map, List.zipWith_map, List.zipWith_self]
  rfl

/-- Checks go by one name from their reports to requests for them. Of a suite whose reports are all
taken, every report names a check whose job any request by that name runs again, with one report
under the same name. The names of the reports of a suite are those of the checks that may be asked
for, each once, and a listing of the checks prints these names in their order.
-/
theorem run_reruns {services : Services ε} (executing : services.executor.Uncancelled)
    (taking : services.reporter.TakesAll)
    (shows : ∀ buildId, ∃ detailsUrl, services.detailsUrl buildId = .ok detailsUrl)
    (event : Event) (project : Project) (state : ε)
    : let suite := (run services event project).trace state
      let names := (factories services).map Factory.key
      (∀ report ∈ suite.acts.filterMap Act.report?,
        ∀ (request : Event) (asking : Project) (later : ε),
          request.kind = "check_run:rerequested"
          → CheckRequest.Names services.platform request.payload (Text.ofString report.check)
          → ∃ spec outcome newOutcome newReport,
              Reruns suite report
                (((Handlers.router services).dispatch request asking).trace later)
                spec outcome newOutcome newReport)
      ∧ ((suite.acts.filterMap Act.report?).map StatusReport.check).Perm names
      ∧ ∀ {δ : Type} (host : CommandLine.Host δ) (path : Option String) (now : δ),
          Config.load host.platform host.files path = .ok (.ok services.config)
          → (CommandLine.checks host path).run.trace now
            = ⟨.ok
                (.ofLines
                  (List.zipWith (fun name image => name ++ "\t" ++ image) names
                    ((Catalog.suite services.config).map JobSpec.image))),
                now, []⟩ := by
  intro suite names
  obtain ⟨detailsUrl, shown⟩ := shows event.buildId
  refine ⟨?again, ?names, fun host path now loaded => checks_listed host loaded now⟩
  case again =>
    intro report reported request asking later asked named
    obtain ⟨requestUrl, shownAgain⟩ := shows request.buildId
    exact reruns_of_named executing taking shown reported asked named shownAgain asking later
  case names =>
    obtain ⟨ended, ofSuite, _, reports, _⟩ :=
      run_settles executing taking event project state shown
    have named := reports.map StatusReport.check
    rw [List.map_map] at named
    have ofNames : ended.map (StatusReport.check ∘ reportOn event project detailsUrl) = names := by
      calc
        _ = (ended.map Prod.fst).map JobSpec.name := by rw [List.map_map]; rfl
        _ = names := by
          rw [ofSuite]
          exact (List.map_map ..).symm
    exact ofNames ▸ named

/-- A request whose name is spelt with an escape and between blanks, in characters of one byte. -/
def escapedRequest : Event where
  kind := "check_run:rerequested"
  payload :=
    ("\x7b\"body\": \x7b\"check_run\": \x7b\"id\": 7, \"name\": \" \\u0074est-javascript\\n\""
      ++ "\x7d\x7d\x7d").toList.map fun char => char.toNat.toUInt8

/-- Calls of which the second fails. -/
def lintScript : List ChildProcess.Ending :=
  [.exited 0 "" "", .exited 2 "" "lint", .exited 0 "" ""]

theorem run_reruns_lint
    : let services := { Release.scriptedServices with reporter := .later .console }
      let suite := (run services mainlineEvent Release.equipped).trace lintScript
      let again := ((Handlers.router services).dispatch escapedRequest Release.equipped).trace
        (lintScript.drop 1)
      let failure : UnitFailure := ⟨"test-javascript", "lint", some 2⟩
      services.executor.Uncancelled
      ∧ services.reporter.TakesAll
      ∧ (∀ buildId, ∃ detailsUrl, services.detailsUrl buildId = .ok detailsUrl)
      ∧ escapedRequest.kind = "check_run:rerequested"
      ∧ CheckRequest.Names services.platform escapedRequest.payload
          (Text.ofString "test-javascript")
      ∧ ∃ report ∈ suite.acts.filterMap Act.report?,
          report.check = "test-javascript"
          ∧ report.summary = some failure.message
          ∧ again.acts.filterMap Act.start? = [Catalog.jsTest {}]
          ∧ again.value = .ok (.error (.group (.ofFailures failure []))) := by
  intro services suite again failure
  have executing : services.executor.Uncancelled := Executor.docker_uncancelled _ _
  have taking : services.reporter.TakesAll := Reporter.console_takesAll.later
  have shows : ∀ buildId, ∃ detailsUrl, services.detailsUrl buildId = .ok detailsUrl :=
    fun buildId => ⟨_, Config.detailsUrl_default rfl buildId⟩
  have named
    : CheckRequest.Names services.platform escapedRequest.payload
        (Text.ofString "test-javascript") :=
    CheckRequest.nameOf_eq_some_iff.mp (by rfl)
  let report := reportOn mainlineEvent Release.equipped
    "https://brigadecore.github.io/kashti/builds/" (Catalog.jsTest {}, .failed failure)
  have reported : report ∈ suite.acts.filterMap Act.report? := by decide +kernel
  have started
    : (suite.acts.filterMap Act.start?).filter (fun other => other.name == report.check)
      = [Catalog.jsTest {}] := by
    decide +kernel
  have endedAgain : again.acts.filterMap Act.end? = [(Catalog.jsTest {}, .failed failure)] := by
    decide +kernel
  obtain ⟨reruns, _⟩ := run_reruns executing taking shows mainlineEvent Release.equipped lintScript
  obtain ⟨spec, outcome, newOutcome, newReport, rerun⟩ :=
    reruns report reported escapedRequest Release.equipped (lintScript.drop 1) rfl named
  obtain rfl : spec = Catalog.jsTest {} := List.singleton_inj.mp (rerun.started.symm.trans started)
  have ended := List.singleton_inj.mp (rerun.endedAgain.symm.trans endedAgain)
  have value := rerun.answered
  rw [(Prod.mk.inj ended).2] at value
  exact ⟨executing, taking, shows, rfl, named, report, reported, rfl, rfl, rerun.startedAgain,
    value⟩

end Suite

end Conductor
