import Conductor.Proofs.ReleaseStages
import Conductor.Proofs.SuiteOutcome

/-! What a suite comes to, whether or not it passes. Its three jobs start in order and end, each
with one report; the images of the mainline are published behind them only if all of them passed and
all reports were delivered; and what becomes of the images does not touch the result.
-/

namespace Conductor

variable {ε : Type}

-----------------------------------------------------------------------------------------
-- Checks that are never cancelled
-----------------------------------------------------------------------------------------

/-- No delivery of a report is cancelled: it comes through, or breaks off with an error. -/
def Reporter.Uncancelled (reporter : Reporter ε) : Prop :=
  ∀ report deeds text, ¬(reporter report).Goes deeds (.error (.cancelled text))

theorem Reporter.console_uncancelled : (Reporter.console : Reporter ε).Uncancelled :=
  fun _ _ _ goes => nomatch (console_goes goes).2

theorem Outcome.ofFailure?_settled (failure : Option UnitFailure)
    : (Outcome.ofFailure? failure).cancellation? = none := by
  cases failure <;> rfl

/-- A check is never cancelled if neither its job nor its report is, by cases on the answer to the
report.
-/
theorem Check.unit_uncancelled {reporter : Reporter ε} (reporting : reporter.Uncancelled)
    {check : Check ε} (running : check.job.Uncancelled)
    : (check.unit reporter).Uncancelled := by
  intro acts outcome goes
  obtain ⟨own, mid, after, job, concluding, _⟩ := unit_goes goes
  obtain ⟨deeds, answer, answered, _, rfl⟩ :=
    conclude_reported (running own mid job) concluding
  rcases answer with (trouble | text) | ⟨⟩
  · rfl
  · exact absurd answered (reporting _ _ _)
  · exact Outcome.ofFailure?_settled _

/-- What a check shows: the start and the end of its job and the delivery of one report on it. The
check passes exactly if the job passed and the delivery came through.
-/
structure Concluded (spec : JobSpec) (acts : List Act) (result outcome : Outcome)
    (report : StatusReport) (breakdown : Option Breakdown)
    : Prop where
  shows : Shows acts [spec] [(spec, outcome)] [(report, breakdown)]
  named : report.check = spec.name
  passed_iff : result = .passed ↔ outcome = .passed ∧ breakdown = none

/-- A check whose job is not cancelled shows that job and one delivery. -/
theorem Check.unit_concluded {executor : Executor ε} (executing : executor.Uncancelled)
    {reporter : Reporter ε} {check : Check ε} {spec : JobSpec}
    (job : check.job = spec.unit executor)
    {acts : List Act} {result : Outcome} (goes : (check.unit reporter).work.Goes acts result)
    : ∃ outcome report breakdown, Concluded spec acts result outcome report breakdown := by
  obtain ⟨own, outcome, after, running, concluding, rfl⟩ := unit_goes goes
  rw [job] at running
  have settled := executing.unit spec own outcome running
  obtain ⟨deeds, _, rfl⟩ := JobSpec.unit_goes running
  obtain ⟨reported, answer, _, rfl, rfl⟩ := conclude_reported settled concluding
  refine ⟨outcome, check.report (outcome.failure? check.job.name), _, ?shows, ?named,
    result_eq_passed_iff settled _⟩
  case shows =>
    exact (Shows.job spec deeds outcome).append
      (.cons ⟨rfl, rfl, rfl⟩ (.append (.deeds reported) ⟨rfl, rfl, rfl⟩))
  case named => rw [Check.report, job, JobSpec.unit]

-----------------------------------------------------------------------------------------
-- Groups of checks, whatever comes of them
-----------------------------------------------------------------------------------------

/-- A group of checks is accounted for by its jobs: they start in order and each ends once, with one
delivery of a report on it; and the group passes exactly if all of the jobs pass and all of the
deliveries come through.
-/
structure ChecksAccount (specs : List JobSpec) (acts : List Act) (result : Except Aggregate Unit)
    : Prop where
  started : acts.filterMap Act.start? = specs
  ended : ((acts.filterMap Act.end?).map Prod.fst).Perm specs
  delivered
    : ((acts.filterMap Act.delivery?).map fun delivery => delivery.1.check).Perm
        (specs.map JobSpec.name)
  passed_iff
    : result = .ok ()
      ↔ (∀ entry ∈ acts.filterMap Act.end?, entry.2 = .passed)
        ∧ ∀ delivery ∈ acts.filterMap Act.delivery?, delivery.2 = none

/-- Whatever comes of a group of checks, it is accounted for by its jobs.
Witness: the group is run to completion, and each check shows its job and one delivery. If all of
the jobs pass and all of the deliveries come through, every check has passed.
-/
theorem Group.runAll_checks (schedule : Schedule) {reporter : Reporter ε}
    (reporting : reporter.Uncancelled) {executor : Executor ε} (executing : executor.Uncancelled)
    (check : JobSpec → Check ε) (job : ∀ spec, (check spec).job = spec.unit executor)
    {specs : List JobSpec} (nonempty : specs ≠ []) (state : ε)
    : let trace :=
        (runAll schedule (specs.map fun spec => (check spec).unit reporter)).trace state
      ∃ result, trace.value = .ok result ∧ ChecksAccount specs trace.acts result := by
  have unitsNonempty : (specs.map fun spec => (check spec).unit reporter) ≠ [] := by
    simpa using nonempty
  have uncancelled : ∀ unit ∈ specs.map fun spec => (check spec).unit reporter,
      unit.Uncancelled := by
    intro unit member
    obtain ⟨spec, _, rfl⟩ := List.mem_map.mp member
    exact Check.unit_uncancelled reporting (job spec ▸ executing.unit spec)
  have running := runTogether_running schedule _ state uncancelled
  obtain ⟨stretches, outcomes, completion, settled⟩ :=
    runAll_completed schedule unitsNonempty state running
  have concluded {spec : JobSpec} {acts : List Act} {result : Outcome}
      (goes : ((check spec).unit reporter).work.Goes acts result) :=
    Check.unit_concluded executing (job spec) goes
  have passed_iff := completion.passed_iff settled
  refine ⟨_, completion.value, ?started, ?ended, ?delivered, ?passed_iff⟩
  case started =>
    have starts := runAll_view (fun _ => rfl)
      (fun spec => Check.unit_shows_start reporter (job spec)) schedule specs state
    rwa [List.flatMap_singleton'] at starts
  case ended =>
    have ends := completion.view_perm_map (fun act => act.end?.map Prod.fst) (fun _ => rfl) id
      fun spec result _ acts goes => by
        obtain ⟨outcome, report, breakdown, shown⟩ := concluded goes
        rw [← List.map_filterMap, shown.shows.ends]
        rfl
    rwa [← List.map_filterMap, List.map_id] at ends
  case delivered =>
    have deliveries := completion.view_perm_map
      (fun act => act.delivery?.map fun delivery => delivery.1.check) (fun _ => rfl) JobSpec.name
      fun spec result _ acts goes => by
        obtain ⟨outcome, report, breakdown, shown⟩ := concluded goes
        rw [← List.map_filterMap, shown.shows.deliveries, List.map_singleton, shown.named]
    rwa [← List.map_filterMap] at deliveries
  case passed_iff =>
    rw [completion.value, Except.ok.injEq] at passed_iff
    rw [passed_iff]
    constructor
    · intro passed
      obtain ⟨_, ends, deliveries⟩ := runAll_checks_passed schedule reporter executor check job
        nonempty state ((completion.passed_iff settled).mpr passed)
      constructor
      · intro entry member
        obtain ⟨spec, _, rfl⟩ := List.mem_map.mp (ends.mem_iff.mp member)
        rfl
      · intro delivery member
        obtain ⟨spec, _, rfl⟩ := List.mem_map.mp (deliveries.mem_iff.mp member)
        rfl
    · rintro ⟨jobs, reports⟩ result member
      obtain ⟨_, unit, acts, goes, part⟩ := completion.course_of_mem member
      obtain ⟨spec, _, rfl⟩ := List.mem_map.mp unit
      have within := List.Subset.trans part completion.acts_subset
      obtain ⟨outcome, report, breakdown, shown⟩ := concluded goes
      refine shown.passed_iff.mpr ⟨jobs (spec, outcome) ?_, reports (report, breakdown) ?_⟩
      · exact List.filterMap_subset _ within (shown.shows.ends ▸ List.mem_singleton_self _)
      · exact List.filterMap_subset _ within (shown.shows.deliveries ▸ List.mem_singleton_self _)

-----------------------------------------------------------------------------------------
-- Images of the mainline
-----------------------------------------------------------------------------------------

namespace Suite

/-- The acts by which the images of the mainline are published: what is written before, the job with
the deeds of the executor, and a warning if its outcome counts as a failure.
-/
def edgeActs (images : JobSpec) (deeds : List Deed) (outcome : Outcome) : List Act :=
  let warnings : List Message := (outcome.failure? images.name).toList.map fun failure =>
    .warning ("edge image publish failed: " ++ failure.message)
  .did (.wrote (.dim "mainline build: publishing edge images"))
    :: .started images
    :: (deeds.map .did
      ++ .ended images outcome :: warnings.map fun message => .did (.wrote message))

/-- The images are the one job that is started to publish them. -/
theorem edgeActs_starts (images : JobSpec) (deeds : List Deed) (outcome : Outcome)
    : (edgeActs images deeds outcome).filterMap Act.start? = [images] := by
  have blind : ∀ deed, Act.start? (.did deed) = none := fun _ => rfl
  simp only [edgeActs, List.filterMap_cons, List.filterMap_append, Act.filterMap_did blind,
    Act.filterMap_wrote blind, Act.start?, List.append_nil]

/-- Besides the start and the end of the images, nothing but deeds is done to publish them. -/
theorem edgeActs_every {P : Act → Prop} {images : JobSpec} (starting : P (.started images))
    (ending : ∀ outcome, P (.ended images outcome)) (doing : ∀ deed, P (.did deed))
    (deeds : List Deed) (outcome : Outcome)
    : ∀ act ∈ edgeActs images deeds outcome, P act := by
  intro act member
  simp only [edgeActs, List.mem_cons, List.mem_append, List.mem_map] at member
  rcases member with rfl | rfl | ⟨deed, _, rfl⟩ | rfl | ⟨message, _, rfl⟩
  · exact doing _
  · exact starting
  · exact doing deed
  · exact ending outcome
  · exact doing _

/-- Publishing the images of the mainline comes through, unless the job is cancelled.
Witness: the job is settled, and its failure, if any, is written and nothing else.
-/
theorem publishEdge_trace (services : Services ε) (project : Project) (state : ε)
    (running
      : ((services.unit (Catalog.publishImages services.config project "")).run.trace
          state).value.cancellation?
        = none)
    : let trace := (publishEdge services project).trace state
      trace.value = .ok ()
      ∧ ∃ deeds outcome,
          trace.acts
          = edgeActs (Catalog.publishImages services.config project "") deeds outcome := by
  let images := Catalog.publishImages services.config project ""
  obtain ⟨⟨outcome, later, acts⟩, ran⟩
    : ∃ trace, (images.unit services.executor).run.trace state = trace := ⟨_, rfl⟩
  have settled
    : (settle (services.unit images)).trace state
      = ⟨.ok (outcome.failure? images.name), later, acts⟩ := by
    have settled := settle_trace (images.unit services.executor) state running
    rw [ran] at settled
    exact settled
  obtain ⟨deeds, shown⟩ := JobSpec.unit_run services.executor images state
  rw [ran] at shown
  dsimp only at shown
  simp only [publishEdge, Attempt.trace_write_bind]
  rw [Attempt.trace_bind_ok settled, shown]
  cases failed : outcome.failure? images.name with
  | none => exact ⟨rfl, deeds, outcome, by simp [edgeActs, images, failed]⟩
  | some failure => exact ⟨rfl, deeds, outcome, by simp [edgeActs, images, failed]⟩

/-- What comes behind checks that pass comes through, unless the images are cancelled. -/
theorem edge_value {services : Services ε} (executing : services.executor.Uncancelled)
    (event : Event) (project : Project) (state : ε)
    : ((edge services event project).trace state).value = .ok () := by
  unfold edge
  split
  · let images := Catalog.publishImages services.config project ""
    exact (publishEdge_trace services project state ((executing.unit images).run state)).1
  · rfl

/-- Behind a suite whose checks come to a result, nothing is done about its jobs, nothing more is
reported, and the result stays. Witness: by cases on whether images are published.
-/
theorem run_around {services : Services ε} (executing : services.executor.Uncancelled)
    (event : Event) (project : Project) (state : ε) {result : Except Aggregate Unit}
    (checked
      : ((runChecks services (factories services) event project).trace state).value = .ok result)
    : ∃ (heading : Message) (behind : List Act),
        ((run services event project).trace state).value = .ok result
        ∧ ((run services event project).trace state).acts
          = [.did (.wrote heading)]
            ++ ((runChecks services (factories services) event project).trace state).acts
            ++ behind
        ∧ ∀ act ∈ behind,
            act.report? = none ∧ ∀ spec ∈ Catalog.suite services.config, act.Spares spec.name := by
  obtain ⟨heading, whole⟩ := run_trace services event project state
  rw [whole, Trace.behind_value, Trace.behind_acts]
  rcases ended : (runChecks services (factories services) event project).trace state with
    ⟨value, later, acts⟩
  rw [ended] at checked
  obtain rfl : value = .ok result := checked
  rcases result with failure | ⟨⟩
  · exact ⟨heading, [], rfl, by simp [behindChecks], List.forall_mem_nil _⟩
  refine ⟨heading, ((edge services event project).trace later).acts, ?result, ?whole, ?spares⟩
  case result =>
    simp only [behindChecks, edge_value executing event project later]
    rfl
  case whole => simp only [behindChecks, List.append_assoc]
  case spares =>
    unfold edge
    split
    · let images := Catalog.publishImages services.config project ""
      obtain ⟨_, deeds, outcome, shown⟩ :=
        publishEdge_trace services project later ((executing.unit images).run later)
      have other : ∀ spec ∈ Catalog.suite services.config, some images.name ≠ some spec.name :=
        fun spec member same => suite_ne_images services.config spec member (Option.some.inj same)
      rw [shown]
      exact edgeActs_every ⟨rfl, other⟩ (fun _ => ⟨rfl, other⟩)
        (fun deed => ⟨rfl, fun spec _ => Act.spares_did spec.name deed⟩) deeds outcome
    · exact List.forall_mem_nil _

/-- Images of the mainline are published for an event of the mainline behind checks of which all
jobs passed and all reports were delivered.
-/
def Publishes (config : Config) (event : Event) (checks : List Act) : Prop :=
  ((∀ entry ∈ checks.filterMap Act.end?, entry.2 = .passed)
    ∧ ∀ delivery ∈ checks.filterMap Act.delivery?, delivery.2 = none)
  ∧ event.branch? = some config.sources.mainline

/-- A suite is accounted for by the group of its checks, whose result is that of the suite. Nothing
but the publishing of images comes behind the group, and that exactly if the images are to be
published.
-/
structure Account (config : Config) (event : Event) (project : Project)
    (checks trace : Trace Act ε (Except Fault (Except Aggregate Unit)))
    : Prop where
  result
    : ∃ result,
        checks.value = .ok result
        ∧ trace.value = .ok result
        ∧ ChecksAccount (Catalog.suite config) checks.acts result
  acts
    : ∃ edge,
        trace.acts
        = .did (.wrote (.header
            ("check suite for " ++ project.repoName ++ " (" ++ refText event.ref ++ ")")))
          :: ((Catalog.suite config).map (fun spec => .built spec.name) ++ checks.acts ++ edge)
        ∧ (Publishes config event checks.acts
            → ∃ deeds outcome,
                edge = edgeActs (Catalog.publishImages config project "") deeds outcome)
        ∧ (¬Publishes config event checks.acts → edge = [])
  published
    : Publishes config event checks.acts
      → trace.acts.filterMap Act.start?
        = Catalog.suite config ++ [Catalog.publishImages config project ""]
  spared
    : ¬Publishes config event checks.acts
      → trace.acts.filterMap Act.start? = Catalog.suite config

/-- What comes behind the checks of a suite makes up its account.
Witness: the jobs that the suite starts are those of its checks and of what comes behind them.
-/
theorem Account.of_behind {config : Config} {event : Event} {project : Project}
    {checks rest : Trace Act ε (Except Fault (Except Aggregate Unit))}
    {result : Except Aggregate Unit} (checked : checks.value = .ok result)
    (account : ChecksAccount (Catalog.suite config) checks.acts result)
    (value : rest.value = .ok result)
    (publishing
      : Publishes config event checks.acts
        → ∃ deeds outcome,
            rest.acts = edgeActs (Catalog.publishImages config project "") deeds outcome)
    (sparing : ¬Publishes config event checks.acts → rest.acts = [])
    : Account config event project checks
        ((rest.behind
          ((Catalog.suite config).map (fun spec => .built spec.name) ++ checks.acts)).behind
            [.did (.wrote (.header
              ("check suite for " ++ project.repoName ++ " (" ++ refText event.ref ++ ")")))]) := by
  have starts : ∀ header : Message,
      ((rest.behind
        ((Catalog.suite config).map (fun spec => .built spec.name) ++ checks.acts)).behind
          [.did (.wrote header)]).acts.filterMap Act.start?
      = Catalog.suite config ++ rest.acts.filterMap Act.start? := by
    intro header
    simp only [Trace.behind_acts, List.filterMap_append, Factory.built_starts, account.started]
    rfl
  exact {
    result := ⟨result, checked, value, account⟩
    acts := ⟨rest.acts, rfl, publishing, sparing⟩
    published := by
      intro publishes
      obtain ⟨deeds, outcome, acts⟩ := publishing publishes
      rw [starts, acts, edgeActs_starts]
    spared := by
      intro spares
      rw [starts, sparing spares, List.filterMap_nil, List.append_nil]
  }

/-- A suite whose jobs and reports are never cancelled is accounted for by the group of its checks.
Witness: the account of the group, by cases on its result and the branch.
-/
theorem run_account {services : Services ε} (executing : services.executor.Uncancelled)
    (reporting : services.reporter.Uncancelled) (event : Event) (project : Project) (state : ε)
    {detailsUrl : String}
    (shown : services.detailsUrl event.buildId = .ok detailsUrl)
    : let config := services.config
      let checks :=
        (Group.runAll services.schedule ((Catalog.suite config).map fun spec =>
          (check services event project detailsUrl spec).unit services.reporter)).trace state
      Account config event project checks ((run services event project).trace state) := by
  intro config checks
  let images := Catalog.publishImages config project ""
  obtain ⟨result, value, account⟩
    : ∃ result, checks.value = .ok result
        ∧ ChecksAccount (Catalog.suite config) checks.acts result :=
    Group.runAll_checks services.schedule reporting executing
      (check services event project detailsUrl) (fun _ => rfl) (List.cons_ne_nil _ _) state
  have publishes : Publishes config event checks.acts
      ↔ result = .ok () ∧ isMainline config event = true := by
    rw [Publishes, ← account.passed_iff, isMainline, beq_iff_eq]
  have ran
    : (runChecks services (factories services) event project).trace state
      = ⟨.ok result, checks.state,
          (Catalog.suite config).map (fun spec => .built spec.name) ++ checks.acts⟩ := by
    rw [← value]
    exact runChecks_trace services (Catalog.suite config) event project state shown
  simp only [run, Attempt.trace_write_bind]
  rw [Attempt.trace_bind_ok ran]
  rcases result with failure | ⟨⟩
  · -- checks that fail are followed by nothing
    refine .of_behind value account rfl (fun published => ?_) fun _ => rfl
    obtain ⟨passed, _⟩ := publishes.mp published
    cases passed
  · cases mainline : isMainline config event with
    | false =>
        simp only [config, mainline] at publishes ⊢
        refine .of_behind value account rfl (fun published => ?_) fun _ => rfl
        obtain ⟨_, main⟩ := publishes.mp published
        cases main
    | true =>
        obtain ⟨through, deeds, outcome, acts⟩ := publishEdge_trace services project checks.state
          ((executing.unit images).run checks.state)
        have edge
          : (publishEdge services project).trace checks.state
            = ⟨.ok (), ((publishEdge services project).trace checks.state).state,
                edgeActs images deeds outcome⟩ := by
          rw [← through, ← acts]
        simp only [config, if_true]
        rw [Attempt.trace_bind_ok edge]
        refine .of_behind value account rfl ?publishing ?sparing
        case publishing =>
          intro _
          exact ⟨deeds, outcome, by simp [images, config]⟩
        case sparing => exact fun spares => absurd (publishes.mpr ⟨rfl, mainline⟩) spares

/-- A suite whose jobs and reports are never cancelled runs its three jobs once each, started in
order, and publishes the images of the mainline behind them if all jobs passed and all reports were
delivered. Its result is that of the checks, whatever becomes of the images.
-/
theorem run_publishesEdge {services : Services ε} (executing : services.executor.Uncancelled)
    (reporting : services.reporter.Uncancelled) (event : Event) (project : Project) (state : ε)
    {detailsUrl : String}
    (shown : services.detailsUrl event.buildId = .ok detailsUrl)
    : let config := services.config
      let images := Catalog.publishImages config project ""
      let checks :=
        (Group.runAll services.schedule ((Catalog.suite config).map fun spec =>
          (check services event project detailsUrl spec).unit services.reporter)).trace state
      Account config event project checks ((run services event project).trace state)
      ∧ (Catalog.suite config).map JobSpec.name = ["test-go", "test-javascript", "test-e2e"]
      ∧ images.name = "build-and-publish-images"
      ∧ images.env.lookup "VERSION" = some "" := by
  intro config images checks
  exact ⟨run_account executing reporting event project state shown, rfl, rfl, rfl⟩

/-- An event of the mainline. -/
def mainlineEvent : Event := { kind := "check_suite:requested", ref := "refs/heads/master" }

/-- Three calls that succeed, and one that is denied. -/
def deniedScript : List ChildProcess.Ending :=
  List.replicate 3 (.exited 0 "" "") ++ [.exited 1 "" "denied"]

theorem run_publishesEdge_denied
    : let services := Release.scriptedServices
      let trace := (run services mainlineEvent Release.equipped).trace deniedScript
      let denied : UnitFailure := ⟨"build-and-publish-images", "denied", some 1⟩
      services.executor.Uncancelled
      ∧ services.reporter.Uncancelled
      ∧ (∃ detailsUrl, services.detailsUrl mainlineEvent.buildId = .ok detailsUrl)
      ∧ trace.value = .ok (.ok ())
      ∧ trace.acts.filterMap Act.start?
        = Catalog.suite {} ++ [Catalog.publishImages {} Release.equipped ""]
      ∧ trace.acts.getLast?
        = some (.did (.wrote (.warning ("edge image publish failed: " ++ denied.message)))) := by
  intro services trace denied
  have executing : services.executor.Uncancelled := Executor.docker_uncancelled _ _
  have reporting : services.reporter.Uncancelled := Reporter.console_uncancelled
  have shown
    : services.detailsUrl mainlineEvent.buildId
      = .ok "https://brigadecore.github.io/kashti/builds/" := by cbv
  obtain ⟨account, _⟩ :=
    run_publishesEdge executing reporting mainlineEvent Release.equipped deniedScript shown
  obtain ⟨result, _, value, checks⟩ := account.result
  have passed := checks.passed_iff.mpr ⟨by decide +kernel, by decide +kernel⟩
  rw [passed] at value
  have started := account.published ⟨⟨by decide +kernel, by decide +kernel⟩, rfl⟩
  exact ⟨executing, reporting, ⟨_, shown⟩, value, started, by decide +kernel⟩

end Suite

end Conductor
