import Conductor.Handlers
import Conductor.Proofs.Composition

/-! What every request is made of. A closed kind of runs that holds of the jobs of services and of
their checks, of writing messages and of building checks holds of all that is done for an event.
-/

namespace Conductor

variable {ε : Type} {kind : Run.Kind ε} {allowed : JobSpec → Prop}

-----------------------------------------------------------------------------------------
-- Jobs and checks
-----------------------------------------------------------------------------------------

/-- What services do with the allowed jobs is of a kind: the jobs, the checks of these, and what
stands between them.
-/
structure Services.AreOf (services : Services ε) (kind : Run.Kind ε) (allowed : JobSpec → Prop)
    : Prop where
  closed : kind.Closed
  writing : ∀ messages, kind _ (Run.write messages)
  building : ∀ key, kind _ (Run.act (.built key))
  jobs : ∀ spec, allowed spec → (services.unit spec).IsOf kind
  checks
    : ∀ (check : Check ε) spec,
        allowed spec
        → check.job = services.unit spec
        → (check.unit services.reporter).IsOf kind

theorem Services.AreOf.write {services : Services ε} (each : services.AreOf kind allowed)
    (messages : List Message)
    : (Attempt.write messages : Attempt ε Unit).IsOf kind :=
  .write each.closed each.writing messages

def Factory.ofJob (services : Services ε) (spec : JobSpec) : Factory ε :=
  .ofUnit spec.name (services.unit spec)

theorem Factory.ofJob_run (services : Services ε) (spec : JobSpec) (state : ε)
    : (Factory.ofJob services spec).run.trace state
      = ⟨.ok (services.unit spec), state, [.built spec.name]⟩ := rfl

/-- The factories of jobs build the jobs in order, by induction on the jobs. -/
theorem Factory.mapM_ofJob_run (services : Services ε) (specs : List JobSpec) (state : ε)
    : Attempt.trace ((specs.map (Factory.ofJob services)).mapM Factory.run) state
      = ⟨.ok (specs.map services.unit), state, specs.map fun spec => .built spec.name⟩ := by
  induction specs generalizing state with
  | nil => rfl
  | cons spec rest ih =>
      rw [List.map_cons, List.mapM_cons,
        Attempt.trace_bind_ok (Factory.ofJob_run services spec state),
        Attempt.trace_bind_ok (ih state), Attempt.trace_pure]
      simp only [Trace.behind, List.append_nil, List.singleton_append, List.map_cons]

section Services

variable {services : Services ε} (each : services.AreOf kind allowed)

include each

-----------------------------------------------------------------------------------------
-- Suites and releases
-----------------------------------------------------------------------------------------

/-- The building of jobs is of the kind, by induction on the jobs. -/
theorem Factory.mapM_ofJob_isOf (specs : List JobSpec)
    : Attempt.IsOf ((specs.map (Factory.ofJob services)).mapM Factory.run) kind := by
  induction specs with
  | nil => exact .pure each.closed _
  | cons spec rest ih =>
      rw [List.map_cons, List.mapM_cons]
      refine .bind each.closed ?first fun _ _ _ => .bind each.closed ih fun _ _ _ => ?last
      case first =>
        refine .bind each.closed (.liftM each.closed (each.building _)) fun _ _ _ => ?_
        -- a job is built without a change of the state
        have built : kind _ (Run.change (Factory.ofJob services spec).build) := each.closed.pure _
        refine .bind each.closed (.liftM each.closed built) fun _ made _ => ?_
        cases made with
        | ok unit => exact .pure each.closed _
        | error breakdown => exact .throw each.closed _
      case last => exact .pure each.closed _

namespace Suite

/-- The checks of allowed jobs are of the kind. -/
theorem runChecks_isOf {specs : List JobSpec} (within : ∀ spec ∈ specs, allowed spec)
    (event : Event) (project : Project)
    : (runChecks services (specs.map (Factory.ofJob services)) event project).IsOf kind := by
  unfold runChecks
  split
  · exact .throw each.closed _
  refine .bind each.closed (Factory.mapM_ofJob_isOf each specs) fun state units built => ?_
  rw [Factory.mapM_ofJob_run services specs state] at built
  cases built
  refine Group.runAll_isOf each.closed each.writing services.schedule fun unit member => ?_
  rw [List.map_map, List.map_map] at member
  obtain ⟨spec, known, rfl⟩ := List.mem_map.mp member
  exact each.checks _ spec (within spec known) rfl

theorem publishEdge_isOf {project : Project}
    (images : allowed (Catalog.publishImages services.config project ""))
    : (publishEdge services project).IsOf kind := by
  refine .bind each.closed (each.write _) fun _ _ _ => ?_
  refine .bind each.closed (settle_isOf each.closed (each.jobs _ images)) fun _ failure _ => ?_
  cases failure with
  | none => exact .pure each.closed _
  | some failure => exact each.write _

/-- A suite is of the kind if its jobs are allowed, and that which publishes images. -/
theorem run_isOf (suite : ∀ spec ∈ Catalog.suite services.config, allowed spec) {project : Project}
    (images : allowed (Catalog.publishImages services.config project "")) (event : Event)
    : (run services event project).IsOf kind := by
  have checks := runChecks_isOf each suite event project
  refine .bind each.closed (each.write _) fun _ _ _ => ?_
  refine .bind each.closed checks fun _ result _ => ?_
  cases result with
  | error failure => exact .pure each.closed _
  | ok =>
      dsimp only
      split
      · exact .bind each.closed (publishEdge_isOf each images) fun _ _ _ => .pure each.closed _
      · exact .pure each.closed _

end Suite

/-- A release is of the kind if its jobs are allowed. -/
theorem Release.run_isOf {project : Project} {version : String}
    (within : ∀ spec, .job spec ∈ (stages services.config project version).1 → allowed spec)
    : (run services project version).IsOf kind := by
  unfold run
  split
  · exact .pure each.closed _
  refine .bind each.closed (each.write _) fun _ _ _ => ?_
  refine .bind each.closed (each.write _) fun _ _ _ => ?_
  refine .bind each.closed (Group.runFrom_isOf each.closed each.writing _ _ ?stages)
    fun _ result _ => ?_
  case stages =>
    intro unit member
    obtain ⟨stage, known, rfl⟩ := List.mem_map.mp member
    cases stage with
    | job spec => exact each.jobs spec (within spec known)
    | idle name => exact .pure each.closed _
  cases result with
  | error failure => exact .pure each.closed _
  | ok => exact .bind each.closed (each.write _) fun _ _ _ => .pure each.closed _

-----------------------------------------------------------------------------------------
-- Requests
-----------------------------------------------------------------------------------------

namespace Handlers

theorem ofGroup_isOf {result : Attempt ε (Except Aggregate Unit)} (group : result.IsOf kind)
    : (ofGroup result).IsOf kind :=
  .bind each.closed group fun _ _ _ => .pure each.closed _

section Suite

variable (suite : ∀ spec ∈ Catalog.suite services.config, allowed spec) (event : Event)

include suite

theorem exec_isOf (project : Project) : (exec services event project).IsOf kind := by
  refine ofGroup_isOf each (Group.runAll_isOf each.closed each.writing services.schedule ?_)
  intro unit member
  obtain ⟨spec, known, rfl⟩ := List.mem_map.mp member
  exact each.jobs spec (suite spec known)

theorem e2e_isOf (project : Project) : (e2e services event project).IsOf kind := by
  have job := each.jobs _ (suite (Catalog.e2e services.config) (by simp [Catalog.suite]))
  refine .bind each.closed (settle_isOf each.closed job) fun _ failure _ => ?_
  cases failure with
  | none => exact .pure each.closed _
  | some failure => exact .pure each.closed _

/-- A request for one check is of the kind, since that check is of a job of the suite. -/
theorem checkRun_isOf (project : Project) : (checkRun services event project).IsOf kind := by
  refine .bind each.closed (.liftExcept each.closed _) fun _ requested _ => ?_
  cases requested with
  | none => exact .pure each.closed _
  | some name =>
      dsimp only [CheckRequest.run]
      cases found : CheckRequest.factory? (Suite.factories services) name with
      | none => exact .pure each.closed _
      | some factory =>
          obtain ⟨spec, member, rfl⟩ := List.mem_map.mp (List.mem_of_find?_eq_some found)
          have single : ∀ other ∈ [spec], allowed other :=
            List.forall_mem_singleton.mpr (suite spec member)
          have check := Suite.runChecks_isOf each single event project
          exact .bind each.closed (each.write _) fun _ _ _ =>
            .bind each.closed check fun _ _ _ => .pure each.closed _

variable {project : Project}
  (images : allowed (Catalog.publishImages services.config project ""))

include images

theorem checkSuite_isOf : (checkSuite services event project).IsOf kind :=
  ofGroup_isOf each (Suite.run_isOf each suite images event)

theorem issueComment_isOf : (issueComment services event project).IsOf kind := by
  refine .bind each.closed (.liftExcept each.closed _) fun _ verdict _ => ?_
  cases verdict with
  | accepted => exact checkSuite_isOf each suite event images
  | _ => exact .bind each.closed (each.write _) fun _ _ _ => .pure each.closed _

/-- Requests other than pushes are of the kind if the jobs of the suite are allowed, and that which
publishes images. Witness: by cases on the kind of event.
-/
theorem handler_isOf {eventKind : EventKind} (other : eventKind ≠ .push)
    : (handler services eventKind event project).IsOf kind := by
  cases eventKind with
  | push => exact absurd rfl other
  | exec => exact exec_isOf each suite event project
  | e2e => exact e2e_isOf each suite event project
  | checkSuiteRequested => exact checkSuite_isOf each suite event images
  | checkSuiteRerequested => exact checkSuite_isOf each suite event images
  | checkRunRerequested => exact checkRun_isOf each suite event project
  | issueCommentCreated => exact issueComment_isOf each suite event images
  | issueCommentEdited => exact issueComment_isOf each suite event images

end Suite

variable (all : ∀ spec, allowed spec) (event : Event) (project : Project)

include all

theorem push_isOf : (push services event project).IsOf kind := by
  refine .bind each.closed (.liftExcept each.closed _) fun _ matched _ => ?_
  refine .bind each.closed (each.write _) fun _ _ _ => ?_
  dsimp only
  split
  · split
    · exact .bind each.closed (each.write _) fun _ _ _ => .pure each.closed _
    · exact .pure each.closed _
  have suite : (checkSuite services event project).IsOf kind :=
    checkSuite_isOf each (fun spec _ => all spec) event (all _)
  refine .bind each.closed suite fun _ result _ => ?_
  rcases result with failure | ⟨⟩
  · exact .pure each.closed _
  · dsimp only
    split
    · exact .pure each.closed _
    · exact Release.run_isOf each fun spec _ => all spec

/-- All that is done for an event is of the kind, if all jobs are allowed. -/
theorem dispatch_isOf : ((router services).dispatch event project).IsOf kind := by
  rw [dispatch_eq]
  cases known : EventKind.ofText? event.kind with
  | none => exact .bind each.closed (each.write _) fun _ _ _ => .pure each.closed _
  | some eventKind =>
      dsimp only
      by_cases pushed : eventKind = .push
      · rw [pushed]
        exact push_isOf each all event project
      · exact handler_isOf each (fun spec _ => all spec) event (all _) pushed

end Handlers

end Services

end Conductor
