import Conductor.Proofs.CommentGate
import Conductor.Proofs.FailureAccounting

/-! Exit codes classify whole runs. The code of a run that comes to a result tells whether a build
failed, a check was asked for that nobody knows, or something that the run needs was missing.
-/

namespace Conductor

variable {ε : Type}

-----------------------------------------------------------------------------------------
-- Checks that payloads name
-----------------------------------------------------------------------------------------

namespace CheckRequest

/-- A payload names a check: it is read as a table with a text for the name of the check run, of
which the name is left when the blanks around it are taken away.
-/
def Names (platform : Platform) (payload : Bytes) (name : Text) : Prop :=
  ∃ table body run text,
    Json.readTableBytes platform.jsonDepth payload = .ok (some table)
    ∧ Table.get? table (Text.ofString "body") = some (.table body)
    ∧ Table.get? body (Text.ofString "check_run") = some (.table run)
    ∧ Table.get? run (Text.ofString "name") = some (.str text)
    ∧ Text.stripUnits text = name
    ∧ name ≠ []

/-- A text is found at a path of three keys exactly if tables lead there. -/
theorem textAt?_eq_some_iff {table : Table Text} {text : Text}
    : textAt? table namePath = some text
      ↔ ∃ body run,
          Table.get? table (Text.ofString "body") = some (.table body)
          ∧ Table.get? body (Text.ofString "check_run") = some (.table run)
          ∧ Table.get? run (Text.ofString "name") = some (.str text) := by
  have isText : ∀ value : Value Text, value.str? = some text ↔ value = .str text := by
    intro value
    cases value <;> simp [Value.str?]
  simp only [textAt?, namePath, List.map_cons, List.map_nil, Option.bind_eq_some_iff, isText,
    exists_eq_right, Value.atPath?_cons_eq_some_iff]
  constructor
  · rintro ⟨_, _, ⟨⟩, inBody, body, _, rfl, inRun, run, _, rfl, found, ⟨⟩⟩
    exact ⟨body, run, inBody, inRun, found⟩
  · rintro ⟨body, run, inBody, inRun, found⟩
    exact ⟨_, _, rfl, inBody, body, _, rfl, inRun, run, _, rfl, found, rfl⟩

/-- A name is found in a payload exactly if the payload names the check. -/
theorem nameOf_eq_some_iff {platform : Platform} {payload : Bytes} {name : Text}
    : nameOf platform payload = .ok (some name) ↔ Names platform payload name := by
  unfold nameOf Names
  rcases read : Json.readTableBytes platform.jsonDepth payload with fault | _ | table
  · simp
  · simp
  · rw [Except.ok.injEq, Option.filter_eq_some_iff, Option.map_eq_some_iff]
    simp only [textAt?_eq_some_iff]
    constructor
    · rintro ⟨⟨text, ⟨body, run, inBody, inRun, found⟩, stripped⟩, some⟩
      exact ⟨table, body, run, text, rfl, inBody, inRun, found, stripped, by simpa using some⟩
    · rintro ⟨_, body, run, text, ⟨⟩, inBody, inRun, found, stripped, some⟩
      exact ⟨⟨text, ⟨body, run, inBody, inRun, found⟩, stripped⟩, by simpa using some⟩

end CheckRequest

-----------------------------------------------------------------------------------------
-- Handlers account for failures
-----------------------------------------------------------------------------------------

namespace Handlers

section Accounts

variable (services : Services ε) (event : Event) (project : Project)

theorem exitCode_ok : ¬exitCode (.ok ()) = 3 := by decide

theorem ofGroup_accounts {result : Attempt ε (Except Aggregate Unit)}
    (accounts : result.Accounts (· ≠ .ok ()))
    : (ofGroup result).Accounts (exitCode · = 3) := by
  refine .bind accounts ?_ ?_
  · intro value failed state other through
    rcases value with failure | ⟨⟩
    · cases through
      rfl
    · exact absurd rfl failed
  · intro value passed
    rcases value with failure | ⟨⟩
    · exact absurd nofun passed
    · exact .pure exitCode_ok

theorem checkSuite_accounts : (checkSuite services event project).Accounts (exitCode · = 3) :=
  ofGroup_accounts (Suite.run_accounts services event project)

theorem exec_accounts : (exec services event project).Accounts (exitCode · = 3) := by
  refine ofGroup_accounts (Group.runAll_accounts services.schedule fun unit member => ?_)
  obtain ⟨spec, known, rfl⟩ := List.mem_map.mp member
  exact spec.unit_accounts services.executor (Suite.suite_ne_images services.config spec known).symm

theorem e2e_accounts : (e2e services event project).Accounts (exitCode · = 3) := by
  have job : (services.unit (Catalog.e2e services.config)).Accounts :=
    JobSpec.unit_accounts services.executor (by decide : ("test-e2e" : String) ≠ _)
  refine .bind (settle_accounts job) ?_ ?_
  · intro value failed state other through
    cases value with
    | none => exact absurd rfl failed
    | some failure =>
        cases through
        rfl
  · intro value passed
    cases value with
    | none => exact .pure exitCode_ok
    | some failure => exact absurd nofun passed

/-- What is known of a result before a run shows no failure. -/
theorem liftExcept_bind_accounts {α β : Type} {failed : β → Prop} (result : Except Fault α)
    {next : α → Attempt ε β} (after : ∀ value, result = .ok value → (next value).Accounts failed)
    : ((liftM result : Attempt ε α) >>= next).Accounts failed := by
  cases result with
  | error fault =>
      intro before state value through
      rw [Attempt.trace_bind_error (Attempt.trace_liftExcept _ state)] at through
      cases through
  | ok value =>
      intro before state other through
      rw [Attempt.trace_bind_ok (Attempt.trace_liftExcept _ state)] at through ⊢
      exact after value rfl before state other through

theorem issueComment_accounts
    : (issueComment services event project).Accounts (exitCode · = 3) := by
  refine liftExcept_bind_accounts _ fun verdict _ => ?_
  cases verdict with
  | unrelated => exact .write_bind _ (.pure exitCode_ok)
  | untrusted association => exact .write_bind _ (.pure exitCode_ok)
  | accepted => exact checkSuite_accounts services event project

/-- A request for one check accounts for the failure of that check, and a request for none or for
one that nobody knows is no failed build.
-/
theorem checkRun_accounts : (checkRun services event project).Accounts (exitCode · = 3) := by
  refine liftExcept_bind_accounts _ fun requested _ => ?_
  cases requested with
  | none => exact .pure (by decide : ¬exitCode (.error CheckRequest.unnamed) = 3)
  | some check =>
      dsimp only [CheckRequest.run]
      cases found : CheckRequest.factory? (Suite.factories services) check with
      | none => exact .pure (by simp [exitCode, Failure.exitStatus, ExitStatus.code])
      | some factory =>
          obtain ⟨spec, member, rfl⟩ := List.mem_map.mp (List.mem_of_find?_eq_some found)
          have others : ∀ other ∈ [spec], other.name ≠ "build-and-publish-images" :=
            List.forall_mem_singleton.mpr (Suite.suite_ne_images services.config spec member).symm
          have check : (Suite.runChecks services [Factory.ofJob services spec] event
              project).Accounts (· ≠ .ok ()) :=
            Suite.runChecks_accounts services others event project
          exact .write_bind _ (ofGroup_accounts check)

/-- A push accounts for the failures of its suite and of its release. -/
theorem push_accounts : (push services event project).Accounts (exitCode · = 3) := by
  refine liftExcept_bind_accounts _ fun matched _ => ?_
  obtain ⟨version, messages⟩ := matched
  refine .write_bind _ ?_
  dsimp only
  split
  · split
    · exact .write_bind _ (.pure exitCode_ok)
    · exact .pure exitCode_ok
  refine .bind (checkSuite_accounts services event project) ?_ ?_
  · intro value failed state other through
    rcases value with failure | ⟨⟩
    · cases through
      exact failed
    · cases failed
  · intro value passed
    rcases value with failure | ⟨⟩
    · exact .pure passed
    · cases version with
      | none => exact .pure exitCode_ok
      | some version => exact Release.run_accounts services project version

/-- Every run accounts for its failures: it comes to a failed build exactly if its acts show a
failure. Witness: by cases on the handler of the event.
-/
theorem dispatch_accounts
    : ((router services).dispatch event project).Accounts (exitCode · = 3) := by
  rw [dispatch_eq]
  cases known : EventKind.ofText? event.kind with
  | none => exact .write_bind _ (.pure exitCode_ok)
  | some kind =>
      dsimp only
      cases kind with
      | push => exact push_accounts services event project
      | exec => exact exec_accounts services event project
      | e2e => exact e2e_accounts services event project
      | checkSuiteRequested => exact checkSuite_accounts services event project
      | checkSuiteRerequested => exact checkSuite_accounts services event project
      | checkRunRerequested => exact checkRun_accounts services event project
      | issueCommentCreated => exact issueComment_accounts services event project
      | issueCommentEdited => exact issueComment_accounts services event project

end Accounts

-----------------------------------------------------------------------------------------
-- Results of requests for one check
-----------------------------------------------------------------------------------------

section CheckRun

variable (services : Services ε) (event : Event) (project : Project) (state : ε)

/-- The result of a group is success or a failed build. -/
theorem ofGroup_exitCode {attempt : Attempt ε (Except Aggregate Unit)}
    {result : Except Failure Unit} (through : ((ofGroup attempt).trace state).value = .ok result)
    : exitCode result ∈ [0, 3] := by
  rw [ofGroup_trace] at through
  rcases ended : (attempt.trace state).value with fault | failure | ⟨⟩
  all_goals rw [ended] at through; cases through
  · exact List.mem_cons_of_mem _ (List.mem_singleton_self _)
  · exact List.mem_cons_self

/-- A request for one check comes to the result of that check, if the suite has a check of that
name; else nothing is done, and the result tells what is wrong with the request.
-/
theorem checkRun_through {result : Except Failure Unit}
    (through : ((checkRun services event project).trace state).value = .ok result)
    : let acts := ((checkRun services event project).trace state).acts
      (CheckRequest.nameOf services.platform event.payload = .ok none
        ∧ exitCode result = 2
        ∧ acts = [])
      ∨ ∃ name,
          CheckRequest.nameOf services.platform event.payload = .ok (some name)
          ∧ ((∀ spec ∈ Catalog.suite services.config, Text.ofString spec.name ≠ name)
              ∧ exitCode result = 1
              ∧ acts = []
            ∨ (∃ spec ∈ Catalog.suite services.config, Text.ofString spec.name = name)
              ∧ exitCode result ∈ [0, 3]) := by
  unfold checkRun CheckRequest.runEvent at *
  cases named : CheckRequest.nameOf services.platform event.payload with
  | error fault =>
      rw [named, Attempt.trace_bind_error (Attempt.trace_liftExcept _ state)] at through
      cases through
  | ok requested =>
      rw [named, Attempt.trace_bind_ok (Attempt.trace_liftExcept _ state)] at through
      rw [Attempt.trace_bind_ok (Attempt.trace_liftExcept _ state)]
      cases requested with
      | none =>
          cases through
          exact Or.inl ⟨rfl, rfl, rfl⟩
      | some name =>
          refine Or.inr ⟨name, rfl, ?_⟩
          dsimp only [CheckRequest.run] at through ⊢
          cases found : CheckRequest.factory? (Suite.factories services) name with
          | none =>
              rw [found] at through
              cases through
              refine Or.inl ⟨fun spec member same => ?_, rfl, rfl⟩
              have unknown := List.find?_eq_none.mp found (Factory.ofJob services spec)
                (List.mem_map_of_mem member)
              exact unknown (beq_iff_eq.mpr same)
          | some factory =>
              obtain ⟨spec, member, rfl⟩ := List.mem_map.mp (List.mem_of_find?_eq_some found)
              have same := List.find?_some found
              rw [found] at through
              simp only [Attempt.trace_write_bind, Trace.behind_value] at through
              exact Or.inr ⟨⟨spec, member, eq_of_beq same⟩, ofGroup_exitCode _ through⟩

end CheckRun

-----------------------------------------------------------------------------------------
-- Results of pushes
-----------------------------------------------------------------------------------------

/-- How a push comes through that finds a version or none and gives notices: without a version it is
passed over or ends with its suite; else it comes to what a suite that fails comes to, or the
version is released behind a suite that passes.
-/
inductive PushCourse (suite : Trace Act ε (Except Fault (Except Failure Unit)))
    (release : String → Trace Act ε (Except Fault (Except Failure Unit)))
    (version : Option String) (notices : List Message)
    : Except Failure Unit → List Act → Prop where
  | unversioned {acts} (none : version = none)
    : PushCourse suite release version notices (.ok ()) acts
  | suiteFailed {failure} (failed : suite.value = .ok (.error failure))
    : PushCourse suite release version notices (.error failure)
        ((notices.map fun notice => .did (.wrote notice)) ++ suite.acts)
  | released {tag result} (tagged : version = some tag) (passed : suite.value = .ok (.ok ()))
    (ended : (release tag).value = .ok result)
    : PushCourse suite release version notices result
        ((notices.map fun notice => .did (.wrote notice)) ++ suite.acts ++ (release tag).acts)

/-- A push that comes through takes one of its courses, by cases on the version and the suite. -/
theorem push_course (services : Services ε) (event : Event) (project : Project) (state : ε)
    {result : Except Failure Unit}
    (through : ((push services event project).trace state).value = .ok result)
    : let suite := (checkSuite services event project).trace state
      ∃ version notices,
        services.tags.version? event.ref = .ok (version, notices)
        ∧ PushCourse suite (fun tag => (Release.run services project tag).trace suite.state)
            version notices result ((push services event project).trace state).acts := by
  unfold push at *
  cases matched : services.tags.version? event.ref with
  | error fault =>
      rw [matched, Attempt.trace_bind_error (Attempt.trace_liftExcept _ state)] at through
      cases through
  | ok found =>
      obtain ⟨version, notices⟩ := found
      refine ⟨version, notices, rfl, ?_⟩
      rw [matched, Attempt.trace_bind_ok (Attempt.trace_liftExcept _ state)] at through
      rw [Attempt.trace_bind_ok (Attempt.trace_liftExcept _ state)]
      simp only [Attempt.trace_write_bind, Trace.behind_value, Trace.behind_acts,
        List.nil_append] at through ⊢
      by_cases skipped : (version.isNone && !Suite.isMainline services.config event) = true
      · have none : version = none := by simp_all
        rw [if_pos skipped] at through
        have succeeded : result = .ok () := by
          split at through
          · rw [Attempt.trace_write_bind] at through
            cases through
            rfl
          · cases through
            rfl
        rw [succeeded]
        exact .unversioned none
      rw [if_neg skipped] at through ⊢
      rcases ended : (checkSuite services event project).trace state with
        ⟨fault | failure | ⟨⟩, later, acts⟩
      · rw [Attempt.trace_bind_error ended] at through
        cases through
      · rw [Attempt.trace_bind_ok ended] at through ⊢
        cases through
        simp only [Attempt.trace_pure, Trace.behind_acts, List.append_nil]
        exact .suiteFailed rfl
      · rw [Attempt.trace_bind_ok ended] at through ⊢
        cases version with
        | none =>
            cases through
            exact .unversioned rfl
        | some tag =>
            rw [Trace.behind_acts, ← List.append_assoc]
            exact .released rfl rfl through

-----------------------------------------------------------------------------------------
-- Suites that pass, and suites that fail
-----------------------------------------------------------------------------------------

/-- What a suite that fails has done is about the jobs of the suite alone.
Witness: its checks spare all other names, and nothing comes behind them.
-/
theorem checkSuite_about (services : Services ε) (event : Event) (project : Project) (state : ε)
    {failure : Failure}
    (failed : ((checkSuite services event project).trace state).value = .ok (.error failure))
    : ∀ act ∈ ((checkSuite services event project).trace state).acts,
        ∀ name,
          act.about? = some name
          → ∃ job ∈ Catalog.suite services.config, job.name = name := by
  intro act member name about
  by_contra unknown
  push Not at unknown
  have spares : (Suite.runChecks services (Suite.factories services) event project).Every
      (Act.Spares name) :=
    Suite.runChecks_isOf (services.spares name) unknown event project
  obtain ⟨heading, whole⟩ := Suite.run_trace services event project state
  have quiet := spares state
  unfold checkSuite at failed member
  rw [ofGroup_trace, whole] at failed member
  rcases ended : (Suite.runChecks services (Suite.factories services) event project).trace state
    with ⟨fault | aggregate | ⟨⟩, later, acts⟩
  all_goals rw [ended] at failed member quiet
  · cases failed
  · rcases List.mem_cons.mp member with rfl | member
    · cases about
    · exact quiet act member about
  · -- behind checks that pass, a suite does not fail
    simp only [Suite.behindChecks, Trace.behind_value] at failed
    cases published : ((Suite.edge services event project).trace later).value with
    | error fault =>
        rw [published] at failed
        cases failed
    | ok =>
        rw [published] at failed
        cases failed

/-- A suite that passes has started its jobs, and on the mainline that which publishes images. -/
theorem checkSuite_starts (services : Services ε) (event : Event) (project : Project) (state : ε)
    (passed : ((checkSuite services event project).trace state).value = .ok (.ok ()))
    : ((checkSuite services event project).trace state).acts.filterMap Act.start?
      = Catalog.suite services.config
        ++ if Suite.isMainline services.config event then
            [Catalog.publishImages services.config project ""]
          else [] := by
  unfold checkSuite at passed ⊢
  rw [ofGroup_trace] at passed ⊢
  cases shown : services.detailsUrl event.buildId with
  | error refusal =>
      obtain ⟨message, refused⟩ := Suite.run_refused services event project state shown
      rw [refused] at passed
      cases passed
  | ok detailsUrl =>
      have checked
        : ((Suite.runChecks services (Suite.factories services) event project).trace state).value
          = .ok (.ok ()) := by
        obtain ⟨heading, whole⟩ := Suite.run_trace services event project state
        rw [whole] at passed
        rcases ended : (Suite.runChecks services (Suite.factories services) event project).trace
          state with ⟨fault | failure | ⟨⟩, later, acts⟩
        · rw [ended] at passed
          cases passed
        · rw [ended] at passed
          cases passed
        · rfl
      dsimp only
      rw [Suite.run_starts_eq services event project state shown]
      simp only [checked, true_and]

/-- Acts that are only about jobs each of which passed once show no failure.
Witness: the end of each job shows its pass, and the end of the delivery that nothing broke it off.
-/
theorem not_showsFailure_of_passedOnce {specs : List JobSpec} {acts : List Act}
    (about : ∀ act ∈ acts, ∀ name, act.about? = some name → ∃ job ∈ specs, job.name = name)
    (passed : ∀ job ∈ specs, PassedOnce job acts)
    : ¬ShowsFailure [] acts := by
  rw [showsFailure_iff]
  rintro ⟨first, act, last, split, fails⟩
  have member : act ∈ acts := by
    rw [split]
    exact List.mem_append_right _ List.mem_cons_self
  cases act with
  | ended spec outcome =>
      obtain ⟨job, known, named⟩ := about _ member spec.name rfl
      have entry : (spec, outcome)
          ∈ (acts.filterMap Act.end?).filter fun entry => entry.1.name == job.name :=
        List.mem_filter.mpr ⟨List.mem_filterMap.mpr ⟨_, member, rfl⟩, beq_iff_eq.mpr named.symm⟩
      rw [(passed job known).ended] at entry
      cases List.mem_singleton.mp entry
      exact fails.1 rfl
  | delivered report breakdown =>
      obtain ⟨job, known, named⟩ := about _ member report.check rfl
      obtain ⟨delivered, once, _⟩ := (passed job known).delivered
      have entry : (report, breakdown)
          ∈ (acts.filterMap Act.delivery?).filter fun entry => entry.1.check == job.name :=
        List.mem_filter.mpr ⟨List.mem_filterMap.mpr ⟨_, member, rfl⟩, beq_iff_eq.mpr named.symm⟩
      rw [once] at entry
      cases List.mem_singleton.mp entry
      exact fails rfl
  | _ => exact fails

-----------------------------------------------------------------------------------------
-- Classification
-----------------------------------------------------------------------------------------

/-- What the exit code of a run tells of its acts. It is that of a failed build exactly if a job
failed, other than that which publishes the images of the mainline, or a report was broken off; that
of a mistake exactly if a check was asked for that the suite does not have; and that of an unusable
environment exactly if no check was named, or if a release was due and required secrets are missing.
-/
structure ExitCodes (services : Services ε) (event : Event) (project : Project) (acts : List Act)
    (result : Except Failure Unit)
    : Prop where
  build
    : exitCode result = 3
      ↔ (∃ before spec outcome after,
          acts = before ++ .ended spec outcome :: after
          ∧ outcome ≠ .passed
          ∧ ¬PublishesEdge before spec)
        ∨ ∃ report breakdown, .delivered report (some breakdown) ∈ acts
  mistake
    : exitCode result = 1
      ↔ event.kind = "check_run:rerequested"
        ∧ ∃ name,
            CheckRequest.Names services.platform event.payload name
            ∧ ∀ spec ∈ Catalog.suite services.config, Text.ofString spec.name ≠ name
  mistakeIdle : exitCode result = 1 → acts = []
  environment
    : exitCode result = 2
      ↔ event.kind = "check_run:rerequested"
        ∧ (¬∃ name, CheckRequest.Names services.platform event.payload name)
        ∨ event.kind = "push"
          ∧ (∃ version notices, services.tags.version? event.ref = .ok (some version, notices))
          ∧ (∀ job ∈ Catalog.suite services.config, PassedOnce job acts)
          ∧ ∃ key ∈ [services.config.secrets.registryUsername,
              services.config.secrets.registryPassword, services.config.secrets.releaseToken],
              project.lacks key = true
  environmentIdle : exitCode result = 2 → event.kind = "check_run:rerequested" → acts = []
  unreleased
    : exitCode result = 2
      → event.kind = "push"
      → acts.filterMap Act.start?
        = Catalog.suite services.config
          ++ if Suite.isMainline services.config event then
              [Catalog.publishImages services.config project ""]
            else []
  others : exitCode result = 0 ↔ exitCode result ≠ 1 ∧ exitCode result ≠ 2 ∧ exitCode result ≠ 3

/-- What failures acts show from the start, spelled out. -/
theorem showsFailure_nil_iff (acts : List Act)
    : ShowsFailure [] acts
      ↔ (∃ before spec outcome after,
          acts = before ++ .ended spec outcome :: after
          ∧ outcome ≠ .passed
          ∧ ¬PublishesEdge before spec)
        ∨ ∃ report breakdown, .delivered report (some breakdown) ∈ acts := by
  rw [showsFailure_iff]
  simp only [List.nil_append]
  constructor
  · rintro ⟨first, act, last, split, fails⟩
    cases act with
    | ended spec outcome => exact Or.inl ⟨first, spec, outcome, last, split, fails⟩
    | delivered report breakdown =>
        obtain ⟨breakdown, rfl⟩ := Option.ne_none_iff_exists'.mp fails
        refine Or.inr ⟨report, breakdown, ?_⟩
        rw [split]
        exact List.mem_append_right _ List.mem_cons_self
    | _ => exact absurd fails id
  · rintro (⟨before, spec, outcome, after, split, fails⟩ | ⟨report, breakdown, member⟩)
    · exact ⟨before, _, after, split, fails⟩
    · obtain ⟨before, after, split⟩ := List.append_of_mem member
      exact ⟨before, _, after, split, nofun⟩

theorem exitCode_error (failure : Failure) : exitCode (.error failure) ≠ 0 := by
  cases failure <;> simp [exitCode, Failure.exitStatus, ExitStatus.code]

theorem exitCode_mem (result : Except Failure Unit) : exitCode result ∈ [0, 1, 2, 3] := by
  rcases result with failure | ⟨⟩
  · cases failure <;> simp [exitCode, Failure.exitStatus, ExitStatus.code]
  · simp [exitCode, ExitStatus.code]

theorem exitCode_others (result : Except Failure Unit)
    : exitCode result = 0 ↔ exitCode result ≠ 1 ∧ exitCode result ≠ 2 ∧ exitCode result ≠ 3 := by
  have member := exitCode_mem result
  simp only [List.mem_cons, List.not_mem_nil, or_false] at member
  omega

section Dispatch

variable (services : Services ε) (event : Event) (project : Project)

/-- The exit codes of an event that is neither a push nor a request for one check. -/
theorem ExitCodes.ordinary {acts : List Act} {result : Except Failure Unit}
    (accounts : ShowsFailure [] acts ↔ exitCode result = 3) (code : exitCode result ∈ [0, 3])
    (notRun : event.kind ≠ "check_run:rerequested") (notPush : event.kind ≠ "push")
    : ExitCodes services event project acts result := by
  have codes : exitCode result ≠ 1 ∧ exitCode result ≠ 2 := by
    simp only [List.mem_cons, List.not_mem_nil, or_false] at code
    omega
  exact {
    build := by rw [← accounts, showsFailure_nil_iff]
    mistake := iff_of_false codes.1 fun run => notRun run.1
    mistakeIdle := fun code => absurd code codes.1
    environment := by
      refine iff_of_false codes.2 ?_
      rintro (run | push)
      · exact notRun run.1
      · exact notPush push.1
    environmentIdle := fun code => absurd code codes.2
    unreleased := fun code => absurd code codes.2
    others := exitCode_others result
  }

/-- The exit codes of a request for one check. -/
theorem ExitCodes.ofCheckRun {state : ε} {result : Except Failure Unit}
    (run : event.kind = "check_run:rerequested")
    (through : ((checkRun services event project).trace state).value = .ok result)
    : ExitCodes services event project ((checkRun services event project).trace state).acts
        result := by
  have notPush : event.kind ≠ "push" := by
    rw [run]
    decide
  have accounts := checkRun_accounts services event project [] state result through
  have build := accounts.symm.trans (showsFailure_nil_iff _)
  have named {name : Text}
    (found : CheckRequest.nameOf services.platform event.payload = .ok (some name)) other
      : CheckRequest.Names services.platform event.payload other ↔ other = name := by
    rw [← CheckRequest.nameOf_eq_some_iff, found]
    simp [eq_comm]
  rcases checkRun_through services event project state through with
    ⟨unnamed, code, idle⟩ | ⟨name, found, ⟨unknown, code, idle⟩ | ⟨⟨spec, member, same⟩, code⟩⟩
  · -- no check is named
    have nameless : ¬∃ name, CheckRequest.Names services.platform event.payload name := by
      rintro ⟨name, names⟩
      rw [← CheckRequest.nameOf_eq_some_iff, unnamed] at names
      cases names
    exact {
      build
      mistake := iff_of_false (by omega) fun ⟨_, name, names, _⟩ => nameless ⟨name, names⟩
      mistakeIdle := fun _ => idle
      environment := iff_of_true code (Or.inl ⟨run, nameless⟩)
      environmentIdle := fun _ _ => idle
      unreleased := fun _ push => absurd push notPush
      others := exitCode_others result
    }
  · -- a check is named that the suite does not have
    have names : CheckRequest.Names services.platform event.payload name :=
      (named found name).mpr rfl
    exact {
      build
      mistake := iff_of_true code ⟨run, name, names, unknown⟩
      mistakeIdle := fun _ => idle
      environment := by
        refine iff_of_false (by omega) ?_
        rintro (⟨_, nameless⟩ | ⟨push, _⟩)
        · exact nameless ⟨name, names⟩
        · exact notPush push
      environmentIdle := fun _ _ => idle
      unreleased := fun _ push => absurd push notPush
      others := exitCode_others result
    }
  · -- a check of the suite is named
    simp only [List.mem_cons, List.not_mem_nil, or_false] at code
    have names : CheckRequest.Names services.platform event.payload name :=
      (named found name).mpr rfl
    exact {
      build
      mistake := by
        refine iff_of_false (by omega) ?_
        rintro ⟨_, other, also, unknown⟩
        rw [(named found other).mp also] at unknown
        exact unknown spec member same
      mistakeIdle := fun mistake => by omega
      environment := by
        refine iff_of_false (by omega) ?_
        rintro (⟨_, nameless⟩ | ⟨push, _⟩)
        · exact nameless ⟨name, names⟩
        · exact notPush push
      environmentIdle := fun environment => by omega
      unreleased := fun environment => by omega
      others := exitCode_others result
    }

/-- With all required secrets a release succeeds, or one of its jobs fails. -/
theorem release_exitCode {version : String} {state : ε} {result : Except Failure Unit}
    (complete : Release.missingSecrets services.config project = [])
    (through : ((Release.run services project version).trace state).value = .ok result)
    : exitCode result ∈ [0, 3] := by
  rw [Release.run_accepted services project version state complete, Trace.behind_value] at through
  rcases ended : (Release.sequence services project version).trace state with
    ⟨fault | failure | ⟨⟩, later, acts⟩
  all_goals rw [ended] at through; cases through
  · exact List.mem_cons_of_mem _ (List.mem_singleton_self _)
  · exact List.mem_cons_self

/-- Required secrets are missing exactly if the project lacks one of them. -/
theorem missingSecrets_ne_nil_iff (config : Config)
    : Release.missingSecrets config project ≠ []
      ↔ ∃ key ∈ [config.secrets.registryUsername, config.secrets.registryPassword,
          config.secrets.releaseToken], project.lacks key = true := by
  rw [Release.missingSecrets_eq, ne_eq, List.filter_eq_nil_iff]
  push Not
  rfl

/-- A suite that fails is a failed build. -/
theorem checkSuite_exitCode {state : ε} {failure : Failure}
    (failed : ((checkSuite services event project).trace state).value = .ok (.error failure))
    : exitCode (.error failure) = 3 := by
  have code := ofGroup_exitCode state failed
  simp only [List.mem_cons, List.not_mem_nil, or_false] at code
  exact code.resolve_left (exitCode_error failure)

/-- A suite that fails has not passed all of its jobs, whatever notices come before it. -/
theorem checkSuite_not_passed {state : ε} {failure : Failure} (notices : List Message)
    (failed : ((checkSuite services event project).trace state).value = .ok (.error failure))
    : ¬∀ job ∈ Catalog.suite services.config,
        PassedOnce job
          ((notices.map fun notice => .did (.wrote notice))
            ++ ((checkSuite services event project).trace state).acts) := by
  intro passed
  have shows := (checkSuite_accounts services event project
    (notices.map fun notice => .did (.wrote notice)) state _ failed).mpr
      (checkSuite_exitCode services event project failed)
  refine not_showsFailure_of_passedOnce ?about passed
    ((showsFailure_append [] _ _).mpr (Or.inr shows))
  intro act member name about
  rcases List.mem_append.mp member with member | member
  · exact absurd about (wrote_spares notices name act member)
  · exact checkSuite_about services event project state failed act member name about

/-- What the exit code of a push tells: it is not that of a mistake; and it is that of an unusable
environment exactly if a release was due behind a suite that passed, and required secrets are
missing. No stage of the release is started then.
Witness: by cases on the course of the push.
-/
theorem push_exitCode {state : ε} {result : Except Failure Unit}
    (through : ((push services event project).trace state).value = .ok result)
    : let acts := ((push services event project).trace state).acts
      exitCode result ≠ 1
      ∧ (exitCode result = 2
        ↔ (∃ version notices, services.tags.version? event.ref = .ok (some version, notices))
          ∧ (∀ job ∈ Catalog.suite services.config, PassedOnce job acts)
          ∧ Release.missingSecrets services.config project ≠ [])
      ∧ (exitCode result = 2
        → acts.filterMap Act.start?
          = Catalog.suite services.config
            ++ if Suite.isMainline services.config event then
                [Catalog.publishImages services.config project ""]
              else []) := by
  obtain ⟨version, notices, matched, course⟩ := push_course services event project state through
  generalize ((push services event project).trace state).acts = acts at course
  cases course with
  | unversioned none =>
      refine ⟨by decide, iff_of_false (by decide) ?_, fun environment => nomatch environment⟩
      rintro ⟨⟨version, notices, found⟩, _⟩
      rw [matched, none] at found
      cases found
  | suiteFailed failed =>
      have code := checkSuite_exitCode services event project failed
      have notPassed := checkSuite_not_passed services event project notices failed
      refine ⟨by omega, iff_of_false (by omega) ?_, fun environment => by omega⟩
      exact fun ⟨_, passed, _⟩ => notPassed passed
  | @released tag _ tagged passed ended =>
      by_cases complete : Release.missingSecrets services.config project = []
      · have code := release_exitCode services project complete ended
        simp only [List.mem_cons, List.not_mem_nil, or_false] at code
        refine ⟨by omega, iff_of_false (by omega) ?_, fun environment => by omega⟩
        exact fun ⟨_, _, missing⟩ => missing complete
      · rw [Release.run_refused services project tag _ complete] at ended ⊢
        cases ended
        refine ⟨?_, iff_of_true rfl ⟨⟨tag, notices, tagged ▸ matched⟩, ?_, complete⟩, ?_⟩
        · exact (by decide : (2 : Nat) ≠ 1)
        · intro job member
          exact (checkSuite_passed services event project state passed job member).surround
            (wrote_spares notices job.name) (List.forall_mem_nil _)
        · intro _
          rw [List.append_nil, List.filterMap_append, Act.filterMap_wrote fun _ => rfl,
            List.nil_append]
          exact checkSuite_starts services event project state passed

/-- The exit codes of a push. -/
theorem ExitCodes.ofPush {state : ε} {result : Except Failure Unit} (pushed : event.kind = "push")
    (through : ((push services event project).trace state).value = .ok result)
    : ExitCodes services event project ((push services event project).trace state).acts
        result := by
  have notRun : event.kind ≠ "check_run:rerequested" := by
    rw [pushed]
    decide
  have accounts := push_accounts services event project [] state result through
  obtain ⟨noMistake, environment, unreleased⟩ := push_exitCode services event project through
  rw [missingSecrets_ne_nil_iff] at environment
  exact {
    build := accounts.symm.trans (showsFailure_nil_iff _)
    mistake := iff_of_false noMistake fun run => notRun run.1
    mistakeIdle := fun mistake => absurd mistake noMistake
    environment := by
      rw [environment]
      exact ⟨fun due => Or.inr ⟨pushed, due⟩,
        fun either => either.elim (fun run => absurd run.1 notRun) And.right⟩
    environmentIdle := fun _ run => absurd run notRun
    unreleased := fun environment _ => unreleased environment
    others := exitCode_others result
  }

/-- A request to test the whole succeeds, or its job fails. -/
theorem e2e_exitCode {state : ε} {result : Except Failure Unit}
    (through : ((e2e services event project).trace state).value = .ok result)
    : exitCode result ∈ [0, 3] := by
  unfold e2e at through
  rcases ended : (settle (services.unit (Catalog.e2e services.config))).trace state with
    ⟨fault | _ | failure, later, acts⟩
  · rw [Attempt.trace_bind_error ended] at through
    cases through
  · rw [Attempt.trace_bind_ok ended] at through
    cases through
    exact List.mem_cons_self
  · rw [Attempt.trace_bind_ok ended] at through
    cases through
    exact List.mem_cons_of_mem _ (List.mem_singleton_self _)

/-- A comment comes to success, or to what a suite comes to. -/
theorem issueComment_exitCode {state : ε} {result : Except Failure Unit}
    (through : ((issueComment services event project).trace state).value = .ok result)
    : exitCode result ∈ [0, 3] := by
  unfold issueComment at through
  cases judged : verdict services.platform services.config event with
  | error fault =>
      rw [judged, Attempt.trace_bind_error (Attempt.trace_liftExcept _ state)] at through
      cases through
  | ok verdict =>
      rw [judged, Attempt.trace_bind_ok (Attempt.trace_liftExcept _ state)] at through
      cases verdict with
      | accepted => exact ofGroup_exitCode state through
      | _ =>
          simp only [Attempt.trace_write_bind] at through
          cases through
          exact List.mem_cons_self

/-- Requests other than pushes and those for one check succeed or are failed builds, by cases on the
kind.
-/
theorem handler_exitCode {kind : EventKind} (notPush : kind ≠ .push)
    (notRun : kind ≠ .checkRunRerequested) {state : ε} {result : Except Failure Unit}
    (through : ((handler services kind event project).trace state).value = .ok result)
    : exitCode result ∈ [0, 3] := by
  cases kind with
  | push => exact absurd rfl notPush
  | checkRunRerequested => exact absurd rfl notRun
  | exec => exact ofGroup_exitCode state through
  | e2e => exact e2e_exitCode services event project through
  | checkSuiteRequested => exact ofGroup_exitCode state through
  | checkSuiteRerequested => exact ofGroup_exitCode state through
  | issueCommentCreated => exact issueComment_exitCode services event project through
  | issueCommentEdited => exact issueComment_exitCode services event project through

/-- The exit code of every run that comes to a result tells what happened in it.
Witness: by cases on the handler of the event.
-/
theorem dispatch_exitCodes {state : ε} {result : Except Failure Unit}
    (through : (((router services).dispatch event project).trace state).value = .ok result)
    : ExitCodes services event project (((router services).dispatch event project).trace state).acts
        result := by
  have accounts := dispatch_accounts services event project [] state result through
  by_cases pushed : event.kind = EventKind.push.text
  · rw [router_dispatch services pushed project] at through ⊢
    exact .ofPush services event project pushed through
  by_cases run : event.kind = EventKind.checkRunRerequested.text
  · rw [router_dispatch services run project] at through ⊢
    exact .ofCheckRun services event project run through
  refine .ordinary services event project accounts ?code run pushed
  unfold Router.dispatch at through
  cases known : EventKind.ofText? event.kind with
  | none =>
      simp only [known, Option.bind_none, Attempt.trace_write_bind] at through
      cases through
      exact List.mem_cons_self
  | some kind =>
      have named := EventKind.text_of_ofText? known
      simp only [known, Option.bind_some, router_handler?] at through
      refine handler_exitCode services event project ?push ?run through
      case push =>
        rintro rfl
        exact pushed named.symm
      case run =>
        rintro rfl
        exact run named.symm

end Dispatch

theorem dispatch_exitCodes_denied
    : let unequipped : Project := ⟨"acme/widget", [("ghToken", "\t")]⟩
      let unready := ((router rehearsal).dispatch tagged unequipped).trace ()
      let onMainline := (router Release.scriptedServices).dispatch Suite.mainlineEvent
        Release.equipped
      let denied := onMainline.trace Suite.deniedScript
      let failed := onMainline.trace [.exited 1 "" "flaky", .exited 0 "" "", .exited 0 "" ""]
      let flaky : UnitFailure := ⟨"test-go", "flaky", some 1⟩
      (∃ failure,
        unready.value = .ok (.error failure)
        ∧ exitCode (.error failure) = 2
        ∧ ExitCodes rehearsal tagged unequipped unready.acts (.error failure))
      ∧ denied.value = .ok (.ok ())
      ∧ ExitCodes Release.scriptedServices Suite.mainlineEvent Release.equipped denied.acts (.ok ())
      ∧ failed.value = .ok (.error (.group (.ofFailures flaky [])))
      ∧ ExitCodes Release.scriptedServices Suite.mainlineEvent Release.equipped failed.acts
          (.error (.group (.ofFailures flaky []))) := by
  intro unequipped unready onMainline denied failed flaky
  have missing
    : unready.value
      = .ok (.error (.invalid
          ("Project must have secrets.dockerhubUsername, secrets.dockerhubPassword, "
            ++ "secrets.ghToken set")
          ["dockerhubUsername", "dockerhubPassword", "ghToken"]
          (some "No release stage was started."))) := by decide +kernel
  have passed : denied.value = .ok (.ok ()) := by decide +kernel
  have broken : failed.value = .ok (.error (.group (.ofFailures flaky []))) := by decide +kernel
  exact ⟨⟨_, missing, rfl, dispatch_exitCodes rehearsal tagged unequipped missing⟩,
    passed, dispatch_exitCodes Release.scriptedServices Suite.mainlineEvent _ passed,
    broken, dispatch_exitCodes Release.scriptedServices Suite.mainlineEvent _ broken⟩

end Handlers

end Conductor
