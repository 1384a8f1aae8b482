import Conductor.Proofs.Preparation

/-! What requests for checks come to. Every payload that can be read decides one of three ways: it
names no check, it names one that nobody knows, or it names one check, which then runs by itself.
-/

namespace Conductor

variable {ε : Type}

-----------------------------------------------------------------------------------------
-- Units that run by themselves
-----------------------------------------------------------------------------------------

/-- A unit that waits by itself goes on to its end, whatever the schedule picks, by induction on
what is left of it.
-/
theorem takeTurns_single (schedule : Schedule) (count : Nat) {progress : Progress}
    (running : progress.cancelled = none) (place turns : Nat) (leg : Run Act ε Unit)
    (rest : ε → Suspension Act ε Outcome) (state : ε)
    : let ended := (Suspension.paused leg rest).finish.trace state
      ∃ turn,
        (takeTurns schedule count progress [⟨place, turns, leg, rest⟩]).trace state
        = ⟨progress.record place turn ended.value, ended.state, ended.acts⟩ := by
  generalize waits : Suspension.paused leg rest = left
  induction left generalizing count turns leg rest state with
  | ended outcome => cases waits
  | paused leg rest ih =>
      cases waits
      have picked (chosen : Waiting ε) (n : Nat) : takeOut n chosen [] = (chosen, []) := by
        cases n <;> rfl
      have allowed : progress.allows (turns + 1) = true := by simp [Progress.allows, running]
      cases left : rest state with
      | ended outcome =>
          rw [takeTurns_ended (picked _ _) allowed left, takeTurns_nil]
          refine ⟨turns + 1, ?_⟩
          rw [Suspension.trace_finish_paused, left]
          rfl
      | paused next later =>
          obtain ⟨turn, others⟩ :=
            ih state (count + 1) (turns + 1) next later (leg.trace state).state left.symm
          refine ⟨turn, ?_⟩
          rw [takeTurns_paused (picked _ _) allowed left, List.nil_append, others,
            Suspension.trace_finish_paused]
          rfl

/-- One unit that runs together with no other runs by itself, by cases on whether it gives up
control in its first turn.
-/
theorem runTogether_single (schedule : Schedule) (unit : UnitOfWork ε) (state : ε)
    : let ran := unit.run.trace state
      ∃ turn,
        (runTogether schedule [unit]).trace state
        = ⟨({} : Progress).record 0 turn ran.value, ran.state, ran.acts⟩ := by
  intro ran
  have alone : ran
      = ((unit.work.turn.trace state).value.finish.trace (unit.work.turn.trace state).state).behind
          (unit.work.turn.trace state).acts := rfl
  rw [runTogether, Run.trace_bind, alone]
  cases left : (unit.work.turn.trace state).value with
  | ended outcome =>
      refine ⟨1, ?_⟩
      rw [startAll_ended left]
      simp [startAll, Suspension.finish, Trace.behind]
  | paused leg rest =>
      rw [startAll_paused left]
      have running : ({} : Progress).cancelled = none := rfl
      obtain ⟨turn, others⟩ :=
        takeTurns_single schedule 0 running 0 1 leg rest (unit.work.turn.trace state).state
      refine ⟨turn, ?_⟩
      simp only [startAll, Run.trace_pure, others, List.append_nil]
      rfl

/-- A group of one unit that is never cancelled runs that unit between its messages. -/
theorem Group.runAll_single (schedule : Schedule) {unit : UnitOfWork ε}
    (uncancelled : unit.Uncancelled) (state : ε)
    : let ran := unit.run.trace state
      let failed := (ran.value.failure? unit.name).toList
      (runAll schedule [unit]).trace state
      = ⟨.ok (verdict failed), ran.state,
          .did (.wrote (opening [unit]))
            :: (ran.acts ++ (closing 1 failed).map fun message => .did (.wrote message))⟩ := by
  intro ran failed
  obtain ⟨turn, together⟩ := runTogether_single schedule unit state
  have outcomes (last : Outcome)
      : failures [unit] (({} : Progress).record 0 turn last).outcomes
        = (last.failure? unit.name).toList := by
    cases failed : last.failure? unit.name <;> simp [failures, Progress.record, failed]
  have running : ((runTogether schedule [unit]).trace state).value.cancelled = none := by
    rw [together]
    simp [Progress.record, uncancelled.run state]
  have whole := runAll_trace schedule (List.cons_ne_nil unit []) state running
  simp only [together, outcomes] at whole
  exact whole

/-- The check of a job runs the job, and concludes. -/
theorem Check.unit_run (reporter : Reporter ε) (check : Check ε)
    : (check.unit reporter).run
      = check.job.run >>= fun outcome => (check.conclude reporter outcome).alone := by
  simp [unit, UnitOfWork.run]

/-- A conclusion that is reported, with nothing beside it, hands over the report, leaves it to the
reporter, and comes to what that answers, by cases on the answer.
-/
theorem Check.conclude_alone (reporter : Reporter ε) (check : Check ε) {outcome : Outcome}
    (running : outcome.cancellation? = none) (state : ε)
    : let failure := outcome.failure? check.job.name
      let report := check.report failure
      let answer := (reporter report).alone.trace state
      let breakdown := Reporter.breakdown? answer.value
      (check.conclude reporter outcome).alone.trace state
      = ⟨result failure breakdown, answer.state,
          .reported report :: (answer.acts.map .did ++ [.delivered report breakdown])⟩ := by
  intro failure report answer breakdown
  unfold conclude
  simp only [running, Async.alone_bind, Async.alone_ofRun, Async.alone_mapActs, Run.trace_bind,
    Run.trace_act, Run.trace_mapActs]
  rcases answered : answer.value with broken | ⟨⟩
  all_goals
    simp only [answer, report, failure] at answered
    simp [answered, breakdown, answer, report, failure, Reporter.breakdown?, result, Trace.behind]

/-- A check whose job is not cancelled takes a course by itself, and ends with it. -/
theorem Check.unit_run_course (reporter : Reporter ε) (event : Event) (project : Project)
    (detailsUrl : String) {job : UnitOfWork ε} {state : ε}
    (running : (job.run.trace state).value.cancellation? = none)
    : ∃ course : Course ε,
        let report := course.report event project detailsUrl
        let answer := (reporter report).alone.trace (job.run.trace state).state
        course.job = job
        ∧ course.outcome = (job.run.trace state).value
        ∧ course.breakdown = Reporter.breakdown? answer.value
        ∧ ((Suite.checkOf event project detailsUrl job).unit reporter).run.trace state
          = ⟨course.result, answer.state,
              (job.run.trace state).acts
                ++ .reported report
                  :: (answer.acts.map .did ++ [.delivered report course.breakdown])⟩ := by
  let check := Suite.checkOf event project detailsUrl job
  let ran := job.run.trace state
  let answer := (reporter (check.report (ran.value.failure? job.name))).alone.trace ran.state
  let course : Course ε := ⟨job, ran.value, Reporter.breakdown? answer.value⟩
  have reported : check.report (ran.value.failure? job.name)
      = course.report event project detailsUrl := course.report_eq running
  refine ⟨course, rfl, rfl, ?_, ?_⟩
  · rw [← reported]
  · rw [check.unit_run, Run.trace_bind, ← reported]
    exact congrArg (Trace.behind ran.acts) (check.conclude_alone reporter running ran.state)

/-- A group of one check that is never cancelled runs it between its messages, and fails as the
course of the check does.
-/
theorem Group.runAll_check (schedule : Schedule) {reporter : Reporter ε}
    (reporting : reporter.Uncancelled) (event : Event) (project : Project) (detailsUrl : String)
    {job : UnitOfWork ε} (uncancelled : job.Uncancelled) (state : ε)
    : ∃ course : Check.Course ε,
        let report := course.report event project detailsUrl
        let answer := (reporter report).alone.trace (job.run.trace state).state
        course.job = job
        ∧ course.outcome = (job.run.trace state).value
        ∧ course.breakdown = Reporter.breakdown? answer.value
        ∧ (runAll schedule [(Suite.checkOf event project detailsUrl job).unit reporter]).trace state
          = ⟨.ok (verdict course.failure?.toList), answer.state,
              .did (.wrote (opening [job]))
                :: ((job.run.trace state).acts
                    ++ .reported report
                      :: (answer.acts.map .did ++ [.delivered report course.breakdown])
                  ++ (closing 1 course.failure?.toList).map fun message =>
                      .did (.wrote message))⟩ := by
  have running : ((Suite.checkOf event project detailsUrl job).unit reporter).Uncancelled :=
    Check.unit_uncancelled reporting uncancelled
  obtain ⟨course, rfl, outcome, breakdown, ran⟩ :=
    Check.unit_run_course reporter event project detailsUrl (uncancelled.run state)
  have group := runAll_single schedule running state
  rw [ran] at group
  have failed
    : course.result.failure?
        ((Suite.checkOf event project detailsUrl course.job).unit reporter).name
      = course.failure? := course.result_failure?
  simp only [failed] at group
  exact ⟨course, rfl, outcome, breakdown, group⟩

-----------------------------------------------------------------------------------------
-- Checks that run by themselves
-----------------------------------------------------------------------------------------

namespace Suite

/-- The check of a job ran by itself: the job runs from where its factory has left off, and then its
report is handed over; nothing comes before but messages and the building of the check, and nothing
behind but messages. The failure of the course that the check took is the only one.
-/
structure RunsAlone (services : Services ε) (event : Event) (project : Project)
    (detailsUrl key : String) (job : UnitOfWork ε) (ready : ε) (course : Check.Course ε)
    (trace : Trace Act ε (Except Fault (Except Failure Unit)))
    : Prop where
  ofJob : course.job = job
  outcome : course.outcome = (job.run.trace ready).value
  answered
    : let report := course.report event project detailsUrl
      let answer := (services.reporter report).alone.trace (job.run.trace ready).state
      course.breakdown = Reporter.breakdown? answer.value
      ∧ trace.state = answer.state
      ∧ trace.acts
        = [.did (.wrote (.info ("Check requested: " ++ key))), .built key,
            .did (.wrote (Group.opening [job]))]
          ++ (job.run.trace ready).acts
          ++ (.reported report
            :: (answer.acts.map .did ++ [.delivered report course.breakdown]))
          ++ (Group.closing 1 course.failure?.toList).map fun message => .did (.wrote message)
  value
    : trace.value
      = .ok
          (match course.failure? with
          | none => .ok ()
          | some failure =>
            .error (.group { first := failure, place := some 0, failures := [failure] }))

namespace RunsAlone

variable {services : Services ε} {event : Event} {project : Project} {detailsUrl key : String}
  {job : UnitOfWork ε} {ready : ε} {course : Check.Course ε}
  {trace : Trace Act ε (Except Fault (Except Failure Unit))}

/-- What shows of the check of a job in a view that shows no deeds shows of its building, of its
job, and of the report on it.
-/
theorem view {α : Type} {view : Act → Option α}
    (alone : RunsAlone services event project detailsUrl key job ready course trace)
    (blind : ∀ deed, view (.did deed) = none)
    : let report := course.report event project detailsUrl
      trace.acts.filterMap view
      = (view (.built key)).toList ++ (job.run.trace ready).acts.filterMap view
        ++ (view (.reported report)).toList
        ++ (view (.delivered report course.breakdown)).toList := by
  intro report
  obtain ⟨_, _, acts⟩ := alone.answered
  rw [acts]
  simp only [List.filterMap_append, Act.filterMap_wrote blind, Act.filterMap_did blind,
    List.filterMap_cons, blind, List.filterMap_nil, List.append_nil, List.nil_append]
  cases view (.built key) <;> cases view (.reported report)
    <;> cases view (.delivered report course.breakdown) <;> simp

/-- Of a job that reports nothing by itself, the one report is that on its course. -/
theorem reports (alone : RunsAlone services event project detailsUrl key job ready course trace)
    (silent : job.Silent)
    : trace.acts.filterMap Act.report? = [course.report event project detailsUrl] := by
  have quiet : (job.run.trace ready).acts.filterMap Act.report? = [] :=
    List.filterMap_eq_nil_iff.mpr fun act member =>
      ((silent _ _ (job.run_goes ready)).1 act member).1
  refine (alone.view fun _ => rfl).trans ?_
  rw [quiet]
  rfl

/-- The check of a job that is described by itself shows one building, one start, and one end with
the outcome of the course.
-/
theorem once (alone : RunsAlone services event project detailsUrl key job ready course trace)
    {executor : Executor ε} {spec : JobSpec} (described : job = spec.unit executor)
    : trace.acts.filterMap Act.build? = [key]
      ∧ trace.acts.filterMap Act.start? = [spec]
      ∧ trace.acts.filterMap Act.end? = [(spec, course.outcome)] := by
  obtain ⟨deeds, acts⟩ := JobSpec.unit_run executor spec ready
  rw [← described, ← alone.outcome] at acts
  refine ⟨(alone.view fun _ => rfl).trans ?_, (alone.view fun _ => rfl).trans ?_,
    (alone.view fun _ => rfl).trans ?_⟩
  all_goals
    rw [acts, List.filterMap_cons, List.filterMap_append, Act.filterMap_did fun _ => rfl]
    rfl

end RunsAlone

end Suite

namespace CheckRequest

variable {services : Services ε} {factories : List (Factory ε)}

/-- A request for a check whose job is built, and neither it nor its report is cancelled, runs that
check by itself. Witness: the course of the check in a group of one.
-/
theorem run_alone (reporting : services.reporter.Uncancelled) {event : Event} {detailsUrl : String}
    (shown : services.detailsUrl event.buildId = .ok detailsUrl) {factory : Factory ε}
    {state : ε} {job : UnitOfWork ε} (built : (factory.build state).1 = .ok job)
    (uncancelled : job.Uncancelled) {name : Text}
    (found : factory? factories name = some factory) (project : Project)
    : ∃ course,
        Suite.RunsAlone services event project detailsUrl factory.key job (factory.build state).2
          course ((run services factories name event project).trace state) := by
  obtain ⟨course, ofJob, outcome, breakdown, group⟩ := Group.runAll_check services.schedule
    reporting event project detailsUrl uncancelled (factory.build state).2
  have building := (Factory.Builds.next built .done).trace
  have checks := Suite.runChecks_built services project shown (congrArg Trace.value building)
  rw [building] at checks
  have whole := checks.trans (congrArg (Trace.behind _) group)
  refine ⟨course, ?_⟩
  rw [run_found found, whole]
  exact {
    ofJob
    outcome
    answered := ⟨breakdown, rfl, rfl⟩
    value := by cases course.failure? <;> rfl
  }

-----------------------------------------------------------------------------------------
-- Decisions
-----------------------------------------------------------------------------------------

/-- A payload that can be read names no check: it is no table, or whatever text stands in it for the
name of the check run is blank.
-/
def Unnamed (platform : Platform) (payload : Bytes) : Prop :=
  Json.readTableBytes platform.jsonDepth payload = .ok none
  ∨ ∃ table,
      Json.readTableBytes platform.jsonDepth payload = .ok (some table)
      ∧ ∀ body run text,
          Table.get? table (Text.ofString "body") = some (.table body)
          → Table.get? body (Text.ofString "check_run") = some (.table run)
          → Table.get? run (Text.ofString "name") = some (.str text)
          → Text.stripUnits text = []

/-- Nothing is found for a name exactly if the payload names no check. -/
theorem nameOf_eq_none_iff {platform : Platform} {payload : Bytes}
    : nameOf platform payload = .ok none ↔ Unnamed platform payload := by
  unfold nameOf Unnamed
  rcases read : Json.readTableBytes platform.jsonDepth payload with fault | _ | table
  · simp
  · simp
  · rw [Except.ok.injEq, Option.filter_eq_none_iff]
    simp only [Option.map_eq_some_iff, textAt?_eq_some_iff]
    constructor
    · intro blank
      refine .inr ⟨table, rfl, fun body run text inBody inRun found => ?_⟩
      simpa using blank _ ⟨text, ⟨body, run, inBody, inRun, found⟩, rfl⟩
    · rintro (⟨⟨⟩⟩ | ⟨_, ⟨⟩, blank⟩) _ ⟨text, ⟨body, run, inBody, inRun, found⟩, rfl⟩
      rw [blank body run text inBody inRun found]
      simp

/-- What a payload decides: that no check is named, that one is named which nobody knows, or that
the check of a factory is named.
-/
inductive Decision (ε : Type) where
  | unnamed
  | unknown (name : Text)
  | check (factory : Factory ε)

namespace Decision

/-- The name in a payload that decides so. -/
def name? : Decision ε → Option Text
  | .unnamed => none
  | .unknown name => some name
  | .check factory => some (Text.ofString factory.key)

/-- The factory that is called when a payload decides so. -/
def factory? : Decision ε → Option (Factory ε)
  | .check factory => some factory
  | _ => none

/-- A payload decides so, among the checks of the given factories. -/
def OfPayload (platform : Platform) (payload : Bytes) (factories : List (Factory ε))
    : Decision ε → Prop
  | .unnamed => Unnamed platform payload
  | .unknown name =>
    Names platform payload name ∧ ∀ factory ∈ factories, Text.ofString factory.key ≠ name
  | .check factory => factory ∈ factories ∧ Names platform payload (Text.ofString factory.key)

variable {platform : Platform} {payload : Bytes} {factories : List (Factory ε)}

/-- The name that is found in a payload is that of each decision of it, by cases on the decision. -/
theorem OfPayload.nameOf {decision : Decision ε}
    (decides : decision.OfPayload platform payload factories)
    : CheckRequest.nameOf platform payload = .ok decision.name? := by
  cases decision with
  | unnamed => exact nameOf_eq_none_iff.mpr decides
  | unknown name => exact nameOf_eq_some_iff.mpr decides.1
  | check factory => exact nameOf_eq_some_iff.mpr decides.2

/-- The factory of a decision is that to which its name leads, by cases on the decision. -/
theorem OfPayload.factory? {decision : Decision ε}
    (decides : decision.OfPayload platform payload factories)
    (different : (factories.map Factory.key).Nodup)
    : decision.factory? = decision.name?.bind (CheckRequest.factory? factories) := by
  cases decision with
  | unnamed => rfl
  | unknown name => exact (factory?_eq_none_iff.mpr decides.2).symm
  | check factory => exact (factory?_of_mem different decides.1).symm

/-- A payload that can be read decides one way.
Witness: the name in it, if any, leads to a factory or nowhere.
-/
theorem existsUnique (different : (factories.map Factory.key).Nodup) {read : Option (Table Text)}
    (readable : Json.readTableBytes platform.jsonDepth payload = .ok read)
    : ∃! decision : Decision ε, decision.OfPayload platform payload factories := by
  have exist : ∃ decision : Decision ε, decision.OfPayload platform payload factories := by
    cases found : CheckRequest.nameOf platform payload with
    | error fault =>
        exfalso
        unfold CheckRequest.nameOf at found
        rw [readable] at found
        cases read <;> cases found
    | ok name? =>
        cases name? with
        | none => exact ⟨.unnamed, nameOf_eq_none_iff.mp found⟩
        | some name =>
            have named := nameOf_eq_some_iff.mp found
            by_cases known : ∃ factory ∈ factories, Text.ofString factory.key = name
            · obtain ⟨factory, member, rfl⟩ := known
              exact ⟨.check factory, member, named⟩
            · exact ⟨.unknown name, named, fun factory member same => known ⟨factory, member, same⟩⟩
  obtain ⟨decision, decides⟩ := exist
  refine ⟨decision, decides, fun other decidesOther => ?_⟩
  have name : other.name? = decision.name? :=
    Except.ok.inj (decidesOther.nameOf.symm.trans decides.nameOf)
  have factory : other.factory? = decision.factory? := by
    rw [decidesOther.factory? different, decides.factory? different, name]
  cases other <;> cases decision <;> simp_all [name?, factory?]

/-- A request does what its payload decides. One that names no check, or one that nobody knows, does
nothing but tell so; one for the check of a factory calls that factory and no other, and the check
runs by itself.
-/
def Answers (services : Services ε) (factories : List (Factory ε)) (event : Event)
    (project : Project) (detailsUrl : String) (state : ε)
    (trace : Trace Act ε (Except Fault (Except Failure Unit)))
    : Decision ε → Prop
  | .unnamed =>
    trace
    = ⟨.ok
        (.error
          (.invalid "check_run payload does not name a check" ["body.check_run.name"] none)),
        state, []⟩
  | .unknown name =>
    trace = ⟨.ok (.error (.unknownCheck name (factories.map Factory.key))), state, []⟩
  | .check factory =>
    ∃ job course,
      (factory.build state).1 = .ok job
      ∧ Suite.RunsAlone services event project detailsUrl factory.key job (factory.build state).2
          course trace
      ∧ (job.Silent
        → trace.acts.filterMap Act.report? = [course.report event project detailsUrl])
      ∧ ∀ (executor : Executor ε) (spec : JobSpec),
          job = spec.unit executor
          → trace.acts.filterMap Act.build? = [factory.key]
            ∧ trace.acts.filterMap Act.start? = [spec]
            ∧ trace.acts.filterMap Act.end? = [(spec, course.outcome)]

end Decision

/-- Every payload that can be read decides what comes of a request, one way and no other, whatever
factories of different keys there are and whatever becomes of their jobs.
Witness: the name that is found in the payload, and the factory to which it leads.
-/
theorem runEvent_answers {services : Services ε} (reporting : services.reporter.Uncancelled)
    {factories : List (Factory ε)} (different : (factories.map Factory.key).Nodup)
    (building
      : ∀ factory ∈ factories,
          ∀ state, ∃ job, (factory.build state).1 = .ok job ∧ job.Uncancelled)
    {event : Event} {read : Option (Table Text)}
    (readable : Json.readTableBytes services.platform.jsonDepth event.payload = .ok read)
    {detailsUrl : String}
    (shown : services.detailsUrl event.buildId = .ok detailsUrl) (project : Project)
    (state : ε)
    : (∃! decision : Decision ε, decision.OfPayload services.platform event.payload factories)
      ∧ ∀ decision : Decision ε,
          decision.OfPayload services.platform event.payload factories
          → decision.Answers services factories event project detailsUrl state
              ((runEvent services factories event project).trace state) := by
  refine ⟨Decision.existsUnique different readable, fun decision decides => ?_⟩
  rw [runEvent, decides.nameOf, Attempt.trace_bind_ok (Attempt.trace_liftExcept _ state)]
  cases decision with
  | unnamed => rfl
  | unknown name => exact run_unknown (factory?_eq_none_iff.mpr decides.2) event project state
  | check factory =>
      obtain ⟨job, built, uncancelled⟩ := building factory decides.1 state
      obtain ⟨course, alone⟩ := run_alone reporting shown built uncancelled
        (factory?_of_mem different decides.1) project
      exact ⟨job, course, built, alone, alone.reports, fun _ _ described => alone.once described⟩

/-- A factory whose key is other than the name of its job, which fails behind two pauses. -/
def renamedFactory : Factory Unit :=
  .ofUnit "test-javascript" (.ofBehaviour "unit" ⟨2, .failed ⟨"unit", "red", some 1⟩⟩)

theorem runEvent_answers_escaped
    : let services := { Handlers.rehearsal with
        reporter := .later .console, schedule := fun count => count + 1 }
      let factories := [.ofUnit "lint" (.ofBehaviour "style" ⟨0, .passed⟩), renamedFactory]
      let event := Suite.escapedRequest
      let decision : Decision Unit := .check renamedFactory
      let trace := (runEvent services factories event Release.equipped).trace ()
      services.reporter.Uncancelled
      ∧ (factories.map Factory.key).Nodup
      ∧ (∀ factory ∈ factories,
          ∀ state, ∃ job, (factory.build state).1 = .ok job ∧ job.Uncancelled)
      ∧ (∃ read, Json.readTableBytes services.platform.jsonDepth event.payload = .ok read)
      ∧ decision.OfPayload services.platform event.payload factories
      ∧ (∃ detailsUrl,
          services.detailsUrl event.buildId = .ok detailsUrl
          ∧ decision.Answers services factories event Release.equipped detailsUrl () trace)
      ∧ trace.acts.filterMap Act.build? = ["test-javascript"]
      ∧ (trace.acts.filterMap Act.report?).map StatusReport.check = ["unit"]
      ∧ trace.value = .ok (.error (.group (.ofFailures ⟨"unit", "red", some 1⟩ []))) := by
  intro services factories event decision trace
  have reporting : services.reporter.Uncancelled := Reporter.console_uncancelled.later
  have different : (factories.map Factory.key).Nodup := by decide
  have building : ∀ factory ∈ factories,
      ∀ state, ∃ job, (factory.build state).1 = .ok job ∧ job.Uncancelled := by
    intro factory member state
    simp only [factories, List.mem_cons, List.not_mem_nil, or_false] at member
    rcases member with rfl | rfl
    all_goals exact ⟨_, rfl, fun _ _ goes => (Group.ofBehaviour_goes goes).2 ▸ rfl⟩
  have named : Names services.platform event.payload (Text.ofString "test-javascript") :=
    nameOf_eq_some_iff.mp (by rfl)
  have decides : decision.OfPayload services.platform event.payload factories :=
    ⟨by simp [factories], named⟩
  obtain ⟨table, _, _, _, read, _⟩ := named
  have shown : services.detailsUrl event.buildId = .ok _ :=
    Config.detailsUrl_default rfl event.buildId
  obtain ⟨_, answers⟩ := runEvent_answers reporting different building read shown
    Release.equipped ()
  exact ⟨reporting, different, building, ⟨_, read⟩, decides, ⟨_, shown, answers decision decides⟩,
    by decide +kernel, by decide +kernel, by decide +kernel⟩

end CheckRequest

end Conductor
