import Conductor.Proofs.Plan

/-! Rehearsals. A dry run shows the jobs that a run in containers starts: the same ones in the same
order, up to where calls that fail end the run.
-/

namespace Conductor

variable {ε δ : Type}

-----------------------------------------------------------------------------------------
-- How calls end
-----------------------------------------------------------------------------------------

namespace Executor

namespace Launcher

/-- The state that calls in a row leave. -/
def after (launch : Launcher ε) (state : ε) (calls : List ChildProcess.Call) : ε :=
  calls.foldl (fun now call => (launch call now).2) state

/-- How calls in a row end. -/
def endings (launch : Launcher ε) : ε → List ChildProcess.Call → List ChildProcess.Ending
  | _, [] => []
  | state, call :: rest => (launch call state).1 :: endings launch (launch call state).2 rest

theorem after_append (launch : Launcher ε) (state : ε) (first rest : List ChildProcess.Call)
    : launch.after state (first ++ rest) = launch.after (launch.after state first) rest :=
  List.foldl_append

/-- Calls in a row end as the first of them, and then as the rest from the state that these leave.
Witness: induction on the first calls.
-/
theorem endings_append (launch : Launcher ε) (state : ε) (first rest : List ChildProcess.Call)
    : launch.endings state (first ++ rest)
      = launch.endings state first ++ launch.endings (launch.after state first) rest := by
  induction first generalizing state with
  | nil => rfl
  | cons call first ih =>
      rw [List.cons_append, endings, endings, ih, List.cons_append]
      rfl

end Launcher

/-- The acts of a run tell how it has used a launcher: it is left in the state behind the calls, and
the jobs have ended, one for each call, as the calls have.
-/
structure Answers (settings : DockerSettings) (launch : Launcher ε) (state : ε) {α : Type}
    (trace : Trace Act ε α)
    : Prop where
  later : trace.state = launch.after state (trace.acts.filterMap Act.call?)
  ends
    : List.Forall₂ (fun entry ending => entry.2 = settings.outcome entry.1 ending)
        (trace.acts.filterMap Act.end?)
        (launch.endings state (trace.acts.filterMap Act.call?))

def answering (settings : DockerSettings) (launch : Launcher ε) : Run.Kind ε := fun _ run =>
  ∀ state, Answers settings launch state (run.trace state)

variable (settings : DockerSettings) (launch : Launcher ε)

/-- Acts that make no calls and end no jobs use no launcher. -/
theorem Answers.of_idle {α : Type} {state : ε} {trace : Trace Act ε α} (same : trace.state = state)
    (calls : trace.acts.filterMap Act.call? = []) (ends : trace.acts.filterMap Act.end? = [])
    : Answers settings launch state trace where
  later := by rw [same, calls, Launcher.after, List.foldl_nil]
  ends := by
    rw [ends, calls]
    exact .nil

theorem answering_closed : (answering settings launch).Closed where
  pure value state := .of_idle settings launch rfl rfl rfl
  bind := by
    intro α β first next before after state
    have own := before state
    have rest := after state (first.trace state).state
    constructor
    · rw [Run.trace_bind, Trace.behind_acts, Trace.behind_state, List.filterMap_append,
        Launcher.after_append, ← own.later]
      exact rest.later
    · rw [Run.trace_bind, Trace.behind_acts, List.filterMap_append, List.filterMap_append,
        Launcher.endings_append, ← own.later]
      exact List.rel_append own.ends rest.ends
  inState each state := each state state

/-- Messages are no calls. -/
theorem wrote_calls (messages : List Message)
    : (messages.map fun message => Act.did (.wrote message)).filterMap Act.call? = [] := by
  rw [List.filterMap_map]
  exact List.filterMap_eq_nil_iff.mpr fun _ _ => rfl

/-- What a job in a container does once it has control again: its call, what it says of how that
ended, and its end.
-/
def dockerLeg (spec : JobSpec) : Run Act ε Outcome := do
  let call := settings.call spec
  Run.act (.did (.called call))
  let ending ← Run.change (launch call)
  Run.write (settings.conclusion spec ending)
  Run.act (.ended spec (settings.outcome spec ending))
  return settings.outcome spec ending

/-- The second turn of a job in a container uses the launcher once. -/
theorem dockerLeg_answers (spec : JobSpec)
    : answering settings launch _ (dockerLeg settings launch spec) := by
  intro state
  let call := settings.call spec
  let ending := (launch call state).1
  let outcome := settings.outcome spec ending
  let said : List Act := (settings.conclusion spec ending).map fun message => .did (.wrote message)
  have gone
    : (dockerLeg settings launch spec).trace state
      = ⟨outcome, (launch call state).2,
          .did (.called call) :: (said ++ [.ended spec outcome])⟩ := by
    simp [dockerLeg, Run.write, Trace.behind, said, outcome, ending, call]
  have calls : ((dockerLeg settings launch spec).trace state).acts.filterMap Act.call?
      = [call] := by
    rw [gone]
    exact congrArg (call :: ·) (by rw [List.filterMap_append, wrote_calls, List.nil_append]; rfl)
  have ends : ((dockerLeg settings launch spec).trace state).acts.filterMap Act.end?
      = [(spec, outcome)] := by
    rw [gone, List.filterMap_cons_none rfl, List.filterMap_append,
      Act.filterMap_wrote fun _ => rfl]
    rfl
  exact {
    later := by
      rw [calls, gone]
      rfl
    ends := by
      rw [calls, ends]
      exact .cons rfl .nil
  }

/-- A job in a container uses the launcher once, in its second turn. -/
theorem docker_unit_answers (spec : JobSpec)
    : (spec.unit (docker settings launch)).IsOf (answering settings launch) := by
  have closed := answering_closed settings launch
  have legs
    : (spec.unit (docker settings launch)).work = (do
        Async.act (.started spec)
        Async.ofRun (Run.write [DockerSettings.announcement spec])
        Async.pause
        Async.ofRun (dockerLeg settings launch spec)) := by
    simp only [docker_unit, dockerLeg, ← Async.ofRun_bind]
    rfl
  rw [UnitOfWork.IsOf, legs]
  refine .bind closed (.ofRun closed ?started) fun _ _ _ => .bind closed (.ofRun closed ?announced)
    fun _ _ _ => .bind closed (.pause closed) fun _ _ _ =>
      .ofRun closed (dockerLeg_answers settings launch spec)
  case started => exact fun state => .of_idle settings launch rfl rfl rfl
  case announced => exact fun state => .of_idle settings launch rfl rfl rfl

/-- A report to the console makes no calls and ends no jobs. -/
theorem conclude_answers (check : Check ε) (outcome : Outcome)
    : (check.conclude .console outcome).IsOf (answering settings launch) := by
  have closed := answering_closed settings launch
  have idle : ∀ act : Act, act.call? = none → act.end? = none
      → (Async.act act : Async Act ε Unit).IsOf (answering settings launch) := by
    intro act uncalled unended
    refine .ofRun closed fun state => .of_idle settings launch rfl ?_ ?_
    · exact List.filterMap_cons_none uncalled
    · exact List.filterMap_cons_none unended
  have taken : ∀ report,
      (Async.mapActs Act.did (Reporter.console report)).IsOf (answering settings launch) := by
    intro report
    rw [Reporter.console, Async.mapActs_bind, Async.mapActs_ofRun, Run.mapActs_say]
    refine .bind closed (.ofRun closed fun state => ?_) fun _ _ _ => .pure closed _
    exact .of_idle settings launch rfl (wrote_calls _) (Act.filterMap_wrote (fun _ => rfl) _)
  unfold Check.conclude
  split
  · exact .pure closed _
  · refine .bind closed (idle _ rfl rfl) fun _ _ _ => .bind closed (taken _) fun _ answer _ => ?_
    cases answer with
    | error breakdown => exact .bind closed (idle _ rfl rfl) fun _ _ _ => .pure closed _
    | ok => exact .bind closed (idle _ rfl rfl) fun _ _ _ => .pure closed _

/-- All that services do whose jobs run in containers, and which report to the console, tells how it
has used the launcher.
-/
theorem docker_answers {services : Services ε}
    (executor : services.executor = docker settings launch)
    (console : services.reporter = .console)
    : services.AreOf (answering settings launch) fun _ => True := by
  have jobs : ∀ spec, (services.unit spec).IsOf (answering settings launch) := by
    intro spec
    rw [Services.unit, executor]
    exact docker_unit_answers settings launch spec
  exact {
    closed := answering_closed settings launch
    writing := fun messages state =>
      .of_idle settings launch rfl (wrote_calls messages)
        (Act.filterMap_wrote (fun _ => rfl) messages)
    building := fun key state => .of_idle settings launch rfl rfl rfl
    jobs := fun spec _ => jobs spec
    checks := by
      intro check spec _ job
      rw [console]
      exact Check.unit_isOf (answering_closed settings launch) (job ▸ jobs spec)
        (conclude_answers settings launch check)
  }

end Executor

-----------------------------------------------------------------------------------------
-- Dry runs
-----------------------------------------------------------------------------------------

/-- An act that does not end a job, or ends one that passed. -/
def Act.Passes (act : Act) : Prop :=
  ∀ entry, act.end? = some entry → entry.2 = .passed

theorem Act.passes_of_unended {act : Act} (unended : act.end? = none) : act.Passes := by
  intro entry ended
  rw [unended] at ended
  cases ended

/-- All jobs of a dry run pass. -/
theorem Services.dryRun_passes {services : Services ε} (executor : services.executor = .dryRun)
    : services.AreOf (.every Act.Passes) fun _ => True := by
  have jobs : ∀ spec, (services.unit spec).IsOf (.every Act.Passes) := by
    intro spec
    rw [Services.unit, executor]
    refine Async.Within.isOf fun acts outcome goes => ⟨?_, trivial⟩
    obtain ⟨deeds, course, rfl⟩ := JobSpec.unit_goes goes
    refine List.forall_mem_cons.mpr ⟨Act.passes_of_unended rfl, List.forall_mem_append.mpr ⟨?_, ?_⟩⟩
    · exact List.forall_mem_map.mpr fun deed _ => Act.passes_of_unended rfl
    · refine List.forall_mem_singleton.mpr fun entry ended => ?_
      cases ended
      exact (Executor.dryRun_goes course).2
  exact {
    closed := Run.Kind.every_closed _
    writing := Run.Kind.every_write fun _ => Act.passes_of_unended rfl
    building := fun _ => Run.Kind.every_act (Act.passes_of_unended rfl)
    jobs := fun spec _ => jobs spec
    checks := by
      intro check spec _ job
      refine Check.unit_isOf (Run.Kind.every_closed _) (job ▸ jobs spec) fun outcome => ?_
      exact (Check.conclude_every (fun _ => Act.passes_of_unended rfl)
        (fun _ => Act.passes_of_unended rfl)
        (fun _ _ _ _ => Act.passes_of_unended rfl) outcome).isOf
  }

/-- A dry run shows what a run in containers does. The jobs that the run starts are the first of
those that the dry run starts; if all of its calls exit with zero, it starts the same jobs and comes
to the same. A fault breaks both off, and before any job. In the dry run no job fails, so that it is
never a failed build.
-/
structure Rehearses (launch : Executor.Launcher ε) (state : ε)
    (live : Trace Act ε (Except Fault (Except Failure Unit)))
    (dry : Trace Act δ (Except Fault (Except Failure Unit)))
    : Prop where
  starts : live.acts.filterMap Act.start? <+: dry.acts.filterMap Act.start?
  same
    : (∀ ending ∈ launch.endings state (live.acts.filterMap Act.call?),
        ∃ stdout stderr, ending = .exited 0 stdout stderr)
      → live.acts.filterMap Act.start? = dry.acts.filterMap Act.start? ∧ live.value = dry.value
  fault_iff : ∀ fault, live.value = .error fault ↔ dry.value = .error fault
  unstarted
    : ∀ fault,
        dry.value = .error fault
        → live.acts.filterMap Act.start? = [] ∧ dry.acts.filterMap Act.start? = []
  passed : ∀ entry ∈ dry.acts.filterMap Act.end?, entry.2 = .passed
  noFailure
    : ∀ failure,
        dry.value = .ok (.error failure)
        → (∀ unit, failure ≠ .unit unit) ∧ ∀ group, failure ≠ .group group

/-- Jobs whose calls all exit with zero pass, by induction on the calls. -/
theorem Executor.Answers.allPassed {settings : DockerSettings} {launch : Launcher ε} {state : ε}
    {α : Type} {trace : Trace Act ε α} (answers : Answers settings launch state trace)
    (zero
      : ∀ ending ∈ launch.endings state (trace.acts.filterMap Act.call?),
          ∃ stdout stderr, ending = .exited 0 stdout stderr)
    : AllPassed trace.acts := by
  have ends := answers.ends
  unfold AllPassed
  generalize trace.acts.filterMap Act.end? = entries at *
  generalize launch.endings state (trace.acts.filterMap Act.call?) = endings at *
  induction ends with
  | nil => exact List.forall_mem_nil _
  | @cons entry ending _ _ own _ ih =>
      obtain ⟨⟨stdout, stderr, rfl⟩, others⟩ := List.forall_mem_cons.mp zero
      refine List.forall_mem_cons.mpr ⟨?_, ih others⟩
      rw [own]
      rfl

/-- Of two runs that follow one plan, the one in which all jobs pass shows what the other does. -/
theorem Rehearses.of_plan {plan : Except Fault Plan} {settings : Executor.DockerSettings}
    {launch : Executor.Launcher ε} {state : ε}
    {live : Trace Act ε (Except Fault (Except Failure Unit))}
    {dry : Trace Act δ (Except Fault (Except Failure Unit))} (liveFollows : Follows live plan)
    (dryFollows : Follows dry plan) (answers : Executor.Answers settings launch state live)
    (passed : AllPassed dry.acts)
    (noFailedBuild : ∀ result, dry.value = .ok result → exitCode result ≠ 3)
    : Rehearses launch state live dry := by
  have noFailure : ∀ failure, dry.value = .ok (.error failure)
      → (∀ unit, failure ≠ .unit unit) ∧ ∀ group, failure ≠ .group group := by
    intro failure failed
    have code := noFailedBuild _ failed
    constructor
    · rintro unit rfl
      exact code rfl
    · rintro group rfl
      exact code rfl
  cases liveFollows with
  | @broken fault value unstarted =>
      cases dryFollows with
      | broken value' unstarted' =>
          exact {
            starts := by
              rw [unstarted]
              exact List.nil_prefix
            same := fun _ => ⟨unstarted.trans unstarted'.symm, value.trans value'.symm⟩
            fault_iff := fun _ => by rw [value, value']
            unstarted := fun _ _ => ⟨unstarted, unstarted'⟩
            passed
            noFailure
          }
  | @followed plan result value starts ended succeeded =>
      cases dryFollows with
      | @followed _ result' value' _ ended' succeeded' =>
          obtain rfl : result' = plan.result := succeeded' passed
          have shown := ended' rfl
          exact {
            starts := by
              rw [shown]
              exact starts
            same := by
              intro zero
              obtain rfl : result = plan.result := succeeded (answers.allPassed zero)
              exact ⟨(ended rfl).trans shown.symm, value.trans value'.symm⟩
            fault_iff := fun _ => by simp [value, value']
            unstarted := fun _ broken => by simp [value'] at broken
            passed
            noFailure
          }

namespace Handlers

/-- A run in containers does what a dry run for the same event shows, whatever becomes of its calls
and in whatever order its jobs take turns.
Witness: both follow the plan of the event, and the dry run does so to its end.
-/
theorem dispatch_rehearses (platform : Platform) (config : Config) (tags : TagMatcher)
    (settings : Executor.DockerSettings) (launch : Executor.Launcher ε)
    (schedule schedule' : Schedule) (event : Event) (project : Project) (state : ε) (now : δ)
    : let live : Services ε := {
        platform, schedule, config, tags
        executor := .docker settings launch
        reporter := .console
      }
      let dry : Services δ := {
        platform, config, tags
        schedule := schedule'
        executor := .dryRun
        reporter := .console
      }
      Rehearses launch state (((router live).dispatch event project).trace state)
        (((router dry).dispatch event project).trace now) := by
  intro live dry
  have answers : Executor.Answers settings launch state
      (((router live).dispatch event project).trace state) :=
    dispatch_isOf (Executor.docker_answers settings launch rfl rfl) (fun _ => trivial) event project
      state
  have passed : AllPassed (((router dry).dispatch event project).trace now).acts := by
    intro entry member
    obtain ⟨act, known, ended⟩ := List.mem_filterMap.mp member
    have passes : ((router dry).dispatch event project).IsOf (.every Act.Passes) :=
      dispatch_isOf (Services.dryRun_passes rfl) (fun _ => trivial) event project
    exact passes now act known entry ended
  have unbroken : ∀ act ∈ (((router dry).dispatch event project).trace now).acts, act.Unbroken :=
    dispatch_isOf (Services.unbroken rfl) (fun _ => trivial) event project now
  have noFailedBuild : ∀ result,
      (((router dry).dispatch event project).trace now).value = .ok result
      → exitCode result ≠ 3 := by
    intro result through failed
    have shows := (dispatch_accounts dry event project [] now result through).mpr failed
    exact not_showsFailure_of_allPassed passed unbroken shows
  have liveFollows : Follows (((router live).dispatch event project).trace state)
      (Plan.ofEvent platform config event project tags) :=
    dispatch_follows (Executor.docker_uncancelled settings launch) event project state rfl
  have dryFollows : Follows (((router dry).dispatch event project).trace now)
      (Plan.ofEvent platform config event project tags) :=
    dispatch_follows Executor.dryRun_uncancelled event project now rfl
  exact .of_plan liveFollows dryFollows answers passed noFailedBuild

theorem dispatch_rehearses_denied
    : let dryServices : Services Unit := {
        platform := .plain
        schedule := .fair
        config := {}
        executor := .dryRun
        reporter := .console
        tags := Release.scriptedServices.tags
      }
      let live := ((router Release.scriptedServices).dispatch tagged Release.equipped).trace
        Suite.deniedScript
      let dry := ((router dryServices).dispatch tagged Release.equipped).trace ()
      let images := Catalog.publishImages {} Release.equipped "v1"
      Rehearses Release.scripted Suite.deniedScript live dry
      ∧ live.acts.filterMap Act.start? = Catalog.suite {} ++ [images]
      ∧ live.value = .ok (.error (.unit ⟨images.name, "denied", some 1⟩))
      ∧ dry.acts.filterMap Act.start?
        = Catalog.suite {} ++ [images, Catalog.release {} Release.equipped "v1"]
      ∧ dry.value = .ok (.ok ()) := by
  intro dryServices live dry images
  have rehearses : Rehearses Release.scripted Suite.deniedScript live dry :=
    dispatch_rehearses .plain {} Release.scriptedServices.tags { sourceRoot := "/work" }
      Release.scripted      .fair .fair tagged Release.equipped Suite.deniedScript ()
  exact ⟨rehearses, by decide +kernel, by decide +kernel, by decide +kernel, by decide +kernel⟩

end Handlers

end Conductor
