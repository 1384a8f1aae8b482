import Conductor.CommandLine.Reply
import Conductor.Proofs.DispatchAside
import Conductor.Proofs.MemberWarnings
import Conductor.Proofs.ReleaseGrammar

/-! Reasons that are told. Of a failed job the console shows the reason when the failure is that of
the request; of the members of a failed group it shows names and exit codes, and nothing of their
reasons.
-/

namespace Conductor

variable {ε : Type}

-----------------------------------------------------------------------------------------
-- Records with a text
-----------------------------------------------------------------------------------------

/-- A part occurs where it stands, by induction on what comes before it. -/
theorem Text.occursIn_append (before part after : List Char)
    : Text.occursIn part (before ++ (part ++ after)) = true := by
  induction before with
  | nil =>
      rw [List.nil_append]
      cases whole : part ++ after with
      | nil =>
          obtain ⟨rfl, -⟩ := List.append_eq_nil_iff.mp whole
          rfl
      | cons c rest =>
          have starts : (Text.after? part (c :: rest)).isSome :=
            Text.after?_isSome_iff.mpr ⟨after, whole.symm⟩
          rw [Text.occursIn, starts, Bool.true_or]
  | cons c before ih => rw [List.cons_append, Text.occursIn, ih, Bool.or_true]

/-- The text is a part of what the console keeps of the message. -/
def Message.Tells (message : Message) (text : String) : Prop :=
  ∃ before after, message.record.message = before ++ text ++ after

theorem Message.warning_tells (text : String) : (warning text).Tells text :=
  ⟨"warning: ", "", String.append_empty.symm⟩

namespace Act

/-- A text is found on the console if a message that tells it was written. -/
theorem console_find_ne_nil {acts : List Act} {message : Message}
    (written : .did (.wrote message) ∈ acts) {text : String} (tells : message.Tells text)
    : (console acts).find text ≠ [] := by
  obtain ⟨before, after, shown⟩ := tells
  have listed : message.record ∈ console acts :=
    List.mem_map_of_mem (List.mem_filterMap.mpr ⟨_, written, rfl⟩)
  have occurs : Text.occursIn text.toList message.record.message.toList = true := by
    rw [shown, String.toList_append, String.toList_append, List.append_assoc]
    exact Text.occursIn_append _ _ _
  exact List.ne_nil_of_mem (List.mem_filter.mpr ⟨listed, occurs⟩)

theorem console_congr {acts acts' : List Act}
    (messages : acts.filterMap message? = acts'.filterMap message?)
    : console acts = console acts' :=
  congrArg (List.map Message.record) messages

end Act

-----------------------------------------------------------------------------------------
-- Reports on failures
-----------------------------------------------------------------------------------------

/-- The report on a failed job tells its reason: in the message if there is no exit code, and else
as the hint.
-/
theorem Failure.report_tells {failure : UnitFailure} (reason : failure.reason ≠ "")
    : ∃ message ∈ report (.unit failure), message.Tells failure.reason := by
  cases coded : failure.exitCode with
  | none =>
      have message : failure.message = "job " ++ failure.job ++ " failed: " ++ failure.reason := by
        unfold UnitFailure.message
        rw [coded]
      refine ⟨_, List.mem_cons_self, "error: " ++ ("job " ++ failure.job ++ " failed: "), "", ?_⟩
      dsimp only [Message.record, Failure.message]
      rw [message, String.append_empty]
      simp only [String.append_assoc]
  | some code =>
      have filled : failure.reason.isEmpty = false := by simpa using reason
      have hint : failure.hint = some failure.reason := by
        unfold UnitFailure.hint
        rw [coded, filled]
        rfl
      have report
        : report (.unit failure) = [.error failure.message, .dim ("" ++ failure.reason)] := by
        unfold report
        dsimp only [Failure.hint, Failure.message]
        rw [hint]
        unfold hintMessages
        dsimp only
        rw [filled, if_neg Bool.false_ne_true]
      rw [report]
      refine ⟨_, List.mem_cons_of_mem _ List.mem_cons_self, "", "", ?_⟩
      simp only [Message.dim, Message.record, String.empty_append, String.append_empty]

/-- The reports on failed groups that are the same, reasons aside, are the same. -/
theorem Aggregate.Aside.report {group group' : Aggregate} (both : group.Aside group')
    : Failure.report (.group group) = Failure.report (.group group') := by
  have jobs := UnitFailure.Aside.map both.failures
    fun same => congrArg (fun job => Message.dim ("- " ++ job)) same.job
  unfold Failure.report
  dsimp only [Failure.message]
  rw [both.failures.length_eq, both.first.message, jobs]

namespace CommandLine

-----------------------------------------------------------------------------------------
-- Deliveries
-----------------------------------------------------------------------------------------

/-- An event that is ready to be delivered, and what its jobs are run with. -/
structure Delivery where
  platform : Platform
  schedule : Schedule
  config : Config
  settings : Executor.DockerSettings
  tags : TagMatcher
  event : Event
  project : Project

namespace Delivery

/-- The services for a delivery: jobs run in containers, and reports go to the console. -/
def services (delivery : Delivery) (launch : Executor.Launcher ε) : Services ε where
  platform := delivery.platform
  schedule := delivery.schedule
  config := delivery.config
  executor := .docker delivery.settings launch
  reporter := .console
  tags := delivery.tags

def dispatch (delivery : Delivery) (launch : Executor.Launcher ε)
    : Attempt ε (Except Failure Unit) :=
  (Handlers.router (delivery.services launch)).dispatch delivery.event delivery.project

end Delivery

def dockerSettings (host : Host ε) (emission : Emission) : Command ε Executor.DockerSettings :=
  match Path.expanded? host.home (Path.normal emission.source) with
  | none => throw (.ofFault .noHome)
  | some source => do
    let sourceRoot ← Command.orBroken ((host.resolve source).mapError Fault.unresolved)
    return {
      sourceRoot
      timeout := emission.timeout.map .fraction
      baseEnv := host.env
    }

/-- All that is read of an emission that executes, before its event is delivered. -/
def prepare (host : Host ε) (emission : Emission) : Command ε Delivery := do
  let config ← Command.orRefused (Config.load host.platform host.files emission.config)
  checkKind emission.kind
  let payload ← readPayload host.files emission.payloadFile
  let settings ← dockerSettings host emission
  let tags ← Command.orBroken (TagMatcher.ofSource host.platform.patterns config.tagPattern)
  let secrets ← readSecrets host.platform host.files emission.secretsFile
  return {
    platform := host.platform
    schedule := host.schedule
    config, settings, tags
    event := ⟨emission.kind, emission.ref, emission.buildId, payload⟩
    project := { repoName := repoName config emission.repo, secrets }
  }

/-- How calls end has no part in what is read before the event is delivered. -/
theorem prepare_launch (host : Host ε) (launch : Executor.Launcher ε) (emission : Emission)
    : prepare { host with launch } emission = prepare host emission := by
  unfold prepare dockerSettings
  dsimp only

/-- What follows a command that comes through goes on from the state that it leaves. -/
theorem Command.trace_bind_ok {α β : Type} {first : Command ε α} {next : α → Command ε β}
    {state : ε} {value : α} (through : (first.run.trace state).value = .ok value)
    : (first >>= next).run.trace state
      = ((next value).run.trace (first.run.trace state).state).behind
          (first.run.trace state).acts := by
  rw [ExceptT.run_bind, Run.trace_bind, through]

theorem Command.trace_lift {α : Type} (run : Run Act ε α) (state : ε)
    : (ExceptT.lift run : Command ε α).run.trace state
      = ⟨.ok (run.trace state).value, (run.trace state).state, (run.trace state).acts⟩ := by
  change Trace.mk _ _ ((run.trace state).acts ++ []) = _
  rw [List.append_nil]
  rfl

/-- The executor of an emission that executes runs jobs in containers. -/
theorem executor_eq (host : Host ε) {emission : Emission} (executed : emission.execute = true)
    : executor host emission
      = dockerSettings host emission >>= fun settings => pure (.docker settings host.launch) := by
  unfold executor dockerSettings
  rw [executed, if_pos rfl]
  cases Path.expanded? host.home (Path.normal emission.source) with
  | none => rfl
  | some source => simp only [bind_assoc, pure_bind]

/-- An emission that executes is prepared, dispatched and concluded. -/
theorem emit_eq (host : Host ε) {emission : Emission} (executed : emission.execute = true)
    : emit host emission
      = prepare host emission >>= fun delivery =>
          ExceptT.lift (delivery.dispatch host.launch).run >>= conclude := by
  unfold emit prepare
  simp only [executor_eq host executed, bind_assoc, pure_bind]
  refine bind_congr fun config => bind_congr fun _ => bind_congr fun payload => ?_
  refine bind_congr fun settings => ?_
  unfold Services.ofConfig
  cases TagMatcher.ofSource host.platform.patterns config.tagPattern <;> rfl

/-- An answer that is a failure is concluded by the report on it, and by its exit status. -/
theorem conclude_failed (failure : Failure) (state : ε)
    : (conclude (.ok (.error failure)) : Command ε Reply).run.trace state
      = ⟨.ok (.ofStatus failure.exitStatus), state,
          failure.report.map fun message => .did (.wrote message)⟩ := by
  have written := Command.trace_lift (Run.write failure.report) state
  refine (Command.trace_bind_ok (congrArg Trace.value written)).trans ?_
  rw [written]
  simp only [Trace.behind, ExceptT.run_pure, Run.trace_pure, List.append_nil, Run.write,
    Run.trace_acts]

/-- An emission comes to a delivery, the event of which is answered with a failure. -/
structure Fails (host : Host ε) (emission : Emission) (state : ε) (delivery : Delivery)
    (failure : Failure) : Prop where
  prepared : ((prepare host emission).run.trace state).value = .ok delivery
  failed
    : let ready := (prepare host emission).run.trace state
      ((delivery.dispatch host.launch).trace ready.state).value = .ok (.error failure)

/-- An emission whose event is answered with a failure ends with the report on the failure. -/
theorem emit_failed (host : Host ε) {emission : Emission} (executed : emission.execute = true)
    {state : ε} {delivery : Delivery} {failure : Failure}
    (fails : Fails host emission state delivery failure)
    : let ready := (prepare host emission).run.trace state
      let answer := (delivery.dispatch host.launch).trace ready.state
      (emit host emission).run.trace state
      = ⟨.ok (.ofStatus failure.exitStatus), answer.state,
          ready.acts
            ++ (answer.acts ++ failure.report.map fun message => .did (.wrote message))⟩ := by
  intro ready answer
  have answered
    : (ExceptT.lift (delivery.dispatch host.launch).run : Command ε _).run.trace ready.state
      = ⟨.ok (.ok (.error failure)), answer.state, answer.acts⟩ := by
    rw [← fails.failed]
    exact Command.trace_lift _ _
  rw [emit_eq host executed, Command.trace_bind_ok fails.prepared,
    Command.trace_bind_ok (congrArg Trace.value answered), answered]
  exact congrArg (Trace.behind _) (congrArg (Trace.behind _) (conclude_failed failure answer.state))

/-- Of deliveries of which the calls end with the same codes, one is answered with a failed group if
the other is, and the reports on them are the same.
-/
theorem Delivery.dispatch_failed (delivery : Delivery) {launch launch' : Executor.Launcher ε}
    (same : launch.SameCodes launch') {state : ε} {group : Aggregate}
    (failed : ((delivery.dispatch launch).trace state).value = .ok (.error (.group group)))
    : ∃ group',
        let answer := (delivery.dispatch launch).trace state
        let answer' := (delivery.dispatch launch').trace state
        answer'.value = .ok (.error (.group group'))
        ∧ answer.acts.filterMap Act.message? = answer'.acts.filterMap Act.message?
        ∧ Failure.report (.group group) = Failure.report (.group group') := by
  have jobs : ∀ spec, ((delivery.services launch).unit spec).Aside
      (spec.unit (.docker delivery.settings launch')) :=
    Executor.docker_aside delivery.settings same
  obtain ⟨value, -, messages⟩ :=
    Handlers.dispatch_aside jobs delivery.event delivery.project state
  change ResultsAgree _ _ ((delivery.dispatch launch).trace state).value
    ((delivery.dispatch launch').trace state).value at value
  rw [failed] at value
  generalize result : ((delivery.dispatch launch').trace state).value = result' at value
  obtain _ | both := value
  obtain both | _ := both
  cases both with
  | same => exact ⟨group, result, messages, rfl⟩
  | @group _ group' both => exact ⟨group', result, messages, both.report⟩

/-- A host without files, the calls of which end as they are scripted. -/
def scriptedHost : Host (List ChildProcess.Ending) where
  platform := .plain
  schedule := .fair
  files := fun _ => .error .missing
  home := fun _ => none
  resolve := fun path => .ok (Path.resolved "/" path)
  env := []
  launch := Release.scripted

/-- An emission that executes, and has nothing beside its kind. -/
def bareEmission (kind : EventKind) : Emission :=
  { kind := kind.text, execute := true, source := "/work" }

/-- What a bare emission comes to on a host without files. -/
def bareDelivery (kind : EventKind) : Delivery where
  platform := .plain
  schedule := .fair
  config := {}
  settings := { sourceRoot := "/work" }
  tags := .releases
  event := { kind := kind.text, ref := "", buildId := "local" }
  project := { repoName := "brigadecore/brigade", secrets := [] }

theorem prepare_bare (kind : EventKind) (state : List ChildProcess.Ending)
    : (prepare scriptedHost (bareEmission kind)).run.trace state
      = ⟨.ok (bareDelivery kind), state, []⟩ := by
  have loaded
    : (Command.orRefused (Config.load scriptedHost.platform scriptedHost.files none)
        : Command (List ChildProcess.Ending) Config)
      = pure {} := rfl
  have known : (checkKind kind.text : Command (List ChildProcess.Ending) Unit) = pure () := by
    rw [checkKind, EventKind.ofText?_text]
  have settings
    : dockerSettings scriptedHost (bareEmission kind) = pure { sourceRoot := "/work" } := by
    have expanded : Path.expanded? (fun _ => none) (Path.normal "/work") = some "/work" := by
      decide +kernel
    have resolved : Path.resolved "/" "/work" = "/work" := by decide +kernel
    unfold dockerSettings scriptedHost bareEmission
    dsimp only
    rw [expanded]
    dsimp only
    rw [resolved]
    rfl
  have tags
    : (Command.orBroken (TagMatcher.ofSource scriptedHost.platform.patterns defaultTagPattern)
        : Command (List ChildProcess.Ending) TagMatcher)
      = pure .releases := by
    rw [TagMatcher.ofSource_default]
    rfl
  have named : repoName {} none = "brigadecore/brigade" := by decide +kernel
  unfold prepare
  rw [settings]
  dsimp only [bareEmission, readPayload, readSecrets]
  rw [loaded, pure_bind, known, pure_bind, pure_bind, pure_bind, tags, pure_bind, pure_bind, named]
  rfl

/-- A first call that fails with a word on its error output, and two that succeed. -/
def failingScript : List ChildProcess.Ending :=
  [.exited 1 "" "boom", .exited 0 "" "", .exited 0 "" ""]

theorem bare_fails {kind : EventKind} {failure : Failure}
    (failed
      : (((bareDelivery kind).dispatch Release.scripted).trace failingScript).value
        = .ok (.error failure))
    : Fails scriptedHost (bareEmission kind) failingScript (bareDelivery kind) failure where
  prepared := by rw [prepare_bare]
  failed := by
    intro ready
    rwa [show ready.state = failingScript from congrArg Trace.state (prepare_bare kind _)]

end CommandLine

end Conductor
