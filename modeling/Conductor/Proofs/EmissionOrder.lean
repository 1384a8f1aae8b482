import Conductor.Proofs.PushNotices
import Conductor.Proofs.ToldReasons

/-! What an emission meets before its event is dispatched. All that it reads is read in a fixed
order; the first thing that cannot be used decides how the emission ends, and nothing is run. What
is left is handed over to the handlers once.
-/

namespace Conductor.CommandLine

variable {ε α β : Type}

-----------------------------------------------------------------------------------------
-- Obstacles
-----------------------------------------------------------------------------------------

/-- Why a file of tables is not taken: its reader does not answer, or the file is refused. -/
inductive Refusal where
  | broken (fault : Fault)
  | refused (error : Config.Error)

namespace Refusal

/-- What the reading of such a file comes to. -/
def answer : Refusal → Except Fault (Except Config.Error α)
  | .broken fault => .error fault
  | .refused error => .ok (.error error)

/-- A refused file ends a command with the error for its environment. -/
def reply : Refusal → Reply
  | .broken fault => { ending := .broken fault }
  | .refused error => { ending := .exit 2, stderr := "error: " ++ error.message ++ "\n" }

theorem answer_ne (refusal : Refusal) (value : α) : refusal.answer ≠ .ok (.ok value) := by
  cases refusal <;> nofun

theorem eq_of_answer {refusal refusal' : Refusal}
    (same : (refusal.answer : Except Fault (Except Config.Error α)) = refusal'.answer)
    : refusal = refusal' := by
  cases refusal <;> cases refusal' <;> cases same <;> rfl

end Refusal

/-- A command goes on with what a file holds, or ends with the refusal of the file. -/
theorem Command.orRefused_cases (read : Except Fault (Except Config.Error α))
    : (∃ value, read = .ok (.ok value) ∧ (orRefused read : Command ε α) = pure value)
      ∨ ∃ refusal : Refusal,
          read = refusal.answer ∧ (orRefused read : Command ε α) = throw refusal.reply := by
  rcases read with fault | error | value
  · exact .inr ⟨.broken fault, rfl, rfl⟩
  · exact .inr ⟨.refused error, rfl, rfl⟩
  · exact .inl ⟨value, rfl, rfl⟩

/-- What can keep the event of an emission from being dispatched: the file of the configuration, the
kind of the event, the file of the payload, the directory of the sources, and the file of secrets.
-/
inductive Obstacle where
  | config (refusal : Refusal)
  | kind (name : String)
  | payload (path : String) (error : ReadError)
  | source (fault : Fault)
  | secrets (refusal : Refusal)

namespace Obstacle

/-- Where an obstacle lies on the way. -/
def rank : Obstacle → Nat
  | .config _ => 0
  | .kind _ => 1
  | .payload _ _ => 2
  | .source _ => 3
  | .secrets _ => 4

theorem rank_lt (obstacle : Obstacle) : obstacle.rank < 5 := by
  cases obstacle <;> simp [rank]

/-- How an emission ends that stops at an obstacle. Kinds that nobody knows and payloads that the
system does not hand out are mistakes of the user.
-/
def reply : Obstacle → Reply
  | .config refusal => refusal.reply
  | .kind _ => { ending := .exit 1 }
  | .payload path error =>
    if error = .zeroInName then { ending := .broken (.unreadable path error) }
    else { ending := .exit 1 }
  | .source fault => { ending := .broken fault }
  | .secrets refusal => refusal.reply

/-- What is written of an obstacle on the console. -/
def messages : Obstacle → List Message
  | .kind name => [
    .error ("unknown event kind: " ++ name),
    .dim ("known: " ++ ", ".intercalate (EventKind.all.map EventKind.text))]
  | .payload path error =>
    if error = .zeroInName then [] else [.error ("cannot read payload: " ++ error.message path)]
  | _ => []

/-- Stops at an obstacle. -/
def stop (obstacle : Obstacle) : Command ε α := do
  Command.write obstacle.messages
  throw obstacle.reply

/-- Nothing follows a stop. -/
theorem stop_bind (obstacle : Obstacle) (next : α → Command ε β)
    : obstacle.stop >>= next = obstacle.stop := by
  unfold stop
  rw [bind_assoc]
  rfl

/-- A stop writes the messages of the obstacle, and does nothing else. -/
theorem stop_trace (obstacle : Obstacle) (state : ε)
    : (obstacle.stop : Command ε α).run.trace state
      = ⟨.error obstacle.reply, state,
          obstacle.messages.map fun message => .did (.wrote message)⟩ := by
  unfold stop Command.write
  rw [Command.trace_bind_ok (congrArg Trace.value (Command.trace_lift _ state)),
    Command.trace_lift]
  exact congrArg (Trace.mk _ _) (List.append_nil _)

end Obstacle

/-- An emission has an obstacle, whatever other obstacles it has. -/
inductive Obstructs (host : Host ε) (emission : Emission) : Obstacle → Prop
  | config {refusal : Refusal}
      (unread : Config.load host.platform host.files emission.config = refusal.answer)
      : Obstructs host emission (.config refusal)
  | kind (unknown : EventKind.ofText? emission.kind = none)
      : Obstructs host emission (.kind emission.kind)
  | payload {path : String} {error : ReadError} (given : emission.payloadFile = some path)
      (unread : host.files (Path.normal path) = .error error)
      : Obstructs host emission (.payload (Path.normal path) error)
  | homeless (executed : emission.execute = true)
      (lost : Path.expanded? host.home (Path.normal emission.source) = none)
      : Obstructs host emission (.source .noHome)
  | unresolved {source : String} {trouble : Trouble} (executed : emission.execute = true)
      (found : Path.expanded? host.home (Path.normal emission.source) = some source)
      (lost : host.resolve source = .error trouble)
      : Obstructs host emission (.source (.unresolved trouble))
  | secrets {path : String} {refusal : Refusal} (given : emission.secretsFile = some path)
      (unread : Config.parseFile host.platform host.files path = refusal.answer)
      : Obstructs host emission (.secrets refusal)

/-- An emission has no two obstacles in one place, by cases on the place. -/
theorem Obstructs.unique {host : Host ε} {emission : Emission} {obstacle other : Obstacle}
    (left : Obstructs host emission obstacle) (right : Obstructs host emission other)
    (same : obstacle.rank = other.rank)
    : obstacle = other := by
  cases left with
  | config unread =>
      cases right with
      | config unread' => exact congrArg Obstacle.config (Refusal.eq_of_answer (unread ▸ unread'))
      | _ => cases same
  | kind =>
      cases right with
      | kind => rfl
      | _ => cases same
  | payload given unread =>
      cases right with
      | payload given' unread' =>
          cases given.symm.trans given'
          cases unread.symm.trans unread'
          rfl
      | _ => cases same
  | homeless executed lost =>
      cases right with
      | homeless => rfl
      | unresolved _ found _ => cases lost.symm.trans found
      | _ => cases same
  | unresolved executed found lost =>
      cases right with
      | homeless _ lost' => cases found.symm.trans lost'
      | unresolved _ found' lost' =>
          cases found.symm.trans found'
          cases lost.symm.trans lost'
          rfl
      | _ => cases same
  | secrets given unread =>
      cases right with
      | secrets given' unread' =>
          cases given.symm.trans given'
          exact congrArg Obstacle.secrets (Refusal.eq_of_answer (unread ▸ unread'))
      | _ => cases same

/-- The obstacle of an emission that lies before all its others. -/
structure IsFirst (host : Host ε) (emission : Emission) (obstacle : Obstacle) : Prop where
  obstructs : Obstructs host emission obstacle
  first : ∀ other, Obstructs host emission other → obstacle.rank ≤ other.rank

-----------------------------------------------------------------------------------------
-- Handovers
-----------------------------------------------------------------------------------------

/-- What is handed over to the handlers: services, an event, and a project to answer it for. -/
structure Handover (ε : Type) where
  services : Services ε
  event : Event
  project : Project

namespace Handover

def dispatch (handover : Handover ε) : Attempt ε (Except Failure Unit) :=
  (Handlers.router handover.services).dispatch handover.event handover.project

end Handover

/-- The secrets in the root table of a file: the entries of its table of secrets that are strings,
as they are and in the order of the table, or none without such a table.
-/
structure HoldsSecrets (root : Table String) (secrets : List (String × String)) : Prop where
  entries
    : ∀ table,
        root.get? "secrets" = some (.table table)
        → (∀ key text, (key, text) ∈ secrets ↔ (key, .str text) ∈ table)
          ∧ (secrets.map Prod.fst).Sublist (table.map Prod.fst)
  without : (∀ table, root.get? "secrets" ≠ some (.table table)) → secrets = []

section Emissions

variable (host : Host ε) (emission : Emission)

/-- The secrets that an emission comes with: those of its file, or none without a file. -/
structure ComesWithSecrets (secrets : List (String × String)) : Prop where
  bare : emission.secretsFile = none → secrets = []
  filed
    : ∀ path,
        emission.secretsFile = some path
        → ∃ root, Config.parseFile host.platform host.files path = .ok (.ok root)
          ∧ HoldsSecrets root secrets

/-- The payload that an emission comes with: what its file holds, or nothing without a file. -/
structure ComesWithPayload (payload : Bytes) : Prop where
  bare : emission.payloadFile = none → payload = []
  filed
    : ∀ path, emission.payloadFile = some path → host.files (Path.normal path) = .ok payload

/-- What runs the jobs of an emission: a dry run, unless they are to be executed. -/
structure RunsJobsWith (executor : Executor ε) : Prop where
  rehearsed : emission.execute = false → executor = .dryRun
  executed
    : emission.execute = true
      → ∃ source sourceRoot,
          Path.expanded? host.home (Path.normal emission.source) = some source
          ∧ host.resolve source = .ok sourceRoot
          ∧ executor
            = .docker {
                sourceRoot
                timeout := emission.timeout.map .fraction
                baseEnv := host.env
              } host.launch

/-- The services for an emission with a configuration and with what runs its jobs. -/
structure IsServedBy (config : Config) (executor : Executor ε) (services : Services ε)
    : Prop where
  platform : services.platform = host.platform
  schedule : services.schedule = host.schedule
  tags : TagMatcher.ofSource host.platform.patterns config.tagPattern = .ok services.tags
  config : services.config = config
  executor : services.executor = executor
  reporter : services.reporter = .console

/-- A handover is what an emission asks for, on a host. -/
structure AsksFor (handover : Handover ε) : Prop where
  config
    : Config.load host.platform host.files emission.config = .ok (.ok handover.services.config)
  known : EventKind.ofText? emission.kind ≠ none
  executor : RunsJobsWith host emission handover.services.executor
  services
    : IsServedBy host handover.services.config handover.services.executor handover.services
  kind : handover.event.kind = emission.kind
  ref : handover.event.ref = emission.ref
  buildId : handover.event.buildId = emission.buildId
  payload : ComesWithPayload host emission handover.event.payload
  repo : handover.project.repoName = repoName handover.services.config emission.repo
  secrets : ComesWithSecrets host emission handover.project.secrets

end Emissions

/-- All that is read of an emission before its event is dispatched. -/
def readied (host : Host ε) (emission : Emission) : Command ε (Handover ε) := do
  let config ← Command.orRefused (Config.load host.platform host.files emission.config)
  checkKind emission.kind
  let payload ← readPayload host.files emission.payloadFile
  let executor ← executor host emission
  let services ← Command.orBroken
    (Services.ofConfig host.platform host.schedule config executor .console)
  let secrets ← readSecrets host.platform host.files emission.secretsFile
  return {
    services
    event := ⟨emission.kind, emission.ref, emission.buildId, payload⟩
    project := { repoName := repoName config emission.repo, secrets }
  }

/-- An emission is readied, dispatched and concluded. -/
theorem emit_eq_readied (host : Host ε) (emission : Emission)
    : emit host emission
      = readied host emission >>= fun handover =>
          ExceptT.lift handover.dispatch.run >>= conclude := by
  unfold emit readied
  simp only [bind_assoc, pure_bind]
  rfl

-----------------------------------------------------------------------------------------
-- Looking for obstacles
-----------------------------------------------------------------------------------------

/-- A command looks for the obstacles of an emission from one rank on and before another: without
any it comes through quietly, with a value of which something is known, and else it stops at the
first of them.
-/
inductive LooksFor (host : Host ε) (emission : Emission) (low high : Nat) (known : α → Prop)
    (command : Command ε α) : Prop
  | through (value : α) (holds : known value)
      (clear : ∀ other, Obstructs host emission other → low ≤ other.rank → high ≤ other.rank)
      (same : command = pure value)
  | stopped (obstacle : Obstacle) (obstructs : Obstructs host emission obstacle)
      (first
        : ∀ other,
            Obstructs host emission other
            → low ≤ other.rank
            → obstacle.rank ≤ other.rank)
      (same : command = obstacle.stop)

section Looking

variable {host : Host ε} {emission : Emission} {low middle high : Nat}

/-- Commands in a row look for all that the two of them do. -/
theorem LooksFor.bind {known : α → Prop} {further : β → Prop} {command : Command ε α}
    {next : α → Command ε β} (before : LooksFor host emission low middle known command)
    (after : ∀ value, known value → LooksFor host emission middle high further (next value))
    : LooksFor host emission low high further (command >>= next) := by
  cases before with
  | stopped obstacle obstructs first same =>
      refine .stopped obstacle obstructs first ?_
      rw [same, Obstacle.stop_bind]
  | through value holds clear same =>
      rw [same, pure_bind]
      cases after value holds with
      | through value' holds' clear' same' =>
          refine .through value' holds' (fun other obstructs above => ?_) same'
          exact clear' other obstructs (clear other obstructs above)
      | stopped obstacle obstructs first same' =>
          refine .stopped obstacle obstructs (fun other obstructs above => ?_) same'
          exact first other obstructs (clear other obstructs above)

/-- A value that is there looks for nothing. -/
theorem LooksFor.pure {known : α → Prop} {value : α} (holds : known value)
    : LooksFor host emission low low known (pure value) :=
  .through value holds (fun _ _ above => above) rfl

/-- A command comes through a rank of which there is no obstacle. -/
theorem LooksFor.clear {known : α → Prop} {value : α} (holds : known value)
    (clear : ∀ other, Obstructs host emission other → other.rank ≠ low)
    : LooksFor host emission low (low + 1) known (Pure.pure value) := by
  refine .through value holds (fun other obstructs above => ?_) rfl
  exact Nat.lt_of_le_of_ne above (clear other obstructs).symm

/-- A command stops at an obstacle of the rank that it looks from. -/
theorem LooksFor.stop {known : α → Prop} {command : Command ε α} (obstacle : Obstacle)
    (obstructs : Obstructs host emission obstacle) (same : command = obstacle.stop)
    : LooksFor host emission obstacle.rank high known command :=
  .stopped obstacle obstructs (fun _ _ above => above) same

variable (host emission)

theorem config_looksFor
    : LooksFor host emission 0 1 (fun config =>
        Config.load host.platform host.files emission.config = .ok (.ok config))
        (Command.orRefused (Config.load host.platform host.files emission.config)) := by
  rcases Command.orRefused_cases (Config.load host.platform host.files emission.config) with
    ⟨config, loaded, taken⟩ | ⟨refusal, refused, ended⟩
  · rw [taken]
    refine .clear loaded fun other obstructs => ?_
    cases obstructs with
    | @config refusal unread => exact absurd (unread.symm.trans loaded) (refusal.answer_ne config)
    | _ => simp [Obstacle.rank]
  · exact .stop (.config refusal) (.config refused) ended

theorem kind_looksFor
    : LooksFor host emission 1 2 (fun _ => EventKind.ofText? emission.kind ≠ none)
        (checkKind emission.kind) := by
  cases known : EventKind.ofText? emission.kind with
  | none =>
      refine .stop (.kind emission.kind) (.kind known) ?_
      rw [checkKind, known]
      rfl
  | some kind =>
      have passed : (checkKind emission.kind : Command ε Unit) = Pure.pure () := by
        rw [checkKind, known]
      rw [passed]
      refine .clear (Option.some_ne_none kind) fun other obstructs => ?_
      cases obstructs with
      | kind unknown => cases known.symm.trans unknown
      | _ => simp [Obstacle.rank]

theorem payload_looksFor
    : LooksFor host emission 2 3 (ComesWithPayload host emission)
        (readPayload host.files emission.payloadFile) := by
  cases given : emission.payloadFile with
  | none =>
      refine .clear ⟨fun _ => rfl, fun _ filed => ?_⟩ fun other obstructs => ?_
      · cases given.symm.trans filed
      · cases obstructs with
        | payload filed _ => cases given.symm.trans filed
        | _ => simp [Obstacle.rank]
  | some path =>
      rcases read : host.files (Path.normal path) with error | bytes
      · refine .stop (.payload (Path.normal path) error) (.payload given read) ?_
        rw [readPayload, read]
        cases error <;> rfl
      · have passed : (readPayload host.files (some path) : Command ε Bytes) = Pure.pure bytes := by
          rw [readPayload, read]
        rw [passed]
        refine .clear ⟨fun bare => ?_, fun _ filed => ?_⟩ fun other obstructs => ?_
        · cases given.symm.trans bare
        · cases given.symm.trans filed
          exact read
        · cases obstructs with
          | payload filed unread =>
              cases given.symm.trans filed
              cases read.symm.trans unread
          | _ => simp [Obstacle.rank]

theorem source_looksFor
    : LooksFor host emission 3 4 (RunsJobsWith host emission) (executor host emission) := by
  cases execute : emission.execute with
  | false =>
      have passed : executor host emission = Pure.pure .dryRun := by
        unfold executor
        rw [execute, if_neg Bool.false_ne_true]
      rw [passed]
      refine .clear ⟨fun _ => rfl, fun executed => ?_⟩ fun other obstructs => ?_
      · cases execute.symm.trans executed
      · cases obstructs with
        | homeless executed _ => cases execute.symm.trans executed
        | unresolved executed _ _ => cases execute.symm.trans executed
        | _ => simp [Obstacle.rank]
  | true =>
      rw [executor_eq host execute, dockerSettings]
      cases found : Path.expanded? host.home (Path.normal emission.source) with
      | none => exact .stop (.source .noHome) (.homeless execute found) rfl
      | some source =>
          cases resolved : host.resolve source with
          | error trouble =>
              refine .stop (.source (.unresolved trouble)) (.unresolved execute found resolved) ?_
              simp only [resolved]
              rfl
          | ok sourceRoot =>
              simp only [resolved, Except.mapError, Command.orBroken, pure_bind]
              refine .clear ⟨fun rehearsed => ?_, fun _ => ?_⟩ fun other obstructs => ?_
              · cases execute.symm.trans rehearsed
              · exact ⟨source, sourceRoot, found, resolved, rfl⟩
              · cases obstructs with
                | homeless _ lost => cases found.symm.trans lost
                | unresolved _ found' lost =>
                    cases found.symm.trans found'
                    cases resolved.symm.trans lost
                | _ => simp [Obstacle.rank]

/-- An accepted configuration has services, so that they are no obstacle. -/
theorem services_looksFor {config : Config}
    (loaded : Config.load host.platform host.files emission.config = .ok (.ok config))
    (executor : Executor ε)
    : LooksFor host emission 4 4 (IsServedBy host config executor)
        (Command.orBroken
          (Services.ofConfig host.platform host.schedule config executor .console)) := by
  obtain ⟨tags, source, _⟩ := TagMatcher.ofSource_of_load loaded
  rw [Services.ofConfig_iff.mpr ⟨tags, source, rfl⟩]
  exact .pure ⟨rfl, rfl, source, rfl, rfl, rfl⟩

end Looking

/-- The strings of a table are its entries that hold strings. -/
theorem mem_strings_iff {table : Table String} {key text : String}
    : (key, text) ∈ table.strings ↔ (key, .str text) ∈ table := by
  rw [Table.strings, List.mem_filterMap]
  constructor
  · rintro ⟨⟨key', value⟩, member, shown⟩
    cases value with
    | str held =>
        cases shown
        exact member
    | _ => cases shown
  · exact fun member => ⟨_, member, rfl⟩

/-- The strings of a table have its keys, in its order, by induction on the table. -/
theorem strings_keys (table : Table String)
    : (table.strings.map Prod.fst).Sublist (table.map Prod.fst) := by
  induction table with
  | nil => exact .slnil
  | cons entry rest ih =>
      obtain ⟨key, value⟩ := entry
      cases value with
      | str text => exact ih.cons_cons key
      | _ => exact ih.cons key

theorem holdsSecrets (root : Table String)
    : HoldsSecrets root (((root.inner? "secrets").map Table.strings).getD []) where
  entries := by
    intro table found
    have inner : root.inner? "secrets" = some table := by
      rw [Table.inner?, found]
      rfl
    rw [inner]
    exact ⟨fun _ _ => mem_strings_iff, strings_keys table⟩
  without := by
    intro none
    have inner : root.inner? "secrets" = .none := by
      rw [Table.inner?, Option.bind_eq_none_iff]
      intro value found
      cases value with
      | table table => exact absurd found (none table)
      | _ => rfl
    rw [inner]
    rfl

theorem secrets_looksFor (host : Host ε) (emission : Emission)
    : LooksFor host emission 4 5 (ComesWithSecrets host emission)
        (readSecrets host.platform host.files emission.secretsFile) := by
  cases given : emission.secretsFile with
  | none =>
      refine .clear ⟨fun _ => rfl, fun _ filed => ?_⟩ fun other obstructs => ?_
      · cases given.symm.trans filed
      · cases obstructs with
        | secrets filed _ => cases given.symm.trans filed
        | _ => simp [Obstacle.rank]
  | some path =>
      rw [readSecrets]
      rcases Command.orRefused_cases (Config.parseFile host.platform host.files path) with
        ⟨root, read, taken⟩ | ⟨refusal, refused, ended⟩
      · rw [taken, pure_bind]
        refine .clear ⟨fun bare => ?_, fun _ filed => ?_⟩ fun other obstructs => ?_
        · cases given.symm.trans bare
        · cases given.symm.trans filed
          exact ⟨root, read, holdsSecrets root⟩
        · cases obstructs with
          | @secrets _ refusal filed unread =>
              cases given.symm.trans filed
              exact absurd (unread.symm.trans read) (refusal.answer_ne root)
          | _ => simp [Obstacle.rank]
      · rw [ended]
        exact .stop (.secrets refusal) (.secrets given refused) rfl

/-- What is read of an emission is read in the order of the obstacles. -/
theorem readied_looksFor (host : Host ε) (emission : Emission)
    : LooksFor host emission 0 5 (AsksFor host emission) (readied host emission) := by
  refine (config_looksFor host emission).bind fun config loaded => ?_
  refine (kind_looksFor host emission).bind fun _ known => ?_
  refine (payload_looksFor host emission).bind fun payload carried => ?_
  refine (source_looksFor host emission).bind fun executor runs => ?_
  refine (services_looksFor host emission loaded executor).bind fun services served => ?_
  refine (secrets_looksFor host emission).bind fun secrets held => .pure ?_
  obtain ⟨_, _, _, rfl, rfl, _⟩ := id served
  exact {
    config := loaded
    known
    executor := runs
    services := served
    kind := rfl
    ref := rfl
    buildId := rfl
    payload := carried
    repo := rfl
    secrets := held
  }

-----------------------------------------------------------------------------------------
-- Runs
-----------------------------------------------------------------------------------------

/-- The run of an emission whose event was answered, by the answer. A success exits with zero, and a
failure with its own code, behind the report on it; what breaks the answer off breaks the run off.
-/
def concluded (answer : Trace Act ε (Except Fault (Except Failure Unit))) : Trace Act ε Reply :=
  match answer.value with
  | .ok (.ok ()) => ⟨{ ending := .exit 0 }, answer.state, answer.acts⟩
  | .ok (.error failure) =>
    ⟨{ ending := .exit failure.exitStatus.code }, answer.state,
      answer.acts ++ failure.report.map fun message => .did (.wrote message)⟩
  | .error fault => ⟨{ ending := .broken fault }, answer.state, answer.acts⟩

/-- The reply of a command, whether it has ended early or not. -/
def replyOf : Except Reply Reply → Reply
  | .ok reply => reply
  | .error reply => reply

theorem run_trace (host : Host ε) {args : List String} {emission : Emission}
    (asked : request? args = some (.emit emission)) (state : ε)
    : let ended := (emit host emission).run.trace state
      (run host args).trace state = ⟨replyOf ended.value, ended.state, ended.acts⟩ := by
  intro ended
  have whole : (run host args).trace state
      = ((match ended.value with
          | .ok reply => pure reply
          | .error reply => pure reply : Run Act ε Reply).trace ended.state).behind ended.acts := by
    rw [run, asked]
    rfl
  rw [whole]
  cases ended.value <;> exact congrArg (Trace.mk _ _) (List.append_nil _)

/-- What is handed over is dispatched once, and the answer concludes the run. -/
theorem Handover.dispatch_concluded (handover : Handover ε) (state : ε)
    : let ended := (ExceptT.lift handover.dispatch.run >>= conclude).run.trace state
      ⟨replyOf ended.value, ended.state, ended.acts⟩
      = concluded (handover.dispatch.trace state) := by
  have lifted := Command.trace_lift handover.dispatch.run state
  have behind
    : (ExceptT.lift handover.dispatch.run >>= conclude).run.trace state
      = ((conclude (handover.dispatch.trace state).value).run.trace
          (handover.dispatch.trace state).state).behind (handover.dispatch.trace state).acts := by
    refine (Command.trace_bind_ok (congrArg Trace.value lifted)).trans ?_
    rw [lifted]
    rfl
  intro ended
  simp only [ended, behind]
  rcases handover.dispatch.trace state with ⟨fault | failure | ⟨⟩, later, acts⟩
  · exact congrArg (Trace.mk _ _) (List.append_nil acts)
  · simp only [conclude_failed, Trace.behind]
    rfl
  · exact congrArg (Trace.mk _ _) (List.append_nil acts)

/-- The first obstacle decides how an emission ends, and without any its event is dispatched once.

All that an emission reads is judged before its event is dispatched, in this order: the file of the
configuration, the kind of the event, the file of the payload, the directory of the sources of an
emission that executes, and the file of secrets. At the first of them that is an obstacle the run
stops, with the reply to this obstacle and its messages, whatever else is an obstacle behind it; no
job is started, nothing is reported and the state is kept. If there is none, services, an event and
a project as the emission asks for are handed over, and the run is one dispatch with its conclusion.
Witness: what is read is read in the order of the obstacles, part by part.
-/
theorem run_emits (host : Host ε) {args : List String} {emission : Emission}
    (asked : request? args = some (.emit emission)) (state : ε)
    : let trace := (run host args).trace state
      (∀ obstacle,
        IsFirst host emission obstacle
        → trace
          = ⟨obstacle.reply, state,
              obstacle.messages.map fun message => .did (.wrote message)⟩)
      ∧ ((∀ obstacle, ¬Obstructs host emission obstacle)
          → ∃ handover,
              AsksFor host emission handover
              ∧ trace = concluded (handover.dispatch.trace state))
      ∧ ((∃ obstacle, IsFirst host emission obstacle)
          ∨ ∀ obstacle, ¬Obstructs host emission obstacle) := by
  intro trace
  have ended := run_trace host asked state
  rw [emit_eq_readied] at ended
  cases readied_looksFor host emission with
  | through handover asks clear same =>
      have none : ∀ obstacle, ¬Obstructs host emission obstacle := by
        intro obstacle obstructs
        exact absurd (clear obstacle obstructs (Nat.zero_le _)) (Nat.not_le.mpr obstacle.rank_lt)
      rw [same, pure_bind] at ended
      refine ⟨fun obstacle first => absurd first.obstructs (none obstacle), fun _ => ?_, .inr none⟩
      exact ⟨handover, asks, ended.trans (handover.dispatch_concluded state)⟩
  | stopped obstacle obstructs first same =>
      rw [same, Obstacle.stop_bind, Obstacle.stop_trace] at ended
      have isFirst : IsFirst host emission obstacle :=
        ⟨obstructs, fun other obstructs' => first other obstructs' (Nat.zero_le _)⟩
      refine ⟨fun other foremost => ?_, fun none => absurd obstructs (none obstacle),
        .inl ⟨obstacle, isFirst⟩⟩
      have level := le_antisymm (isFirst.first other foremost.obstructs)
        (foremost.first obstacle obstructs)
      rw [foremost.obstructs.unique obstructs level.symm]
      exact ended

theorem parseFile_missing
    : Config.parseFile scriptedHost.platform scriptedHost.files "missing.toml"
      = .ok (.error ⟨.missing, "missing.toml"⟩) := by
  have normal : Path.normal "missing.toml" = "missing.toml" := by decide +kernel
  rw [Config.parseFile, normal]
  rfl

/-- An emission of a kind that nobody knows, with a file of secrets that is missing. -/
def unknownEmission : Emission := { kind := "release", secretsFile := some "missing.toml" }

/-- The emission of a kind that nobody knows stops there, although its secrets are missing too; one
with nothing beside its kind meets no obstacle.
-/
theorem run_emits_unknown
    : let host := scriptedHost
      let args := ["emit", "release", "--secrets-file", "missing.toml"]
      request? args = some (.emit unknownEmission)
      ∧ IsFirst host unknownEmission (.kind "release")
      ∧ Obstructs host unknownEmission (.secrets (.refused ⟨.missing, "missing.toml"⟩))
      ∧ (run host args).trace []
        = ⟨{ ending := .exit 1 }, [],
            (Obstacle.kind "release").messages.map fun message => .did (.wrote message)⟩
      ∧ (∀ obstacle, ¬Obstructs host { kind := "e2e" } obstacle)
      ∧ ∃ handover,
          AsksFor host { kind := "e2e" } handover
          ∧ (run host ["emit", "e2e"]).trace []
            = concluded (handover.dispatch.trace []) := by
  intro host args
  have asked : request? args = some (.emit unknownEmission) := by decide +kernel
  have loaded : Config.load host.platform host.files none = .ok (.ok {}) := rfl
  have first : IsFirst host unknownEmission (.kind "release") := by
    refine ⟨.kind (by decide +kernel), fun other obstructs => ?_⟩
    cases obstructs with
    | @config refusal unread => exact absurd (unread.symm.trans loaded) (refusal.answer_ne _)
    | _ => simp [Obstacle.rank]
  have secrets
    : Obstructs host unknownEmission (.secrets (.refused ⟨.missing, "missing.toml"⟩)) :=
    .secrets rfl parseFile_missing
  have free : ∀ obstacle, ¬Obstructs host { kind := "e2e" } obstacle := by
    intro obstacle obstructs
    cases obstructs with
    | @config refusal unread => exact absurd (unread.symm.trans loaded) (refusal.answer_ne _)
    | kind unknown => exact absurd unknown (by decide +kernel)
    | payload given => cases given
    | homeless executed => cases executed
    | unresolved executed => cases executed
    | secrets given => cases given
  have asked' : request? ["emit", "e2e"] = some (.emit { kind := "e2e" }) := by decide +kernel
  obtain ⟨stops, _⟩ := run_emits host asked []
  obtain ⟨_, goes, _⟩ := run_emits host asked' []
  exact ⟨asked, first, secrets, stops _ first, free, goes free⟩

/-- An emission that executes with sources under a home that is not known breaks off, although all
that is read before its file of secrets can be used, and this file is missing.
-/
theorem run_homeless
    : let host := scriptedHost
      let args := ["emit", "push", "--execute", "--source", "~nobody-there",
        "--secrets-file", "missing.toml"]
      let emission : Emission := {
        kind := "push", execute := true, source := "~nobody-there"
        secretsFile := some "missing.toml" }
      let trace := (run host args).trace []
      request? args = some (.emit emission)
      ∧ Config.load host.platform host.files emission.config = .ok (.ok {})
      ∧ EventKind.ofText? emission.kind = some .push
      ∧ emission.payloadFile = none
      ∧ Config.parseFile host.platform host.files "missing.toml"
        = .ok (.error ⟨.missing, "missing.toml"⟩)
      ∧ trace.value = { ending := .broken .noHome }
      ∧ trace.acts = [] := by
  refine ⟨?_, rfl, ?_, rfl, parseFile_missing, ?_, ?_⟩ <;> decide +kernel

end Conductor.CommandLine
