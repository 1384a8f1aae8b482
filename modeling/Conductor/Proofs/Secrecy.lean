import Conductor.Handlers
import Conductor.Proofs.ReleaseStages

/-! Secrets do not leak. What an event comes to depends on which secrets a project has and not on
their values, but for the environments of the jobs that are given them.
-/

namespace Conductor

variable {ε : Type}

-----------------------------------------------------------------------------------------
-- Environments
-----------------------------------------------------------------------------------------

/-- The environment variables in which a job of a name is given secrets. -/
def secretVariables (config : Config) (name : String) : List String :=
  if name = "build-and-publish-images" then
    ["DOCKER_REGISTRY", "DOCKER_ORG", "DOCKER_USERNAME", "DOCKER_PASSWORD"]
  else if name = "release" then ["GITHUB_TOKEN"]
  else if name = config.sources.name ++ "-slack-notify" then ["SLACK_WEBHOOK"]
  else []

/-- The jobs of the suite are given no secrets, by comparison of names. -/
theorem secretVariables_suite (config : Config)
    : ∀ spec ∈ Catalog.suite config, secretVariables config spec.name = [] := by
  apply Catalog.forall_suite config (P := fun name => secretVariables config name = [])
  intro name member
  have others : name ≠ "build-and-publish-images" ∧ name ≠ "release"
      ∧ name.toList.getLast? ≠ some 'y' := by
    revert name
    decide
  have notice := (Release.notifyName_ne config others.2.2).symm
  rw [secretVariables, if_neg others.1, if_neg others.2.1]
  exact if_neg notice

/-- Environments that bind the same variables in the same order, and to the same values unless these
are hidden.
-/
def SameBut (hidden : List String) (env env' : List (String × String)) : Prop :=
  List.Forall₂ (fun binding binding' =>
    binding.1 = binding'.1 ∧ (binding.1 ∉ hidden → binding.2 = binding'.2)) env env'

namespace SameBut

variable {hidden : List String}

theorem refl (hidden : List String) (env : List (String × String)) : SameBut hidden env env :=
  List.forall₂_same.mpr fun _ _ => ⟨rfl, fun _ => rfl⟩

/-- A hidden variable in front leaves environments the same, whatever its values. -/
theorem hide {env env' : List (String × String)} {key : String} (member : key ∈ hidden)
    (value value' : String) (same : SameBut hidden env env')
    : SameBut hidden ((key, value) :: env) ((key, value') :: env') :=
  .cons ⟨rfl, fun shown => absurd member shown⟩ same

/-- Environments that are the same up to hidden values have the same variables, by induction. -/
theorem keys {env env' : List (String × String)} (same : SameBut hidden env env')
    : env.map Prod.fst = env'.map Prod.fst := by
  induction same with
  | nil => rfl
  | cons first _ ih => rw [List.map_cons, List.map_cons, first.1, ih]

/-- A variable more, of which only a hidden value may differ, leaves environments the same.
Witness: induction on the environments, which have the variable at the same place or not at all.
-/
theorem insert {env env' : List (String × String)} {key value value' : String}
    (same : SameBut hidden env env') (shown : key ∉ hidden → value = value')
    : SameBut hidden (Assoc.insert env key value) (Assoc.insert env' key value') := by
  induction same with
  | nil => exact .cons ⟨rfl, shown⟩ .nil
  | @cons binding binding' rest rest' first others ih =>
      obtain ⟨name, old⟩ := binding
      obtain ⟨name', old'⟩ := binding'
      obtain ⟨rfl, firstShown⟩ : name = name' ∧ (name ∉ hidden → old = old') := first
      unfold Assoc.insert
      by_cases found : (name == key) = true
      · rw [if_pos found, if_pos found]
        cases eq_of_beq found
        exact .cons ⟨rfl, shown⟩ others
      · rw [if_neg found, if_neg found]
        exact .cons ⟨rfl, firstShown⟩ ih

/-- Variables more in a row leave environments the same, by induction on them. -/
theorem insertAll {env env' bindings bindings' : List (String × String)}
    (same : SameBut hidden env env') (added : SameBut hidden bindings bindings')
    : SameBut hidden (Assoc.insertAll env bindings) (Assoc.insertAll env' bindings') := by
  unfold Assoc.insertAll
  induction added generalizing env env' with
  | nil => exact same
  | @cons binding binding' rest rest' first _ ih =>
      obtain ⟨name, value⟩ := binding
      obtain ⟨name', value'⟩ := binding'
      obtain ⟨rfl, shown⟩ : name = name' ∧ (name ∉ hidden → value = value') := first
      exact ih (same.insert shown)

end SameBut

-----------------------------------------------------------------------------------------
-- Jobs
-----------------------------------------------------------------------------------------

/-- Jobs that are the same but for hidden values in their environments. -/
structure JobSpec.SameBut (hidden : List String) (spec spec' : JobSpec) : Prop where
  name : spec.name = spec'.name
  image : spec.image = spec'.image
  env : Conductor.SameBut hidden spec.env spec'.env
  tasks : spec.tasks = spec'.tasks
  workDir : spec.workDir = spec'.workDir
  privileged : spec.privileged = spec'.privileged
  shell : spec.shell = spec'.shell

namespace JobSpec.SameBut

variable {hidden : List String} {spec spec' : JobSpec}

/-- The messages that show a job hold names of variables and no values. -/
theorem plan (same : spec.SameBut hidden spec') : spec.plan = spec'.plan := by
  have keys := same.env.keys
  have empty : spec.env.isEmpty = spec'.env.isEmpty := by
    rw [← List.isEmpty_map (f := Prod.fst), keys, List.isEmpty_map]
  simp only [JobSpec.plan, JobSpec.workDir?, same.name, same.image, same.privileged, keys, empty,
    same.workDir, same.tasks]

/-- The command line of a job holds names of variables and no values. -/
theorem command (same : spec.SameBut hidden spec') (sourceRoot : String)
    : Docker.command spec sourceRoot = Docker.command spec' sourceRoot := by
  have options : spec.env.flatMap (fun binding => ["-e", binding.1])
      = spec'.env.flatMap fun binding => ["-e", binding.1] := by
    have listed := congrArg (List.flatMap fun key => ["-e", key]) same.env.keys
    simpa only [List.flatMap_map] using listed
  simp only [Docker.command, Docker.mount, JobSpec.workDir?, JobSpec.script, options,
    same.privileged, same.workDir, same.image, same.shell, same.tasks]

/-- The environments of the calls of jobs are the same but for hidden values. -/
theorem environment (same : spec.SameBut hidden spec') (base : Assoc String String)
    : Conductor.SameBut hidden (Docker.environment base spec) (Docker.environment base spec') :=
  (Conductor.SameBut.refl hidden base).insertAll
    ((Conductor.SameBut.refl hidden []).insertAll same.env)

end JobSpec.SameBut

/-- What runs jobs: docker with the given settings, or a dry run when there are none. What becomes
of a call does not depend on its environment.
-/
def Executor.ofMode (blind : Launcher ε) : Option DockerSettings → Executor ε
  | some settings => .docker settings fun call => blind { call with env := none }
  | none => .dryRun

/-- Deeds of two jobs: the same, or the calls of the jobs. -/
inductive Deed.Alike (mode : Option Executor.DockerSettings) (spec spec' : JobSpec)
    : Deed → Deed → Prop where
  | same (deed : Deed) : Alike mode spec spec' deed deed
  | call {settings : Executor.DockerSettings} (docker : mode = some settings)
    : Alike mode spec spec' (.called (settings.call spec)) (.called (settings.call spec'))

/-- Calls that differ in their environments alone amount to the same. -/
theorem ChildProcess.outcome_congr {call call' : Call} (command : call.command = call'.command)
    (timeout : call.timeout = call'.timeout) (ending : Ending)
    : outcome call ending = outcome call' ending := by
  simp only [outcome, command, timeout]

/-- Jobs that are the same but for hidden values end alike, and do the same but for their calls.
Witness: by the mode; the messages of a dry run hold no values, and what becomes of a call does not
depend on them.
-/
theorem Executor.ofMode_alike (blind : Launcher ε) (mode : Option DockerSettings)
    {hidden : List String} {spec spec' : JobSpec} (same : spec.SameBut hidden spec') (state : ε)
    : let own := (ofMode blind mode spec).alone.trace state
      let own' := (ofMode blind mode spec').alone.trace state
      own.value = own'.value
      ∧ own.state = own'.state
      ∧ List.Forall₂ (Deed.Alike mode spec spec') own.acts own'.acts := by
  cases mode with
  | none =>
      have shown : ofMode blind none spec = ofMode blind none spec' := by
        simp only [ofMode, dryRun, same.plan]
      rw [shown]
      exact ⟨rfl, rfl, List.forall₂_same.mpr fun deed _ => .same deed⟩
  | some settings =>
      have command := same.command settings.sourceRoot
      have launched : ({ settings.call spec with env := none } : ChildProcess.Call)
          = { settings.call spec' with env := none } := by
        simp only [DockerSettings.call, command]
      have amounts : ∀ ending, ChildProcess.outcome (settings.call spec) ending
          = ChildProcess.outcome (settings.call spec') ending :=
        ChildProcess.outcome_congr command rfl
      -- the launcher sees no environment, so that both calls end the same way
      simp only [ofMode, docker_alone, launched, DockerSettings.announcement,
        DockerSettings.conclusion, DockerSettings.outcome, amounts]
      cases ChildProcess.outcome (settings.call spec')
        (blind { settings.call spec' with env := none } state).1 with
      | error failure =>
          simp only [callFailure, same.name, same.image]
          exact ⟨trivial, trivial, .cons (.same _) (.cons (.call rfl) .nil)⟩
      | ok output =>
          simp only [same.name, same.image]
          exact ⟨trivial, trivial, .cons (.same _) (.cons (.call rfl) (.cons (.same _) .nil))⟩

-----------------------------------------------------------------------------------------
-- Acts
-----------------------------------------------------------------------------------------

/-- Acts that are alike: they are the same but for jobs with secrets, and of these the same but for
the hidden values in their environments and for their calls.
-/
inductive ActsAlike (config : Config) (mode : Option Executor.DockerSettings)
    : List Act → List Act → Prop where
  | nil : ActsAlike config mode [] []
  | same {acts acts' : List Act} (act : Act) (later : ActsAlike config mode acts acts')
    : ActsAlike config mode (act :: acts) (act :: acts')
  | job {spec spec' : JobSpec} {deeds deeds' : List Deed} {acts acts' : List Act}
    (same : spec.SameBut (secretVariables config spec.name) spec')
    (done : List.Forall₂ (Deed.Alike mode spec spec') deeds deeds') (outcome : Outcome)
    (later : ActsAlike config mode acts acts')
    : ActsAlike config mode
        (.started spec :: (deeds.map .did ++ .ended spec outcome :: acts))
        (.started spec' :: (deeds'.map .did ++ .ended spec' outcome :: acts'))

namespace ActsAlike

variable {config : Config} {mode : Option Executor.DockerSettings}

theorem refl (acts : List Act) : ActsAlike config mode acts acts := by
  induction acts with
  | nil => exact .nil
  | cons act rest ih => exact .same act ih

/-- Acts in a row are alike if the parts are, by induction on the first part. -/
theorem append {first first' second second' : List Act}
    (before : ActsAlike config mode first first') (after : ActsAlike config mode second second')
    : ActsAlike config mode (first ++ second) (first' ++ second') := by
  induction before with
  | nil => exact after
  | same act _ ih => exact .same act ih
  | job same done outcome _ ih =>
      simpa only [List.cons_append, List.append_assoc] using ActsAlike.job same done outcome ih

end ActsAlike

/-- Traces that come to the same by acts that are alike. -/
structure Trace.Alike {α : Type} (config : Config) (mode : Option Executor.DockerSettings)
    (trace trace' : Trace Act ε α)
    : Prop where
  value : trace.value = trace'.value
  state : trace.state = trace'.state
  acts : ActsAlike config mode trace.acts trace'.acts

/-- Attempts that go alike from every state. -/
def Attempt.Alike {α : Type} (config : Config) (mode : Option Executor.DockerSettings)
    (attempt attempt' : Attempt ε α)
    : Prop :=
  ∀ state, (attempt.trace state).Alike config mode (attempt'.trace state)

/-- Units of one name that go alike from every state. -/
structure UnitOfWork.Alike (config : Config) (mode : Option Executor.DockerSettings)
    (unit unit' : UnitOfWork ε)
    : Prop where
  name : unit.name = unit'.name
  run : ∀ state, (unit.run.trace state).Alike config mode (unit'.run.trace state)

section Alike

variable {config : Config} {mode : Option Executor.DockerSettings}

theorem Attempt.Alike.refl {α : Type} (attempt : Attempt ε α) : attempt.Alike config mode attempt :=
  fun _ => ⟨rfl, rfl, .refl _⟩

/-- Attempts in two parts go alike if the parts do, by cases on whether the first parts break off.
-/
theorem Attempt.Alike.bind {α β : Type} {first first' : Attempt ε α}
    {next next' : α → Attempt ε β} (before : first.Alike config mode first')
    (after : ∀ value, (next value).Alike config mode (next' value))
    : (first >>= next).Alike config mode (first' >>= next') := by
  intro state
  have begins := before state
  rcases ended : first.trace state with ⟨fault | value, later, acts⟩
  all_goals
    rcases ended' : first'.trace state with ⟨value', later', acts'⟩
    rw [ended, ended'] at begins
    obtain ⟨rfl, rfl, alike⟩ := begins
  · rw [Attempt.trace_bind_error ended, Attempt.trace_bind_error ended']
    exact ⟨rfl, rfl, alike⟩
  · rw [Attempt.trace_bind_ok ended, Attempt.trace_bind_ok ended']
    have goesOn := after value later
    exact ⟨goesOn.value, goesOn.state, alike.append goesOn.acts⟩

/-- Units that go alike are settled alike, by cases on whether they are cancelled. -/
theorem UnitOfWork.Alike.settle {unit unit' : UnitOfWork ε} (alike : unit.Alike config mode unit')
    : (Conductor.settle unit).Alike config mode (Conductor.settle unit') := by
  intro state
  obtain ⟨value, later, acts⟩ := alike.run state
  cases cancelled : (unit.run.trace state).value.cancellation? with
  | none =>
      have running := cancelled
      rw [value] at running
      rw [settle_trace unit state cancelled, settle_trace unit' state running, value, alike.name]
      exact ⟨rfl, later, acts⟩
  | some text =>
      have broken := cancelled
      rw [value] at broken
      rw [settle_cancelled unit state cancelled, settle_cancelled unit' state broken]
      exact ⟨rfl, later, acts⟩

/-- Units that go alike do so in sequence, by induction on them. -/
theorem Group.runFrom_alike (count before : Nat) {units units' : List (UnitOfWork ε)}
    (alike : List.Forall₂ (UnitOfWork.Alike config mode) units units')
    : (runFrom count before units).Alike config mode (runFrom count before units') := by
  induction alike generalizing before with
  | nil => exact .refl _
  | @cons unit unit' rest rest' first others ih =>
      have lengths := others.length_eq
      have empty : rest.isEmpty = rest'.isEmpty := by cases others <;> rfl
      simp only [runFrom, first.name, lengths, empty]
      refine .bind (.refl _) fun _ => .bind first.settle fun failure => ?_
      cases failure with
      | none => exact ih (before + 1)
      | some failure => exact .refl _

/-- Jobs that are the same but for their secrets go alike. -/
theorem JobSpec.SameBut.unit (blind : Executor.Launcher ε) {spec spec' : JobSpec}
    (same : spec.SameBut (secretVariables config spec.name) spec')
    : (spec.unit (.ofMode blind mode)).Alike config mode (spec'.unit (.ofMode blind mode)) where
  name := same.name
  run state := by
    obtain ⟨value, later, deeds⟩ := Executor.ofMode_alike blind mode same state
    rw [JobSpec.unit_run_trace, JobSpec.unit_run_trace, ← value]
    exact {
      value := rfl
      state := later
      acts := .job same deeds _ .nil
    }

end Alike

-----------------------------------------------------------------------------------------
-- Projects
-----------------------------------------------------------------------------------------

/-- The names under which secrets are configured. -/
def SecretKeys.all (keys : SecretKeys) : List String :=
  [keys.releaseToken, keys.registry, keys.registryOrg, keys.registryUsername, keys.registryPassword,
    keys.webhook]

/-- Two projects of one repository that have values for the same of the configured secrets. -/
structure Project.SameBut (config : Config) (project project' : Project) : Prop where
  repoName : project.repoName = project'.repoName
  secrets
    : ∀ key ∈ config.secrets.all, (project.secret? key).isNone = (project'.secret? key).isNone

namespace Project.SameBut

variable {config : Config} {project project' : Project}

/-- The jobs that publish images are the same but for their secrets. -/
theorem publishImages (project project' : Project) (version : String)
    : let spec := Catalog.publishImages config project version
      spec.SameBut (secretVariables config spec.name)
        (Catalog.publishImages config project' version) where
  name := rfl
  image := rfl
  env := by
    change Conductor.SameBut
      ["DOCKER_REGISTRY", "DOCKER_ORG", "DOCKER_USERNAME", "DOCKER_PASSWORD"] _ _
    exact .hide (by decide) _ _ (.hide (by decide) _ _ (.hide (by decide) _ _
      (.hide (by decide) _ _ (.refl _ [("VERSION", version)]))))
  tasks := rfl
  workDir := rfl
  privileged := rfl
  shell := rfl

/-- The uploads of releases are the same but for their secrets.
Witness: all else in them that a project has a part in is its name.
-/
theorem release (same : project.SameBut config project') (tag : String)
    : let spec := Catalog.release config project tag
      spec.SameBut (secretVariables config spec.name) (Catalog.release config project' tag) where
  name := rfl
  image := rfl
  env := by
    change Conductor.SameBut ["GITHUB_TOKEN"] _ _
    simp only [Catalog.release, Project.org, Project.name, same.repoName]
    exact .cons ⟨rfl, fun _ => rfl⟩ (.cons ⟨rfl, fun _ => rfl⟩ (.cons ⟨rfl, fun _ => rfl⟩
      (Conductor.SameBut.hide (by decide) _ _ .nil)))
  tasks := by
    unfold Catalog.release Catalog.releaseUrl Project.name
    rw [same.repoName]
  workDir := rfl
  privileged := rfl
  shell := rfl

/-- Notifications are the same but for the address that they are sent to. -/
theorem notification (config : Config) (webhook webhook' title message : String)
    : let spec := Catalog.notification config webhook title message
      spec.SameBut (secretVariables config spec.name)
        (Catalog.notification config webhook' title message) where
  name := rfl
  image := rfl
  env := by
    have hidden : secretVariables config (Catalog.notifyName config) = ["SLACK_WEBHOOK"] := by
      rw [secretVariables, if_neg (Release.notifyName_ne config (by decide)),
        if_neg (Release.notifyName_ne config (by decide))]
      exact if_pos rfl
    change Conductor.SameBut (secretVariables config (Catalog.notifyName config)) _ _
    rw [hidden]
    exact .hide (by decide) _ _ (.refl _ _)
  tasks := rfl
  workDir := rfl
  privileged := rfl
  shell := rfl

/-- Projects that are the same but for their secrets miss the same secrets for a release. -/
theorem missingSecrets (same : project.SameBut config project')
    : Release.missingSecrets config project = Release.missingSecrets config project' := by
  have known : Release.requiredSecrets config ⊆ config.secrets.all := by
    simp [Release.requiredSecrets, SecretKeys.all]
  exact List.filter_congr fun key member => same.secrets key (known member)

end Project.SameBut

-----------------------------------------------------------------------------------------
-- Events
-----------------------------------------------------------------------------------------

section Events

variable {services : Services ε} {blind : Executor.Launcher ε}
  {mode : Option Executor.DockerSettings} {project project' : Project}

theorem Services.unit_alike (executes : services.executor = .ofMode blind mode)
    {spec spec' : JobSpec} (same : spec.SameBut (secretVariables services.config spec.name) spec')
    : (services.unit spec).Alike services.config mode (services.unit spec') := by
  unfold Services.unit
  rw [executes]
  exact same.unit blind

theorem UnitOfWork.Alike.refl (config : Config) (unit : UnitOfWork ε)
    : unit.Alike config mode unit :=
  ⟨rfl, fun _ => ⟨rfl, rfl, .refl _⟩⟩

/-- The notification is written about alike and goes alike, by cases on its address. -/
theorem notify_alike (executes : services.executor = .ofMode blind mode)
    (same : project.SameBut services.config project') (title message : String)
    : (Catalog.notify services.config project title message).2
        = (Catalog.notify services.config project' title message).2
      ∧ (services.stage (Catalog.notify services.config project title message).1).Alike
          services.config mode
          (services.stage (Catalog.notify services.config project' title message).1) := by
  have both := same.secrets services.config.secrets.webhook (by simp [SecretKeys.all])
  unfold Catalog.notify
  cases held : project.secret? services.config.secrets.webhook with
  | none =>
      cases held' : project'.secret? services.config.secrets.webhook with
      | none => exact ⟨rfl, .refl _ _⟩
      | some webhook => simp [held, held'] at both
  | some webhook =>
      cases held' : project'.secret? services.config.secrets.webhook with
      | none => simp [held, held'] at both
      | some webhook' =>
          exact ⟨rfl, Services.unit_alike executes
            (Project.SameBut.notification services.config webhook webhook' title message)⟩

/-- Releases go alike: they miss the same secrets, and their stages go alike. -/
theorem Release.run_alike (executes : services.executor = .ofMode blind mode)
    (same : project.SameBut services.config project') (version : String)
    : (Release.run services project version).Alike services.config mode
        (Release.run services project' version) := by
  have validated : validate services.config project = validate services.config project' := by
    simp only [validate, same.missingSecrets]
  have url : Catalog.releaseUrl project version = Catalog.releaseUrl project' version := by
    unfold Catalog.releaseUrl
    rw [same.repoName]
  obtain ⟨messages, notice⟩ := notify_alike executes same
    (Text.capitalize services.config.sources.name ++ " Release")
    (version ++ " release now on GitHub! <" ++ Catalog.releaseUrl project' version ++ ">")
  unfold run
  rw [validated]
  cases validate services.config project' with
  | error failure => exact .refl _
  | ok =>
      simp only [same.repoName, stages, url, messages]
      refine .bind (.refl _) fun _ => .bind (.refl _) fun _ => .bind ?_ fun _ => .refl _
      exact Group.runFrom_alike _ 0 (.cons
        (Services.unit_alike executes (Project.SameBut.publishImages project project' version))
        (.cons (Services.unit_alike executes (same.release version)) (.cons notice .nil)))

/-- Suites go alike: their checks are the same, and the images of the mainline are published alike.
-/
theorem Suite.run_alike (executes : services.executor = .ofMode blind mode)
    (same : project.SameBut services.config project') (event : Event)
    : (Suite.run services event project).Alike services.config mode
        (Suite.run services event project') := by
  have checks : ∀ factories,
      runChecks services factories event project = runChecks services factories event project' := by
    intro factories
    simp only [runChecks, same.repoName]
  have images := Services.unit_alike executes (Project.SameBut.publishImages project project' "")
  unfold run
  rw [checks, same.repoName]
  refine .bind (.refl _) fun _ => .bind (.refl _) fun result => ?_
  cases result with
  | error failure => exact .refl _
  | ok =>
      dsimp only
      split
      · refine .bind ?_ fun _ => .refl _
        exact .bind (.refl _) fun _ => .bind images.settle fun _ => .refl _
      · exact .refl _

namespace Handlers

theorem checkSuite_alike (executes : services.executor = .ofMode blind mode)
    (same : project.SameBut services.config project') (event : Event)
    : (checkSuite services event project).Alike services.config mode
        (checkSuite services event project') :=
  .bind (Suite.run_alike executes same event) fun _ => .refl _

/-- Pushes go alike, by way of the suite and the release. -/
theorem push_alike (executes : services.executor = .ofMode blind mode)
    (same : project.SameBut services.config project') (event : Event)
    : (push services event project).Alike services.config mode (push services event project') := by
  refine .bind (.refl _) fun found => ?_
  obtain ⟨version, messages⟩ := found
  refine .bind (.refl _) fun _ => ?_
  split
  · exact .refl _
  refine .bind (checkSuite_alike executes same event) fun result => ?_
  cases result with
  | error failure => exact .refl _
  | ok =>
      cases version with
      | none => exact .refl _
      | some version => exact Release.run_alike executes same version

/-- Requests for one check are the same: of a project they know the name of its repository alone. -/
theorem checkRun_same (same : project.SameBut services.config project') (event : Event)
    : checkRun services event project = checkRun services event project' := by
  simp only [checkRun, CheckRequest.runEvent, CheckRequest.run, Suite.runChecks, same.repoName]

theorem issueComment_alike (executes : services.executor = .ofMode blind mode)
    (same : project.SameBut services.config project') (event : Event)
    : (issueComment services event project).Alike services.config mode
        (issueComment services event project') := by
  refine .bind (.refl _) fun verdict => ?_
  cases verdict with
  | unrelated => exact .refl _
  | untrusted association => exact .refl _
  | accepted => exact checkSuite_alike executes same event

/-- All events go alike, by cases on the handler. -/
theorem dispatch_alike (services : Services ε) (executes : services.executor = .ofMode blind mode)
    (same : project.SameBut services.config project') (event : Event)
    : ((router services).dispatch event project).Alike services.config mode
        ((router services).dispatch event project') := by
  rw [dispatch_eq, dispatch_eq]
  cases EventKind.ofText? event.kind with
  | none => exact .refl _
  | some kind =>
      dsimp only
      cases kind with
      | push => exact push_alike executes same event
      | exec => exact .refl _
      | e2e => exact .refl _
      | checkSuiteRequested => exact checkSuite_alike executes same event
      | checkSuiteRerequested => exact checkSuite_alike executes same event
      | checkRunRerequested =>
          simp only [handler, checkRun_same same]
          exact .refl _
      | issueCommentCreated => exact issueComment_alike executes same event
      | issueCommentEdited => exact issueComment_alike executes same event

end Handlers

end Events

-----------------------------------------------------------------------------------------
-- What can be seen
-----------------------------------------------------------------------------------------

/-- Calls of two runs that can be told apart by hidden values in their environments at most, and by
these only if they are the calls of jobs that were started with secrets.
-/
structure ChildProcess.Call.Alike (config : Config) (mode : Option Executor.DockerSettings)
    (starts starts' : List JobSpec) (call call' : Call)
    : Prop where
  command : call.command = call'.command
  directory : call.directory = call'.directory
  timeout : call.timeout = call'.timeout
  env
    : call.env = call'.env
      ∨ ∃ settings,
          mode = some settings
          ∧ ∃ spec ∈ starts, ∃ spec' ∈ starts',
              spec.name = spec'.name
              ∧ call = settings.call spec
              ∧ call' = settings.call spec'
              ∧ SameBut (secretVariables config spec.name)
                  (Docker.environment settings.baseEnv spec)
                  (Docker.environment settings.baseEnv spec')

namespace ChildProcess.Call.Alike

variable {config : Config} {mode : Option Executor.DockerSettings}
  {starts starts' later later' : List JobSpec}

theorem refl (call : Call) : call.Alike config mode starts starts' call :=
  ⟨rfl, rfl, rfl, Or.inl rfl⟩

theorem mono {call call' : Call} (alike : call.Alike config mode starts starts' call')
    (more : starts ⊆ later) (more' : starts' ⊆ later')
    : call.Alike config mode later later' call' where
  command := alike.command
  directory := alike.directory
  timeout := alike.timeout
  env := by
    rcases alike.env with equal | ⟨settings, docker, spec, known, spec', known', rest⟩
    · exact Or.inl equal
    · exact Or.inr ⟨settings, docker, spec, more known, spec', more' known', rest⟩

/-- The calls of jobs that are the same but for their secrets are alike. -/
theorem ofJobs {settings : Executor.DockerSettings} {spec spec' : JobSpec}
    (docker : mode = some settings) (known : spec ∈ starts) (known' : spec' ∈ starts')
    (same : spec.SameBut (secretVariables config spec.name) spec')
    : (settings.call spec).Alike config mode starts starts' (settings.call spec') where
  command := same.command settings.sourceRoot
  directory := rfl
  timeout := rfl
  env := Or.inr ⟨settings, docker, spec, known, spec', known', same.name, rfl, rfl,
    same.environment settings.baseEnv⟩

end ChildProcess.Call.Alike

namespace ActsAlike

variable {config : Config} {mode : Option Executor.DockerSettings} {acts acts' : List Act}

/-- What shows neither jobs nor calls shows the same in acts that are alike.
Witness: induction on the acts, and within a job on its deeds.
-/
theorem view_eq {α : Type} (view : Act → Option α) (alike : ActsAlike config mode acts acts')
    (starts : ∀ spec, view (.started spec) = none)
    (ends : ∀ spec outcome, view (.ended spec outcome) = none)
    (calls : ∀ call, view (.did (.called call)) = none)
    : acts.filterMap view = acts'.filterMap view := by
  induction alike with
  | nil => rfl
  | same act _ ih => rw [List.filterMap_cons, List.filterMap_cons, ih]
  | @job spec spec' deeds deeds' _ _ _ done outcome _ ih =>
      have within : (deeds.map Act.did).filterMap view = (deeds'.map Act.did).filterMap view := by
        induction done with
        | nil => rfl
        | cons first _ ih =>
            rw [List.map_cons, List.map_cons, List.filterMap_cons, List.filterMap_cons, ih]
            cases first with
            | same deed => rfl
            | call docker => rw [calls, calls]
      rw [List.filterMap_cons_none (starts spec), List.filterMap_cons_none (starts spec'),
        List.filterMap_append, List.filterMap_append,
        List.filterMap_cons_none (ends spec outcome), List.filterMap_cons_none (ends spec' outcome),
        within, ih]

/-- The calls among the deeds of jobs that are the same but for their secrets are alike, by
induction on the deeds.
-/
theorem deed_calls {spec spec' : JobSpec} {deeds deeds' : List Deed} {starts starts' : List JobSpec}
    (done : List.Forall₂ (Deed.Alike mode spec spec') deeds deeds') (known : spec ∈ starts)
    (known' : spec' ∈ starts') (same : spec.SameBut (secretVariables config spec.name) spec')
    : List.Forall₂ (ChildProcess.Call.Alike config mode starts starts')
        ((deeds.map Act.did).filterMap Act.call?) ((deeds'.map Act.did).filterMap Act.call?) := by
  induction done with
  | nil => exact .nil
  | @cons deed deed' rest rest' first _ ih =>
      cases first with
      | call docker => exact .cons (.ofJobs docker known known' same) ih
      | same =>
          rw [List.map_cons, List.map_cons, List.filterMap_cons, List.filterMap_cons]
          cases (Act.did deed).call? with
          | none => exact ih
          | some call => exact .cons (.refl call) ih

/-- The calls in acts that are alike are alike, by induction on the acts. -/
theorem calls (alike : ActsAlike config mode acts acts')
    : List.Forall₂
        (ChildProcess.Call.Alike config mode (acts.filterMap Act.start?)
          (acts'.filterMap Act.start?))
        (acts.filterMap Act.call?) (acts'.filterMap Act.call?) := by
  induction alike with
  | nil => exact .nil
  | @same acts acts' act _ ih =>
      have later := ih.imp fun _ _ alike => alike.mono
        ((List.sublist_cons_self act acts).filterMap Act.start?).subset
        ((List.sublist_cons_self act acts').filterMap Act.start?).subset
      rw [List.filterMap_cons (f := Act.call?), List.filterMap_cons (f := Act.call?)]
      cases act.call? with
      | none => exact later
      | some call => exact .cons (.refl call) later
  | @job spec spec' deeds deeds' acts acts' same done outcome _ ih =>
      -- the calls of the job itself come first, and those behind it know of more starts
      have rest : ∀ (spec : JobSpec) (deeds : List Deed) (acts : List Act),
          acts.Sublist (.started spec :: (deeds.map .did ++ .ended spec outcome :: acts)) :=
        fun spec deeds acts =>
          ((List.sublist_cons_self _ acts).trans (List.sublist_append_right _ _)).cons _
      have later := ih.imp fun _ _ alike => alike.mono
        ((rest spec deeds acts).filterMap Act.start?).subset
        ((rest spec' deeds' acts').filterMap Act.start?).subset
      have within := deed_calls done
        (List.mem_cons_self : spec ∈ spec :: (deeds.map Act.did
          ++ .ended spec outcome :: acts).filterMap Act.start?)
        (List.mem_cons_self : spec' ∈ spec' :: (deeds'.map Act.did
          ++ .ended spec' outcome :: acts').filterMap Act.start?) same
      have shown : ∀ (spec : JobSpec) (deeds : List Deed) (acts : List Act),
          (Act.started spec :: (deeds.map .did ++ .ended spec outcome :: acts)).filterMap Act.call?
          = (deeds.map .did).filterMap Act.call? ++ acts.filterMap Act.call? := by
        intro spec deeds acts
        rw [List.filterMap_cons_none rfl, List.filterMap_append, List.filterMap_cons_none rfl]
      rw [shown, shown]
      exact List.rel_append within later

end ActsAlike

namespace Handlers

/-- Dispatch keeps secrets: for two projects that are the same but for the values of their secrets,
an event comes to the same result, with the same records on the console, the same reports and the
same calls, but for the values of the variables in which publishing, uploads and notifications are
given secrets. The jobs of the suite are given none.
-/
theorem dispatch_secrecy (services : Services ε) (blind : Executor.Launcher ε)
    (mode : Option Executor.DockerSettings) (event : Event) {project project' : Project}
    (same : project.SameBut services.config project') (state : ε)
    : let live : Services ε := { services with executor := .ofMode blind mode }
      let trace := ((router live).dispatch event project).trace state
      let trace' := ((router live).dispatch event project').trace state
      trace.value = trace'.value
      ∧ Act.console trace.acts = Act.console trace'.acts
      ∧ trace.acts.filterMap Act.report? = trace'.acts.filterMap Act.report?
      ∧ List.Forall₂
          (ChildProcess.Call.Alike services.config mode (trace.acts.filterMap Act.start?)
            (trace'.acts.filterMap Act.start?))
          (trace.acts.filterMap Act.call?) (trace'.acts.filterMap Act.call?)
      ∧ ∀ spec ∈ Catalog.suite services.config,
          secretVariables services.config spec.name = [] := by
  intro live trace trace'
  have alike := dispatch_alike live rfl same event state
  refine ⟨alike.value, ?_, ?_, alike.acts.calls, ?_⟩
  · exact congrArg (List.map Message.record)
      (alike.acts.view_eq Act.message? (fun _ => rfl) (fun _ _ => rfl) fun _ => rfl)
  · exact alike.acts.view_eq Act.report? (fun _ => rfl) (fun _ _ => rfl) fun _ => rfl
  · exact secretVariables_suite services.config

/-- Another project of the same repository, with other values for its secrets. -/
def rotated : Project where
  repoName := "acme/widget"
  secrets := [
    ("dockerhubUsername", "bob"), ("dockerhubPassword", "swordfish"), ("ghToken", "renewed")]

/-- Services that take every ref for a release tag. -/
def anyTag : Services (List ChildProcess.Ending) :=
  { Release.scriptedServices with executor := .ofMode Release.scripted (some ⟨"/work", none, []⟩) }

theorem dispatch_secrecy_rotated
    : let event : Event := { kind := "push", ref := "v1" }
      let script := List.replicate 5 (ChildProcess.Ending.exited 0 "" "")
      let trace := ((router anyTag).dispatch event Release.equipped).trace script
      let trace' := ((router anyTag).dispatch event rotated).trace script
      Release.equipped.SameBut {} rotated
      ∧ trace.value = trace'.value
      ∧ Act.console trace.acts = Act.console trace'.acts
      ∧ trace.acts.filterMap Act.call? ≠ trace'.acts.filterMap Act.call? := by
  intro event script trace trace'
  have same : Release.equipped.SameBut {} rotated := ⟨rfl, by decide⟩
  obtain ⟨value, console, _, _, _⟩ := dispatch_secrecy Release.scriptedServices Release.scripted
    (some ⟨"/work", none, []⟩) event same script
  exact ⟨same, value, console, by decide +kernel⟩

end Handlers

end Conductor
