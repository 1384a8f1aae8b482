import Conductor.Proofs.Sequence
import Conductor.Proofs.StrippedTexts
import Conductor.Release

/-! What a release comes to. Without all required secrets nothing is done; with them the stages run
in order, up to the first that fails.
-/

namespace Conductor

variable {ε : Type}

-----------------------------------------------------------------------------------------
-- Secrets
-----------------------------------------------------------------------------------------

/-- Whether a project has no secret of a name, or only blanks for one. -/
def Project.lacks (project : Project) (key : String) : Bool :=
  match project.secrets.lookup key with
  | some value => value.toList.all Text.isBlank
  | none => true

/-- A secret has no value exactly when the project lacks it, by cases on what is stored. -/
theorem Project.secret?_isNone (project : Project) (key : String)
    : (project.secret? key).isNone = project.lacks key := by
  unfold secret? lacks
  cases project.secrets.lookup key with
  | none => rfl
  | some value =>
      change (if (Text.strip value).isEmpty then none else some value).isNone
        = value.toList.all Text.isBlank
      rw [← Text.strip_isEmpty]
      cases (Text.strip value).isEmpty <;> rfl

namespace Release

/-- A release misses the required secrets that the project lacks, in the order of the check. -/
theorem missingSecrets_eq (config : Config) (project : Project)
    : missingSecrets config project = (requiredSecrets config).filter project.lacks := by
  simp only [missingSecrets, Project.secret?_isNone]

-----------------------------------------------------------------------------------------
-- Stages
-----------------------------------------------------------------------------------------

/-- The jobs of a release: the images of the version, the upload, and the notification if there is
an address to send it to.
-/
def jobs (config : Config) (project : Project) (version : String) : List JobSpec :=
  (stages config project version).1.filterMap Catalog.Stage.job?

/-- The names of the jobs of a release, by cases on the address for notifications. -/
theorem jobs_names (config : Config) (project : Project) (version : String)
    : (jobs config project version).map JobSpec.name
      = ["build-and-publish-images", "release"]
        ++ if project.lacks config.secrets.webhook then []
          else [config.sources.name ++ "-slack-notify"] := by
  rw [← project.secret?_isNone]
  simp only [jobs, stages, Catalog.notify]
  cases project.secret? config.secrets.webhook <;> rfl

/-- The notification goes by no name that ends otherwise.
Witness: the last character of its name, whatever the name of the project.
-/
theorem notifyName_ne (config : Config) {name : String} (other : name.toList.getLast? ≠ some 'y')
    : Catalog.notifyName config ≠ name := by
  rintro rfl
  refine other ?_
  rw [Catalog.notifyName, String.toList_append, List.getLast?_append]
  rfl

/-- What is written at the start of a release. -/
def opening (config : Config) (project : Project) (version : String) : List Message :=
  .header ("release " ++ version ++ " of " ++ project.repoName)
    :: (stages config project version).2

def sequence (services : Services ε) (project : Project) (version : String)
    : Attempt ε (Except UnitFailure Unit) :=
  Group.runEach ((stages services.config project version).1.map services.stage)

/-- Without all required secrets nothing is done and nothing is written. -/
theorem run_refused (services : Services ε) (project : Project) (version : String) (state : ε)
    (missing : missingSecrets services.config project ≠ [])
    : (run services project version).trace state
      = ⟨.ok (.error (.invalid
            ("Project must have "
              ++ ", ".intercalate
                ((missingSecrets services.config project).map ("secrets." ++ ·)) ++ " set")
            (missingSecrets services.config project) (some "No release stage was started."))),
          state, []⟩ := by
  cases listed : missingSecrets services.config project with
  | nil => exact absurd listed missing
  | cons first rest => simp only [run, validate, listed, Attempt.trace_pure]

/-- The trace of a release by that of its stages: a message of success comes last if all of them
passed.
-/
def concluded (version : String) (stages : Trace Act ε (Except Fault (Except UnitFailure Unit)))
    : Trace Act ε (Except Fault (Except Failure Unit)) :=
  match stages.value with
  | .error fault => ⟨.error fault, stages.state, stages.acts⟩
  | .ok (.error failure) => ⟨.ok (.error (.unit failure)), stages.state, stages.acts⟩
  | .ok (.ok ()) =>
    ⟨.ok (.ok ()), stages.state,
      stages.acts ++ [.did (.wrote (.success ("released " ++ version)))]⟩

/-- With all required secrets a release is its opening and the sequence of its stages, by cases on
how the stages end.
-/
theorem run_accepted (services : Services ε) (project : Project) (version : String) (state : ε)
    (complete : missingSecrets services.config project = [])
    : (run services project version).trace state
      = (concluded version ((sequence services project version).trace state)).behind
          ((opening services.config project version).map fun message => .did (.wrote message)) := by
  have ended : ∃ stages, (sequence services project version).trace state = stages := ⟨_, rfl⟩
  obtain ⟨⟨value, later, acts⟩, ended⟩ := ended
  rw [ended]
  unfold sequence at ended
  simp only [run, validate, complete, Attempt.trace_write_bind, Trace.behind_behind]
  rcases value with fault | failure | ⟨⟩
  · rw [Attempt.trace_bind_error ended]
    rfl
  · rw [Attempt.trace_bind_ok ended]
    simp only [concluded, Attempt.trace_pure, Trace.behind, List.append_nil]
    rfl
  · rw [Attempt.trace_bind_ok ended]
    simp only [concluded, Attempt.trace_write_bind, Attempt.trace_pure, Trace.behind,
      List.append_nil]
    rfl

-----------------------------------------------------------------------------------------
-- What a release comes to
-----------------------------------------------------------------------------------------

theorem concluded_jobs (version : String)
    (stages : Trace Act ε (Except Fault (Except UnitFailure Unit)))
    : (concluded version stages).acts.filterMap Act.job? = stages.acts.filterMap Act.job? := by
  rcases stages with ⟨fault | failure | ⟨⟩, later, acts⟩
  · rfl
  · rfl
  · simp [concluded, Act.job?]

/-- A release is accounted for by its jobs: they run in order, each behind one that has passed; the
result is success, with a message of it at the end, exactly when all of them ran and passed; and
else it is the failure of the job that ran last.
-/
structure Account (jobs : List JobSpec) (version : String)
    (trace : Trace Act ε (Except Fault (Except Failure Unit)))
    : Prop where
  inSequence
    : ∃ result,
        trace.value = .ok (result.mapError .unit)
        ∧ InSequence jobs (trace.acts.filterMap Act.job?) result
  startedInOrder : trace.acts.filterMap Act.start? <+: jobs
  released_iff
    : trace.value = .ok (.ok ())
      ↔ trace.acts.filterMap Act.job?
        = jobs.flatMap fun spec => [(spec, none), (spec, some .passed)]
  announced_iff
    : trace.value = .ok (.ok ())
      ↔ trace.acts.getLast? = some (.did (.wrote (.success ("released " ++ version))))
  failedLast
    : ∀ failure,
        trace.value = .ok (.error failure)
        → ∃ before spec outcome reason,
            failure = .unit reason
            ∧ trace.acts.filterMap Act.job?
              = List.flatMap (fun spec => [(spec, none), (spec, some .passed)]) before
                ++ [(spec, none), (spec, some outcome)]
            ∧ outcome.failure? spec.name = some reason

theorem filterMap_start? (acts : List Act)
    : acts.filterMap Act.start? = (acts.filterMap Act.job?).filterMap InSequence.start? := by
  rw [List.filterMap_filterMap]
  refine List.filterMap_congr fun act _ => ?_
  cases act <;> rfl

/-- With all required secrets, and when no job is cancelled, a release is accounted for.
Witness: its stages run in sequence, and the message of success is the last act behind them.
-/
theorem run_account {services : Services ε} (uncancelled : services.executor.Uncancelled)
    (project : Project) (version : String) (state : ε)
    (complete : missingSecrets services.config project = [])
    : Account (jobs services.config project version) version
        ((run services project version).trace state) := by
  obtain ⟨result, value, sequence, short⟩
    : RunsInSequence (jobs services.config project version)
        ((sequence services project version).trace state) :=
    Group.runFrom_inSequence uncancelled _ 0 _ state
  rw [run_accepted services project version state complete]
  generalize (Release.sequence services project version).trace state = stages at *
  generalize opening services.config project version = messages
  have shown
    : ((concluded version stages).behind
        (messages.map fun message => .did (.wrote message))).acts.filterMap Act.job?
      = stages.acts.filterMap Act.job? := by
    rw [Trace.behind_acts, List.filterMap_append, concluded_jobs, Act.filterMap_wrote fun _ => rfl,
      List.nil_append]
  have ended
    : ((concluded version stages).behind
        (messages.map fun message => .did (.wrote message))).value
      = .ok (result.mapError .unit) := by
    rw [Trace.behind_value]
    rcases result with failure | ⟨⟩ <;> simp only [concluded, value] <;> rfl
  have released : (.ok (result.mapError .unit) : Except Fault (Except Failure Unit)) = .ok (.ok ())
      ↔ result = .ok () := by
    rcases result with failure | ⟨⟩ <;> simp [Except.mapError]
  exact {
    inSequence := ⟨result, ended, by rw [shown]; exact sequence⟩
    startedInOrder := by
      rw [filterMap_start?, shown]
      exact sequence.starts
    released_iff := by
      rw [ended, shown, released]
      exact sequence.ok_iff
    announced_iff := by
      rw [ended, released]
      rcases result with failure | ⟨⟩
      · -- a failed stage leaves its own end or a warning as the last act
        have last := (short (by simp)).behind (messages.map fun message => .did (.wrote message))
        simpa [concluded, value] using last.getLast?_ne _
      · simp [concluded, value]
    failedLast := by
      intro failure failed
      rw [ended] at failed
      rcases result with reason | ⟨⟩
      · obtain ⟨before, spec, outcome, jobs, counted⟩ := sequence.failed_last rfl
        cases failed
        exact ⟨before, spec, outcome, reason, rfl, shown.trans jobs, counted⟩
      · cases failed
  }

/-- A release fails closed and runs its stages in order. If required secrets are missing, it ends at
once with exactly those in the order of the check; otherwise its jobs, of which the first publishes
the images of the version, account for all it comes to.
-/
theorem run_failsClosed {services : Services ε} (uncancelled : services.executor.Uncancelled)
    (project : Project) (version : String) (state : ε)
    : let config := services.config
      let trace := (run services project version).trace state
      let missing :=
        [config.secrets.registryUsername, config.secrets.registryPassword,
          config.secrets.releaseToken].filter project.lacks
      let jobs := jobs config project version
      (missing ≠ []
        → trace
          = ⟨.ok (.error (.invalid
                ("Project must have " ++ ", ".intercalate (missing.map ("secrets." ++ ·)) ++ " set")
                missing (some "No release stage was started."))),
              state, []⟩)
      ∧ (missing = [] → Account jobs version trace)
      ∧ jobs.map JobSpec.name
        = ["build-and-publish-images", "release"]
          ++ (if project.lacks config.secrets.webhook then []
            else [config.sources.name ++ "-slack-notify"])
      ∧ (jobs.head?.bind fun images => images.env.lookup "VERSION") = some version := by
  have listed := missingSecrets_eq services.config project
  refine ⟨?_, ?_, jobs_names services.config project version, rfl⟩
  · intro missing
    rw [← requiredSecrets, ← listed] at missing ⊢
    exact run_refused services project version state missing
  · intro complete
    rw [← requiredSecrets, ← listed] at complete
    exact run_account uncancelled project version state complete

/-- A launcher of which each call ends as the next of a list says, and does not start behind it. -/
def scripted : Executor.Launcher (List ChildProcess.Ending) := fun _ endings =>
  (endings.headD (.notStarted "not found"), endings.tail)

/-- Services that run jobs in containers. -/
def scriptedServices : Services (List ChildProcess.Ending) where
  platform := .plain
  schedule := .fair
  config := {}
  executor := .docker { sourceRoot := "/work" } scripted
  reporter := .console
  tags := ⟨"(.*)", .group 1 (.chars .all 0 none .greedy), 1⟩

/-- A project with the required secrets and a blank address for notifications. -/
def equipped : Project where
  repoName := "acme/widget"
  secrets := [
    ("dockerhubUsername", "alice"), ("dockerhubPassword", "hunter2"), ("ghToken", "t0ken"),
    ("SLACK_WEBHOOK", " ")]

theorem run_failsClosed_scripted
    : scriptedServices.executor.Uncancelled
      ∧ Account (jobs {} equipped "v1") "v1"
          ((run scriptedServices equipped "v1").trace [.exited 0 "" "", .exited 2 "" "taken"])
      ∧ (run scriptedServices ⟨"acme/widget", [("ghToken", "\t")]⟩ "v1").trace []
        = ⟨.ok (.error (.invalid
              ("Project must have secrets.dockerhubUsername, secrets.dockerhubPassword, "
                ++ "secrets.ghToken set")
              ["dockerhubUsername", "dockerhubPassword", "ghToken"]
              (some "No release stage was started."))),
            [], []⟩ := by
  have uncancelled : scriptedServices.executor.Uncancelled := Executor.docker_uncancelled _ _
  have accepted := run_failsClosed uncancelled equipped "v1" [.exited 0 "" "", .exited 2 "" "taken"]
  have refused := run_failsClosed uncancelled ⟨"acme/widget", [("ghToken", "\t")]⟩ "v1" []
  exact ⟨uncancelled, accepted.2.1 (by decide), refused.1 (by decide)⟩

end Release

end Conductor
