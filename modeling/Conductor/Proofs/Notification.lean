import Conductor.Proofs.ReleaseStages

/-! Notifications of releases. The notification is the last stage of a release and is held to what
the others are held to: behind images and an upload that have passed, a release succeeds if there is
no address to notify, and else comes to whatever the notification comes to.
-/

namespace Conductor.Release

variable {ε : Type}

/-- The job that notifies an address of a release. -/
def notice (config : Config) (project : Project) (version webhook : String) : JobSpec :=
  Catalog.notification config webhook (Text.capitalize config.sources.name ++ " Release")
    (version ++ " release now on GitHub! <" ++ Catalog.releaseUrl project version ++ ">")

/-- A release publishes images, uploads, and notifies the address if there is one. -/
theorem jobs_eq (config : Config) (project : Project) (version : String)
    : jobs config project version
      = [Catalog.publishImages config project version, Catalog.release config project version]
        ++ (project.secret? config.secrets.webhook).toList.map (notice config project version) := by
  simp only [jobs, stages, Catalog.notify]
  cases project.secret? config.secrets.webhook <;> rfl

/-- A job that has ended is seen among the jobs with its outcome. -/
theorem mem_jobs_of_ended {acts : List Act} {spec : JobSpec} {outcome : Outcome}
    (ended : (spec, outcome) ∈ acts.filterMap Act.end?)
    : (spec, some outcome) ∈ acts.filterMap Act.job? := by
  obtain ⟨act, member, shown⟩ := List.mem_filterMap.mp ended
  refine List.mem_filterMap.mpr ⟨act, member, ?_⟩
  cases act with
  | ended spec outcome =>
      cases shown
      rfl
  | _ => cases shown

/-- A release whose images and upload have passed comes to what its notification comes to. It is a
success if there is no address to notify; else the notification runs behind the upload, and its
failure is that of the release.
Witness: behind the two jobs that passed, the jobs in sequence are those of the notification.
-/
theorem run_notified {services : Services ε} (uncancelled : services.executor.Uncancelled)
    (project : Project) (version : String) (state : ε)
    (complete : ∀ key ∈ requiredSecrets services.config, project.lacks key = false)
    (published
      : (Catalog.publishImages services.config project version, .passed)
        ∈ ((run services project version).trace state).acts.filterMap Act.end?)
    (uploaded
      : (Catalog.release services.config project version, .passed)
        ∈ ((run services project version).trace state).acts.filterMap Act.end?)
    : let config := services.config
      let trace := (run services project version).trace state
      let images := Catalog.publishImages config project version
      let upload := Catalog.release config project version
      (project.lacks config.secrets.webhook = true → trace.value = .ok (.ok ()))
      ∧ ∀ webhook,
          project.secret? config.secrets.webhook = some webhook
          → let notice := notice config project version webhook
            ∃ outcome : Outcome,
              trace.acts.filterMap Act.job?
              = [(images, none), (images, some .passed), (upload, none), (upload, some .passed),
                  (notice, none), (notice, some outcome)]
              ∧ trace.value
                = match outcome.failure? notice.name with
                  | none => .ok (.ok ())
                  | some failure => .ok (.error (.unit failure)) := by
  intro config trace images upload
  have accepted : missingSecrets config project = [] := by
    rw [missingSecrets_eq]
    refine List.filter_eq_nil_iff.mpr fun key member => ?_
    simp [complete key member]
  obtain ⟨result, value, sequence⟩ :=
    (run_account uncancelled project version state accepted).inSequence
  have different : [images, upload].Nodup := by
    have unlike : images ≠ upload := by
      intro same
      have names : Catalog.imagesName = "release" := congrArg JobSpec.name same
      exact absurd names (by decide)
    simpa using unlike
  have passed : ∀ spec ∈ [images, upload],
      (spec, some Outcome.passed) ∈ trace.acts.filterMap Act.job? := by
    intro spec member
    rcases List.mem_pair.mp member with rfl | rfl
    · exact mem_jobs_of_ended published
    · exact mem_jobs_of_ended uploaded
  rw [jobs_eq] at sequence
  obtain ⟨later, jobs, notified⟩ := sequence.behind_passed different passed
  constructor
  · intro lacking
    rw [← Project.secret?_isNone, Option.isNone_iff_eq_none] at lacking
    rw [lacking] at notified
    cases notified
    exact value
  · intro webhook found
    rw [found] at notified
    obtain ⟨outcome, rfl, rfl⟩ := notified.of_one
    refine ⟨outcome, jobs, value.trans ?_⟩
    cases outcome.failure? (notice config project version webhook).name <;> rfl

/-- A project with all secrets, an address for notifications among them. -/
def notifiable : Project where
  repoName := "acme/widget"
  secrets := [
    ("dockerhubUsername", "alice"), ("dockerhubPassword", "hunter2"), ("ghToken", "t0ken"),
    ("SLACK_WEBHOOK", "https://hooks.example/x")]

/-- The release of a version behind whose images and upload the notification ends as given. -/
def notifying (ending : ChildProcess.Ending)
    : Trace Act (List ChildProcess.Ending) (Except Fault (Except Failure Unit)) :=
  (run scriptedServices notifiable "v1.2.3").trace
    [.exited 0 "" "", .exited 0 "" "", ending]

theorem run_notified_unlaunched
    : let failure : UnitFailure := ⟨"brigade-slack-notify", "not found", some (-1)⟩
      let trace := notifying (.notStarted "not found")
      scriptedServices.executor.Uncancelled
      ∧ (∀ key ∈ requiredSecrets {}, notifiable.lacks key = false)
      ∧ (Catalog.publishImages {} notifiable "v1.2.3", .passed) ∈ trace.acts.filterMap Act.end?
      ∧ (Catalog.release {} notifiable "v1.2.3", .passed) ∈ trace.acts.filterMap Act.end?
      ∧ (trace.acts.filterMap Act.job?).getLast?
        = some (notice {} notifiable "v1.2.3" "https://hooks.example/x", some (.failed failure))
      ∧ trace.value = .ok (.error (.unit failure)) := by
  intro failure trace
  have uncancelled : scriptedServices.executor.Uncancelled := Executor.docker_uncancelled _ _
  have complete : ∀ key ∈ requiredSecrets {}, notifiable.lacks key = false := by decide
  have published
    : (Catalog.publishImages {} notifiable "v1.2.3", .passed) ∈ trace.acts.filterMap Act.end? := by
    decide +kernel
  have uploaded
    : (Catalog.release {} notifiable "v1.2.3", .passed) ∈ trace.acts.filterMap Act.end? := by
    decide +kernel
  obtain ⟨_, notified⟩ := run_notified uncancelled notifiable "v1.2.3"
    [.exited 0 "" "", .exited 0 "" "", .notStarted "not found"] complete published uploaded
  obtain ⟨outcome, jobs, value⟩ := notified "https://hooks.example/x" (by decide +kernel)
  have last
    : (trace.acts.filterMap Act.job?).getLast?
      = some (notice {} notifiable "v1.2.3" "https://hooks.example/x", some (.failed failure)) := by
    decide +kernel
  have same : outcome = .failed failure := by
    have shown := (congrArg List.getLast? jobs).symm.trans last
    exact Option.some.inj (congrArg Prod.snd (Option.some.inj shown))
  rw [same] at value
  exact ⟨uncancelled, complete, published, uploaded, last, value⟩

/-- A notification that is refused fails a release whose images and upload have passed. -/
theorem notification_refused
    : let trace := notifying (.exited 1 "" "hook refused")
      scriptedServices.executor.Uncancelled
      ∧ (∀ key ∈ requiredSecrets {}, notifiable.lacks key = false)
      ∧ (Catalog.publishImages {} notifiable "v1.2.3", .passed) ∈ trace.acts.filterMap Act.end?
      ∧ (Catalog.release {} notifiable "v1.2.3", .passed) ∈ trace.acts.filterMap Act.end?
      ∧ trace.value ≠ .ok (.ok ()) := by
  intro trace
  have failed
    : trace.value = .ok (.error (.unit ⟨"brigade-slack-notify", "hook refused", some 1⟩)) := by rfl
  refine ⟨Executor.docker_uncancelled _ _, by decide, by decide +kernel, by decide +kernel, ?_⟩
  rw [failed]
  nofun

end Conductor.Release
