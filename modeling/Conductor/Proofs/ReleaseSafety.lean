import Conductor.Handlers
import Conductor.Proofs.ReleaseStages
import Conductor.Proofs.SuiteOutcome

/-! No release starts unguarded. Whatever an event asks for and however jobs and reports end, the
upload of a release starts only for a push of a release tag, behind a suite that has passed and
images that have been published for its version.
-/

namespace Conductor

variable {ε : Type}

/-- An act that starts no release. -/
def Act.StartsNoRelease (act : Act) : Prop :=
  ∀ spec, act = .started spec → spec.name ≠ "release"

theorem Act.did_startsNoRelease (deed : Deed) : (Act.did deed).StartsNoRelease := nofun

theorem wrote_startsNoRelease (messages : List Message)
    : ∀ act ∈ messages.map fun message => Act.did (.wrote message), act.StartsNoRelease :=
  List.forall_mem_map.mpr fun message _ => Act.did_startsNoRelease (.wrote message)

/-- What spares the name of the release starts none. -/
theorem Act.Spares.startsNoRelease {act : Act} (spares : act.Spares "release")
    : act.StartsNoRelease := by
  rintro spec rfl same
  exact spares (congrArg some same)

theorem started_notMem {acts : List Act} (none : ∀ act ∈ acts, act.StartsNoRelease) {spec : JobSpec}
    (named : spec.name = "release")
    : .started spec ∉ acts :=
  fun member => none _ member spec rfl named

/-- A job on its own starts itself and no release behind that. -/
theorem JobSpec.unit_starts_once (executor : Executor ε) (spec : JobSpec) (state : ε)
    : ∃ rest : List Act,
        ((spec.unit executor).run.trace state).acts = .started spec :: rest
        ∧ ∀ act ∈ rest, act.StartsNoRelease := by
  obtain ⟨deeds, acts⟩ := unit_run executor spec state
  refine ⟨_, acts, List.forall_mem_append.mpr ⟨?_, List.forall_mem_singleton.mpr nofun⟩⟩
  exact List.forall_mem_map.mpr fun deed _ => Act.did_startsNoRelease deed

-----------------------------------------------------------------------------------------
-- Guarded acts
-----------------------------------------------------------------------------------------

/-- Acts that start at most one release, and that behind acts of which `guard` holds. -/
def Guarded (guard : List Act → Prop) (acts : List Act) : Prop :=
  (∀ act ∈ acts, act.StartsNoRelease)
  ∨ ∃ before spec after,
      acts = before ++ .started spec :: after
      ∧ (∀ act ∈ before, act.StartsNoRelease)
      ∧ (∀ act ∈ after, act.StartsNoRelease)
      ∧ guard before

namespace Guarded

variable {guard : List Act → Prop} {acts : List Act}

/-- The guard holds of what is before any release that starts.
Witness: the release that the acts start stands apart from all others in them.
-/
theorem holds (guarded : Guarded guard acts) {before after : List Act} {spec : JobSpec}
    (starts : acts = before ++ .started spec :: after) (named : spec.name = "release")
    : guard before := by
  rcases guarded with none | ⟨first, other, rest, split, noneFirst, noneRest, holds⟩
  · refine absurd ?_ (started_notMem none named)
    rw [starts]
    exact List.mem_append_right _ List.mem_cons_self
  · have same := split.symm.trans starts
    obtain ⟨rfl, _, _⟩ := (List.append_cons_inj_of_notMem (started_notMem noneFirst named)
      (started_notMem noneRest named)).mp same
    exact holds

/-- Acts may be preceded by others, if the guard still holds behind those. -/
theorem behind {guard' : List Act → Prop} {first : List Act} (guarded : Guarded guard acts)
    (none : ∀ act ∈ first, act.StartsNoRelease)
    (still : ∀ before, guard before → guard' (first ++ before))
    : Guarded guard' (first ++ acts) := by
  rcases guarded with noneActs | ⟨before, spec, after, rfl, noneBefore, noneAfter, holds⟩
  · exact Or.inl (List.forall_mem_append.mpr ⟨none, noneActs⟩)
  · refine Or.inr ⟨first ++ before, spec, after, (List.append_assoc _ _ _).symm, ?_, noneAfter,
      still before holds⟩
    exact List.forall_mem_append.mpr ⟨none, noneBefore⟩

theorem append {last : List Act} (guarded : Guarded guard acts)
    (none : ∀ act ∈ last, act.StartsNoRelease)
    : Guarded guard (acts ++ last) := by
  rcases guarded with noneActs | ⟨before, spec, after, rfl, noneBefore, noneAfter, holds⟩
  · exact Or.inl (List.forall_mem_append.mpr ⟨noneActs, none⟩)
  · refine Or.inr ⟨before, spec, after ++ last, by simp, noneBefore, ?_, holds⟩
    exact List.forall_mem_append.mpr ⟨noneAfter, none⟩

end Guarded

-----------------------------------------------------------------------------------------
-- The stages of a release
-----------------------------------------------------------------------------------------

namespace Release

/-- In these acts images are published, and nothing else is done but to write messages: those before
the images, and one since.
-/
def ImagesPublished (images : JobSpec) (acts : List Act) : Prop :=
  ∃ (messages : List Message) (deeds : List Deed) (line : Message),
    acts
    = (messages.map fun message => .did (.wrote message))
      ++ .started images :: (deeds.map .did ++ [.ended images .passed, .did (.wrote line)])

/-- The notification spares every name that ends otherwise than its own, sent or not. -/
theorem notify_spares (services : Services ε) (project : Project) (title message : String)
    {name : String} (other : name.toList.getLast? ≠ some 'y')
    : (services.stage (Catalog.notify services.config project title message).1).Every
        (Act.Spares name) := by
  unfold Catalog.notify
  cases project.secret? services.config.secrets.webhook with
  | none => exact Async.Within.pure trivial
  | some webhook =>
      exact JobSpec.unit_spares services.executor (notifyName_ne services.config other)

/-- The notification starts no release, sent or not. -/
theorem notify_every (services : Services ε) (project : Project) (title message : String)
    : (services.stage (Catalog.notify services.config project title message).1).Every
        Act.StartsNoRelease := by
  have spares := notify_spares services project title message
    (by decide : "release".toList.getLast? ≠ some 'y')
  exact Async.Within.imp spares fun _ spared => spared.startsNoRelease

/-- Behind the images the upload is the next job, and no other release starts.
Witness: the upload is the head of what is left, and starts itself once.
-/
theorem upload_next (services : Services ε) (project : Project) (version : String)
    {notice : UnitOfWork ε} (quiet : notice.Every Act.StartsNoRelease) (state : ε)
    : let spec := Catalog.release services.config project version
      ∃ rest : List Act,
        ((Group.runFrom 3 1 [services.unit spec, notice]).trace state).acts
          = Group.stepAct 2 3 (services.unit spec).name :: .started spec :: rest
        ∧ ∀ act ∈ rest, act.StartsNoRelease := by
  intro spec
  obtain ⟨more, acts, none⟩ := Group.runFrom_head (fun _ => Act.did_startsNoRelease _) 3 1
    (services.unit spec) (List.forall_mem_singleton.mpr quiet) state
  obtain ⟨rest, uploaded, noneRest⟩ := JobSpec.unit_starts_once services.executor spec state
  refine ⟨rest ++ more, ?_, List.forall_mem_append.mpr ⟨noneRest, none⟩⟩
  rw [acts]
  simp only [Services.unit, uploaded, List.cons_append]

/-- The stages of a release start the upload behind the images, if these have been published.
Witness: the images either pass, and then the upload is next, or end the sequence.
-/
theorem sequence_guarded (services : Services ε) (project : Project) (version : String) (state : ε)
    : Guarded (ImagesPublished (Catalog.publishImages services.config project version))
        ((sequence services project version).trace state).acts := by
  let spec := Catalog.publishImages services.config project version
  let upload := services.unit (Catalog.release services.config project version)
  let notice := services.stage (Catalog.notify services.config project
    (Text.capitalize services.config.sources.name ++ " Release")
    (version ++ " release now on GitHub! <" ++ Catalog.releaseUrl project version ++ ">")).1
  have stages : sequence services project version
      = Group.runFrom 3 0 [services.unit spec, upload, notice] := rfl
  have images : (services.unit spec).Every (Act.Spares "release") :=
    JobSpec.unit_spares services.executor (by decide : Catalog.imagesName ≠ "release")
  have spares : ∀ act ∈ ((services.unit spec).run.trace state).acts, act.StartsNoRelease :=
    fun act member => (images.run state act member).startsNoRelease
  rw [stages]
  by_cases passed : ((services.unit spec).run.trace state).value = .passed
  · obtain ⟨rest, acts, none⟩ := upload_next services project version
      (notify_every services project _ _) ((services.unit spec).run.trace state).state
    obtain ⟨deeds, published⟩ := JobSpec.unit_run services.executor spec state
    have ended : ((spec.unit services.executor).run.trace state).value = .passed := passed
    rw [ended] at published
    refine Or.inr ⟨Group.stepAct 1 3 spec.name
        :: (((services.unit spec).run.trace state).acts ++ [Group.stepAct 2 3 upload.name]),
      Catalog.release services.config project version, rest, ?split, ?noneBefore, none, ?guard⟩
    case split =>
      rw [Group.runFrom_passed 3 0 _ _ state passed, Trace.behind_acts, acts]
      simp only [List.cons_append, List.append_assoc, List.nil_append]
      rfl
    case noneBefore =>
      refine List.forall_mem_cons.mpr ⟨Act.did_startsNoRelease _, ?_⟩
      exact List.forall_mem_append.mpr
        ⟨spares, List.forall_mem_singleton.mpr (Act.did_startsNoRelease _)⟩
    case guard =>
      refine ⟨[Group.stepLine 1 3 spec.name], deeds, Group.stepLine 2 3 upload.name, ?_⟩
      simp only [Services.unit, published, Group.stepAct, List.map_cons, List.map_nil,
        List.cons_append, List.append_assoc, List.nil_append, spec]
  · obtain ⟨messages, acts⟩ := Group.runFrom_halted 3 0 (services.unit spec) [upload, notice]
      state passed
    rw [acts]
    refine Or.inl (List.forall_mem_cons.mpr ⟨Act.did_startsNoRelease _, ?_⟩)
    exact List.forall_mem_append.mpr ⟨spares, wrote_startsNoRelease messages⟩

/-- The end of a release adds at most messages to its stages, by cases on how these end. -/
theorem concluded_acts (version : String)
    (stages : Trace Act ε (Except Fault (Except UnitFailure Unit)))
    : ∃ messages : List Message,
        (concluded version stages).acts
        = stages.acts ++ messages.map fun message => .did (.wrote message) := by
  rcases stages with ⟨fault | failure | ⟨⟩, later, acts⟩
  · exact ⟨[], (List.append_nil acts).symm⟩
  · exact ⟨[], (List.append_nil acts).symm⟩
  · exact ⟨[.success ("released " ++ version)], rfl⟩

/-- A release starts the upload with all required secrets and behind the images of its version. -/
theorem run_guarded (services : Services ε) (project : Project) (version : String) (state : ε)
    : Guarded
        (fun before =>
          missingSecrets services.config project = []
          ∧ ImagesPublished (Catalog.publishImages services.config project version) before)
        ((run services project version).trace state).acts := by
  by_cases complete : missingSecrets services.config project = []
  · obtain ⟨messages, acts⟩ := concluded_acts version
      ((sequence services project version).trace state)
    rw [run_accepted services project version state complete, Trace.behind_acts, acts]
    refine ((sequence_guarded services project version state).append
      (wrote_startsNoRelease messages)).behind (wrote_startsNoRelease _) ?_
    rintro before ⟨earlier, deeds, line, rfl⟩
    refine ⟨complete, opening services.config project version ++ earlier, deeds, line, ?_⟩
    rw [List.map_append, List.append_assoc]
  · rw [run_refused services project version state complete]
    exact Or.inl (List.forall_mem_nil _)

end Release

-----------------------------------------------------------------------------------------
-- Events that release nothing
-----------------------------------------------------------------------------------------

namespace Handlers

/-- The jobs of the suite are no releases, by comparison of names. -/
theorem suite_ne_release (config : Config)
    : ∀ job ∈ Catalog.suite config, job.name ≠ "release" :=
  Catalog.forall_suite (P := fun name => name ≠ "release") config (by decide)

/-- Requests other than pushes start no release: the jobs that they start go by other names. -/
theorem handler_startsNoRelease (services : Services ε) {kind : EventKind} (other : kind ≠ .push)
    (event : Event) (project : Project) (state : ε)
    : ∀ act ∈ ((handler services kind event project).trace state).acts, act.StartsNoRelease := by
  have spares : (handler services kind event project).IsOf (.every (Act.Spares "release")) :=
    handler_isOf (services.spares "release") (suite_ne_release services.config) event
      (by decide : Catalog.imagesName ≠ "release") other
  exact fun act member => (spares state act member).startsNoRelease

-----------------------------------------------------------------------------------------
-- Pushes
-----------------------------------------------------------------------------------------

theorem wrote_spares (messages : List Message) (name : String)
    : ∀ act ∈ messages.map fun message => Act.did (.wrote message), act.Spares name :=
  List.forall_mem_map.mpr fun message _ => Act.spares_did name (.wrote message)

/-- The failures of a group become those of a request, and nothing else changes. -/
theorem ofGroup_trace (result : Attempt ε (Except Aggregate Unit)) (state : ε)
    : (ofGroup result).trace state
      = ⟨(result.trace state).value.map fun ended => ended.mapError Failure.group,
          (result.trace state).state, (result.trace state).acts⟩ := by
  rcases ended : result.trace state with ⟨fault | value, later, acts⟩
  · exact Attempt.trace_bind_error ended
  · rw [ofGroup, Attempt.trace_bind_ok ended]
    simp only [Attempt.trace_pure, Trace.behind, List.append_nil]
    rfl

/-- A request for the suite passes exactly if the suite does, by cases on the suite. -/
theorem checkSuite_passed_iff (services : Services ε) (event : Event) (project : Project)
    (state : ε)
    : ((checkSuite services event project).trace state).value = .ok (.ok ())
      ↔ ((Suite.run services event project).trace state).value = .ok (.ok ()) := by
  have grouped : (checkSuite services event project).trace state = _ :=
    ofGroup_trace (Suite.run services event project) state
  rw [grouped]
  rcases ((Suite.run services event project).trace state).value with fault | failure | ⟨⟩
  · exact ⟨nofun, nofun⟩
  · exact ⟨nofun, nofun⟩
  · exact ⟨fun _ => rfl, fun _ => rfl⟩

/-- When the suite of a push passes, each of its jobs passed once.
Witness: the handler passes only if the suite does, and does nothing besides.
-/
theorem checkSuite_passed (services : Services ε) (event : Event) (project : Project) (state : ε)
    (passed : ((checkSuite services event project).trace state).value = .ok (.ok ()))
    : ∀ job ∈ Catalog.suite services.config,
        PassedOnce job ((checkSuite services event project).trace state).acts := by
  have grouped : (checkSuite services event project).trace state = _ :=
    ofGroup_trace (Suite.run services event project) state
  rw [checkSuite_passed_iff] at passed
  rw [grouped]
  exact Suite.run_passed services event project state passed

/-- What is before a release that a push starts: the ref is a release tag, no required secret is
missing, each job of the suite has passed once, and the images of the version come behind that.
-/
def ReleaseGuard (services : Services ε) (event : Event) (project : Project) (before : List Act)
    : Prop :=
  ∃ version notices,
    services.tags.version? event.ref = .ok (some version, notices)
    ∧ Release.missingSecrets services.config project = []
    ∧ ∃ (earlier : List Act) (deeds : List Deed) (line : Message),
        before
        = earlier
          ++ .started (Catalog.publishImages services.config project version)
            :: (deeds.map .did
              ++ [.ended (Catalog.publishImages services.config project version) .passed,
                .did (.wrote line)])
        ∧ ∀ job ∈ Catalog.suite services.config, PassedOnce job earlier

/-- A push starts a release behind its guard.
Witness: the suite starts none; the release comes only when the suite has passed, and for a version.
-/
theorem push_guarded (services : Services ε) (event : Event) (project : Project) (state : ε)
    : Guarded (ReleaseGuard services event project)
        ((push services event project).trace state).acts := by
  unfold push
  cases matched : services.tags.version? event.ref with
  | error fault =>
      rw [Attempt.trace_bind_error (Attempt.trace_liftExcept _ state)]
      exact Or.inl (List.forall_mem_nil _)
  | ok found =>
      obtain ⟨version, messages⟩ := found
      rw [Attempt.trace_bind_ok (Attempt.trace_liftExcept _ state)]
      simp only [Attempt.trace_write_bind, Trace.behind_acts, List.nil_append]
      split
      · refine Or.inl (List.forall_mem_append.mpr ⟨wrote_startsNoRelease messages, ?_⟩)
        split
        · exact List.forall_mem_singleton.mpr (Act.did_startsNoRelease _)
        · exact List.forall_mem_nil _
      have requested : EventKind.checkSuiteRequested ≠ .push := nofun
      have suite : ∀ act ∈ ((checkSuite services event project).trace state).acts,
          act.StartsNoRelease :=
        handler_startsNoRelease services requested event project state
      have quiet := List.forall_mem_append.mpr ⟨wrote_startsNoRelease messages, suite⟩
      have checked := checkSuite_passed services event project state
      rcases ended : (checkSuite services event project).trace state with
        ⟨fault | failure | ⟨⟩, later, acts⟩
      all_goals rw [ended] at quiet
      · rw [Attempt.trace_bind_error ended]
        exact Or.inl quiet
      · rw [Attempt.trace_bind_ok ended, Trace.behind_acts, ← List.append_assoc]
        exact Or.inl (List.forall_mem_append.mpr ⟨quiet, List.forall_mem_nil _⟩)
      rw [ended] at checked
      rw [Attempt.trace_bind_ok ended, Trace.behind_acts, ← List.append_assoc]
      cases version with
      | none => exact Or.inl (List.forall_mem_append.mpr ⟨quiet, List.forall_mem_nil _⟩)
      | some version =>
          refine (Release.run_guarded services project version later).behind quiet ?_
          -- what the suite did is still there, between the notices and the header of the release
          rintro before ⟨complete, lines, deeds, line, rfl⟩
          refine ⟨version, messages, matched, complete, _, deeds, line,
            (List.append_assoc _ _ _).symm, ?_⟩
          intro job member
          exact (checked rfl job member).surround (wrote_spares messages job.name)
            (wrote_spares lines job.name)

-----------------------------------------------------------------------------------------
-- All events
-----------------------------------------------------------------------------------------

/-- An event starts a release only if it is a push, and then behind the guard of pushes.
Witness: by cases on the handler of the event; all but that of pushes spare the name of a release.
-/
theorem dispatch_guarded (services : Services ε) (event : Event) (project : Project) (state : ε)
    : Guarded
        (fun before => event.kind = "push" ∧ ReleaseGuard services event project before)
        (((router services).dispatch event project).trace state).acts := by
  rw [dispatch_eq]
  cases known : EventKind.ofText? event.kind with
  | none => exact Or.inl (List.forall_mem_singleton.mpr (Act.did_startsNoRelease _))
  | some kind =>
      dsimp only
      by_cases pushed : kind = .push
      · rw [pushed] at known ⊢
        have named : event.kind = "push" := (EventKind.text_of_ofText? known).symm
        exact (push_guarded services event project state).behind (List.forall_mem_nil _)
          fun before guard => ⟨named, guard⟩
      · exact Or.inl (handler_startsNoRelease services pushed event project state)

/-- No event starts a release unguarded. When the job of a release starts, the event is a push of a
release tag, no required secret is blank, each of the three jobs of the suite was started once,
ended once with success and had its report delivered, and behind all of that the images of the
version were published, with nothing since but a message.
-/
theorem dispatch_release_guarded (services : Services ε) (event : Event) (project : Project)
    (state : ε) {before after : List Act} {spec : JobSpec}
    (starts
      : (((router services).dispatch event project).trace state).acts
        = before ++ .started spec :: after)
    (named : spec.name = "release")
    : let config := services.config
      event.kind = "push"
      ∧ ∃ version notices,
          let images := Catalog.publishImages config project version
          services.tags.version? event.ref = .ok (some version, notices)
          ∧ (∀ key ∈ [config.secrets.registryUsername, config.secrets.registryPassword,
              config.secrets.releaseToken], project.lacks key = false)
          ∧ images.name = "build-and-publish-images"
          ∧ images.env.lookup "VERSION" = some version
          ∧ (Catalog.suite config).map JobSpec.name = ["test-go", "test-javascript", "test-e2e"]
          ∧ ∃ (earlier : List Act) (deeds : List Deed) (line : Message),
              before
              = earlier
                ++ .started images
                  :: (deeds.map .did ++ [.ended images .passed, .did (.wrote line)])
              ∧ ∀ job ∈ Catalog.suite config, PassedOnce job earlier := by
  obtain ⟨push, version, notices, matched, complete, earlier, deeds, line, split, passed⟩ :=
    (dispatch_guarded services event project state).holds starts named
  refine ⟨push, version, notices, matched, ?_, rfl, rfl, rfl, earlier, deeds, line, split, passed⟩
  rw [Release.missingSecrets_eq] at complete
  intro key member
  exact eq_false_of_ne_true (List.filter_eq_nil_iff.mp complete key member)

/-- Services that show jobs instead of running them, and take every ref for a release tag. -/
def rehearsal : Services Unit where
  platform := .plain
  schedule := .fair
  config := {}
  executor := .dryRun
  reporter := .console
  tags := ⟨"(.+)", .group 1 (.chars .notLineFeed 1 none .greedy), 1⟩

def tagged : Event := { kind := "push", ref := "v1" }

theorem dispatch_release_guarded_rehearsal
    : let release := Catalog.release {} Release.equipped "v1"
      let images := Catalog.publishImages {} Release.equipped "v1"
      ∃ before after,
        (((router rehearsal).dispatch tagged Release.equipped).trace ()).acts
          = before ++ .started release :: after
        ∧ release.name = "release"
        ∧ ∃ (earlier : List Act) (deeds : List Deed) (line : Message),
            before
            = earlier
              ++ .started images
                :: (deeds.map .did ++ [.ended images .passed, .did (.wrote line)])
            ∧ ∀ job ∈ Catalog.suite {}, PassedOnce job earlier := by
  have known : .started (Catalog.release {} Release.equipped "v1")
      ∈ (((router rehearsal).dispatch tagged Release.equipped).trace ()).acts := by
    decide +kernel
  obtain ⟨before, after, starts⟩ := List.append_of_mem known
  obtain ⟨_, version, notices, matched, _, _, _, _, earlier, deeds, line, split, passed⟩ :=
    dispatch_release_guarded rehearsal tagged Release.equipped () starts rfl
  have recognized : rehearsal.tags.version? "v1" = .ok (some "v1", []) := by decide +kernel
  cases recognized.symm.trans matched
  exact ⟨before, after, starts, rfl, earlier, deeds, line, split, passed⟩

end Handlers

end Conductor
