import Conductor.Proofs.CommentGate
import Conductor.Proofs.ReleaseGrammar
import Conductor.Proofs.ReleaseSafety
import Conductor.Proofs.TagPatterns

/-! Which images are published for an event: those of the edge, behind a suite of the mainline that
has passed, and those of a release, as its first stage. The two come together if what a pattern
takes for a release tag is the mainline.
-/

namespace Conductor

variable {ε : Type}

-----------------------------------------------------------------------------------------
-- Starts and what is before them
-----------------------------------------------------------------------------------------

/-- The starts of jobs of a name in acts, each with what is before it; `before` is before all. -/
def startsBehind (name : String) (before : List Act) : List Act → List (List Act × JobSpec)
  | [] => []
  | act :: rest =>
    let later := startsBehind name (before ++ [act]) rest
    match act.start? with
    | some spec => if spec.name == name then (before, spec) :: later else later
    | none => later

/-- The acts start no job of a name. -/
def StartsNone (name : String) (acts : List Act) : Prop :=
  (acts.filterMap Act.start?).filter (fun spec => spec.name == name) = []

namespace StartsNone

variable {name : String} {acts : List Act}

theorem of_spares (spares : ∀ act ∈ acts, act.Spares name) : StartsNone name acts :=
  spares_filter spares Act.start? JobSpec.name Act.about?_of_start?

theorem wrote (messages : List Message)
    : StartsNone name (messages.map fun message => .did (.wrote message)) :=
  .of_spares (Handlers.wrote_spares messages name)

theorem append {last : List Act} (first : StartsNone name acts) (rest : StartsNone name last)
    : StartsNone name (acts ++ last) := by
  unfold StartsNone at *
  rw [List.filterMap_append, List.filter_append, first, rest, List.append_nil]

end StartsNone

/-- The starts in two rows of acts are those of each, by induction on the first row. -/
theorem startsBehind_append (name : String) (before first second : List Act)
    : startsBehind name before (first ++ second)
      = startsBehind name before first ++ startsBehind name (before ++ first) second := by
  induction first generalizing before with
  | nil => simp [startsBehind]
  | cons act rest ih =>
      simp only [List.cons_append, startsBehind, ih, List.append_assoc]
      cases act.start? with
      | none => rfl
      | some spec =>
          dsimp only
          split <;> rfl

/-- The starts of jobs of a name are those among all starts, by induction on the acts. -/
theorem startsBehind_specs (name : String) (before acts : List Act)
    : (startsBehind name before acts).map Prod.snd
      = (acts.filterMap Act.start?).filter fun spec => spec.name == name := by
  induction acts generalizing before with
  | nil => rfl
  | cons act rest ih =>
      rw [startsBehind, List.filterMap_cons]
      cases act.start? with
      | none => exact ih _
      | some spec =>
          dsimp only
          rw [List.filter_cons]
          split
          · exact congrArg (spec :: ·) (ih _)
          · exact ih _

theorem StartsNone.startsBehind {name : String} {acts : List Act} (none : StartsNone name acts)
    (before : List Act)
    : startsBehind name before acts = [] := by
  have specs := startsBehind_specs name before acts
  rw [none] at specs
  exact List.map_eq_nil_iff.mp specs

/-- A job that alone is started of its name has one start. -/
theorem startsBehind_once {name : String} (before : List Act) {first rest : List Act}
    (noneFirst : StartsNone name first) {spec : JobSpec} (named : spec.name = name)
    (noneRest : StartsNone name rest)
    : startsBehind name before (first ++ .started spec :: rest) = [(before ++ first, spec)] := by
  rw [startsBehind_append, noneFirst.startsBehind, List.nil_append, startsBehind,
    noneRest.startsBehind]
  exact if_pos (beq_iff_eq.mpr named)

-----------------------------------------------------------------------------------------
-- Images of the edge
-----------------------------------------------------------------------------------------

namespace Suite

/-- Images start for the edge: the event is of the mainline, each job of the suite has passed once,
and the last message tells of the edge.
-/
structure EdgeStart (services : Services ε) (event : Event) (project : Project) (before : List Act)
    (spec : JobSpec)
    : Prop where
  images : spec = Catalog.publishImages services.config project ""
  mainline : event.branch? = some services.config.sources.mainline
  told : before.getLast? = some (.did (.wrote (.dim "mainline build: publishing edge images")))
  passed : ∀ job ∈ Catalog.suite services.config, PassedOnce job before

/-- Publishing the images of the mainline starts with a message and the job, and no other job. -/
theorem publishEdge_head (services : Services ε) (project : Project) (state : ε)
    : ∃ rest : List Act,
        ((publishEdge services project).trace state).acts
          = .did (.wrote (.dim "mainline build: publishing edge images"))
            :: .started (Catalog.publishImages services.config project "") :: rest
        ∧ rest.filterMap Act.start? = [] := by
  let images := Catalog.publishImages services.config project ""
  obtain ⟨deeds, ran⟩ := JobSpec.unit_run services.executor images state
  have begins : ∃ rest : List Act,
      ((publishEdge services project).trace state).acts
      = .did (.wrote (.dim "mainline build: publishing edge images"))
        :: .started images :: rest := by
    simp only [publishEdge, Attempt.trace_write_bind, Trace.behind_acts]
    rcases Attempt.trace_bind_cases (settle (services.unit images)) _ state with
      ⟨fault, _, ended⟩ | ⟨value, _, ended⟩
    · rw [ended, settle_acts, Services.unit, ran]
      exact ⟨_, rfl⟩
    · rw [ended, Trace.behind_acts, settle_acts, Services.unit, ran]
      exact ⟨_, rfl⟩
  obtain ⟨rest, acts⟩ := begins
  have starts := publishEdge_starts services project state
  rw [acts] at starts
  exact ⟨rest, acts, (List.cons.inj starts).2⟩

/-- Behind checks that pass images start on the mainline alone, behind the message on the edge. -/
theorem edge_startsBehind (services : Services ε) (event : Event) (project : Project) (state : ε)
    (before : List Act)
    : startsBehind Catalog.imagesName before ((edge services event project).trace state).acts
      = if isMainline services.config event then
          [(before ++ [.did (.wrote (.dim "mainline build: publishing edge images"))],
            Catalog.publishImages services.config project "")]
        else [] := by
  unfold edge
  split
  · obtain ⟨rest, head, noneRest⟩ := publishEdge_head services project state
    rw [head]
    exact startsBehind_once before (.wrote [_]) rfl (congrArg (List.filter _) noneRest)
  · rfl

/-- A suite publishes images at most once, and then for the edge; on the mainline it does so if it
passes.
-/
theorem run_images (services : Services ε) (event : Event) (project : Project) (state : ε)
    (messages : List Message)
    : let suite := (run services event project).trace state
      ∃ edge : Option (List Act × JobSpec),
        startsBehind Catalog.imagesName (messages.map fun message => .did (.wrote message))
            suite.acts
          = edge.toList
        ∧ (∀ start ∈ edge, EdgeStart services event project start.1 start.2)
        ∧ (suite.value = .ok (.ok ())
          → event.branch? = some services.config.sources.mainline
          → edge.isSome) := by
  intro suite
  -- No check is the job of the images, so they can start in the edge alone.
  have other : ∀ spec ∈ Catalog.suite services.config, spec.name ≠ Catalog.imagesName :=
    fun spec member => (suite_ne_images services.config spec member).symm
  have quiet : StartsNone Catalog.imagesName
      ((runChecks services (factories services) event project).trace state).acts :=
    .of_spares (runChecks_isOf (services.spares Catalog.imagesName) other event project state)
  have checked
    : ((runChecks services (factories services) event project).trace state).value = .ok (.ok ())
      → ∀ job ∈ Catalog.suite services.config, PassedOnce job
          ((runChecks services (factories services) event project).trace state).acts :=
    runChecks_passed services (Catalog.suite services.config) (List.cons_ne_nil _ _)
      (suite_different services.config) event project state
  obtain ⟨heading, whole⟩ := run_trace services event project state
  simp only [suite, whole, Trace.behind_acts, Trace.behind_value]
  rcases ended : (runChecks services (factories services) event project).trace state with
    ⟨fault | failure | ⟨⟩, later, acts⟩
  all_goals
    rw [ended] at quiet
    have noneYet : StartsNone Catalog.imagesName ([.did (.wrote heading)] ++ acts) :=
      (StartsNone.wrote [heading]).append quiet
  · exact ⟨none, noneYet.startsBehind _, nofun, nofun⟩
  · exact ⟨none, noneYet.startsBehind _, nofun, nofun⟩
  rw [ended] at checked
  let wrote := messages.map fun message => Act.did (.wrote message)
  have starts
    : startsBehind Catalog.imagesName wrote
        ([.did (.wrote heading)] ++ (acts ++ ((edge services event project).trace later).acts))
      = if isMainline services.config event then
          [(wrote ++ ([.did (.wrote heading)] ++ acts)
              ++ [.did (.wrote (.dim "mainline build: publishing edge images"))],
            Catalog.publishImages services.config project "")]
        else [] := by
    rw [← List.append_assoc, startsBehind_append, noneYet.startsBehind, List.nil_append,
      edge_startsBehind]
  by_cases mainline : isMainline services.config event = true
  · rw [if_pos mainline] at starts
    refine ⟨some _, starts, fun start same => ?_, fun _ _ => rfl⟩
    cases same
    exact {
      images := rfl
      mainline := eq_of_beq mainline
      told := List.getLast?_concat
      passed := fun job member => by
        have surrounded := (checked rfl job member).surround
          (Handlers.wrote_spares (messages ++ [heading]) job.name)
          (Handlers.wrote_spares [.dim "mainline build: publishing edge images"] job.name)
        simpa [wrote] using surrounded
    }
  · rw [if_neg mainline] at starts
    exact ⟨none, starts, nofun, fun _ same => absurd (beq_iff_eq.mpr same) mainline⟩

end Suite

-----------------------------------------------------------------------------------------
-- Images of a release
-----------------------------------------------------------------------------------------

namespace Release

/-- A release publishes images at most once, those of its version as its first stage; and so it does
with all required secrets.
-/
theorem run_images (services : Services ε) (project : Project) (version : String) (state : ε)
    (before : List Act)
    : ∃ stage : Option (List Act × JobSpec),
        startsBehind Catalog.imagesName before
            ((run services project version).trace state).acts
          = stage.toList
        ∧ (∀ start ∈ stage,
            start.2 = Catalog.publishImages services.config project version
            ∧ ∃ messages : List Message,
                start.1
                = before
                  ++ (messages ++ [Group.stepLine 1 3 Catalog.imagesName]).map fun message =>
                      .did (.wrote message))
        ∧ (stage.isSome ↔ missingSecrets services.config project = []) := by
  by_cases complete : missingSecrets services.config project = []
  · let images := Catalog.publishImages services.config project version
    let upload := Catalog.release services.config project version
    let notice := services.stage (Catalog.notify services.config project
      (Text.capitalize services.config.sources.name ++ " Release")
      (version ++ " release now on GitHub! <" ++ Catalog.releaseUrl project version ++ ">")).1
    have others : ∀ unit ∈ [services.unit upload, notice],
        unit.Every (Act.Spares Catalog.imagesName) := by
      refine List.forall_mem_cons.mpr ⟨?_, List.forall_mem_singleton.mpr ?_⟩
      · exact JobSpec.unit_spares services.executor (by decide : Catalog.releaseName ≠ _)
      · exact notify_spares services project _ _ (by decide)
    obtain ⟨more, acts, spares⟩ :=
      Group.runFrom_head (fun _ => Act.spares_did _ _) 3 0 (services.unit images) others state
    obtain ⟨deeds, ran⟩ := JobSpec.unit_run services.executor images state
    have staged
      : ((sequence services project version).trace state).acts
        = Group.stepAct 1 3 Catalog.imagesName
          :: (((images.unit services.executor).run.trace state).acts ++ more) := acts
    obtain ⟨last, whole⟩ := concluded_acts version
      ((sequence services project version).trace state)
    let first := opening services.config project version ++ [Group.stepLine 1 3 Catalog.imagesName]
    let outcome := ((images.unit services.executor).run.trace state).value
    let rest := deeds.map Act.did ++ [.ended images outcome] ++ more
      ++ last.map fun message => .did (.wrote message)
    have split
      : ((run services project version).trace state).acts
        = (first.map fun message => .did (.wrote message)) ++ .started images :: rest := by
      rw [run_accepted services project version state complete, Trace.behind_acts, whole, staged,
        ran]
      simp [first, rest, outcome, Group.stepAct]
    have noneRest : StartsNone Catalog.imagesName rest := by
      have deedsNone : StartsNone Catalog.imagesName (deeds.map Act.did) :=
        .of_spares (List.forall_mem_map.mpr fun deed _ => Act.spares_did _ deed)
      have endNone : StartsNone Catalog.imagesName [.ended images outcome] := rfl
      exact ((deedsNone.append endNone).append (.of_spares spares)).append (.wrote last)
    have once := startsBehind_once before (.wrote first) (rfl : images.name = Catalog.imagesName)
      noneRest
    refine ⟨some (_, images), (congrArg _ split).trans once, ?_, fun _ => complete, fun _ => rfl⟩
    intro start same
    cases same
    exact ⟨rfl, _, rfl⟩
  · rw [run_refused services project version state complete]
    exact ⟨none, rfl, fun _ started => absurd started (Option.not_mem_none _),
      fun started => absurd started Bool.false_ne_true, fun same => absurd same complete⟩

end Release

-----------------------------------------------------------------------------------------
-- Requests
-----------------------------------------------------------------------------------------

namespace Handlers

/-- Images start for a release: the event is a push whose ref is taken for a release tag, no
required secret is missing, each job of the suite has passed once, and the last message is that of
the first stage. They are those of the version.
-/
structure StageStart (services : Services ε) (event : Event) (project : Project)
    (before : List Act) (spec : JobSpec)
    : Prop where
  pushed : event.kind = "push"
  released
    : ∃ version notices,
        services.tags.version? event.ref = .ok (some version, notices)
        ∧ spec = Catalog.publishImages services.config project version
  complete : Release.missingSecrets services.config project = []
  told : before.getLast? = some (.did (.wrote (.dim "[1/3] build-and-publish-images")))
  passed : ∀ job ∈ Catalog.suite services.config, PassedOnce job before

/-- Of the images that acts publish, the first may be those of the edge, and the next those of a
release.
-/
def PublishesImages (services : Services ε) (event : Event) (project : Project) (acts : List Act)
    : Prop :=
  ∃ edge stage : Option (List Act × JobSpec),
    startsBehind Catalog.imagesName [] acts = edge.toList ++ stage.toList
    ∧ (∀ start ∈ edge, Suite.EdgeStart services event project start.1 start.2)
    ∧ ∀ start ∈ stage, StageStart services event project start.1 start.2

theorem PublishesImages.of_none {services : Services ε} {event : Event} {project : Project}
    {acts : List Act} (none : StartsNone Catalog.imagesName acts)
    : PublishesImages services event project acts :=
  ⟨.none, .none, none.startsBehind [], nofun, nofun⟩

section Requests

variable (services : Services ε) (event : Event) (project : Project) (state : ε)

/-- A request for the suite publishes images as the suite does, by the traces of both. -/
theorem checkSuite_images (messages : List Message)
    : let suite := (checkSuite services event project).trace state
      ∃ edge : Option (List Act × JobSpec),
        startsBehind Catalog.imagesName (messages.map fun message => .did (.wrote message))
            suite.acts
          = edge.toList
        ∧ (∀ start ∈ edge, Suite.EdgeStart services event project start.1 start.2)
        ∧ (suite.value = .ok (.ok ())
          → event.branch? = some services.config.sources.mainline
          → edge.isSome) := by
  intro suite
  have grouped : suite = _ := ofGroup_trace (Suite.run services event project) state
  obtain ⟨edge, starts, edges, published⟩ :=
    Suite.run_images services event project state messages
  refine ⟨edge, ?_, edges, fun passed =>
    published ((checkSuite_passed_iff services event project state).mp passed)⟩
  rw [grouped]
  exact starts

/-- A push publishes images for the edge within its suite, and for a release behind that.
Witness: by cases on what is found in the ref, and on what the suite comes to.
-/
theorem push_images (pushed : event.kind = "push")
    : PublishesImages services event project
        ((push services event project).trace state).acts := by
  unfold push
  cases matched : services.tags.version? event.ref with
  | error fault =>
      rw [Attempt.trace_bind_error (Attempt.trace_liftExcept _ state)]
      exact .of_none rfl
  | ok found =>
      obtain ⟨version, messages⟩ := found
      rw [Attempt.trace_bind_ok (Attempt.trace_liftExcept _ state)]
      simp only [Attempt.trace_write_bind, Trace.behind_acts, List.nil_append]
      split
      · refine .of_none ((StartsNone.wrote messages).append ?_)
        split <;> rfl
      obtain ⟨edge, starts, edges, _⟩ := checkSuite_images services event project state messages
      have checked := checkSuite_passed services event project state
      -- the notices of the ref start nothing, so that the suite has the first start
      have first : startsBehind Catalog.imagesName []
          ((messages.map fun message => .did (.wrote message))
            ++ ((checkSuite services event project).trace state).acts) = edge.toList := by
        rw [startsBehind_append, (StartsNone.wrote messages).startsBehind, List.nil_append,
          List.nil_append, starts]
      rcases ended : (checkSuite services event project).trace state with
        ⟨fault | failure | ⟨⟩, later, acts⟩
      all_goals rw [ended] at first
      · rw [Attempt.trace_bind_error ended]
        exact ⟨edge, none, by rw [first]; simp, edges, nofun⟩
      · rw [Attempt.trace_bind_ok ended]
        exact ⟨edge, none, by simpa using first, edges, nofun⟩
      rw [ended] at checked
      rw [Attempt.trace_bind_ok ended, Trace.behind_acts, ← List.append_assoc]
      cases version with
      | none => exact ⟨edge, none, by simpa using first, edges, nofun⟩
      | some version =>
          obtain ⟨stage, released, stages, complete⟩ :=
            Release.run_images services project version later
              ((messages.map fun message => .did (.wrote message)) ++ acts)
          refine ⟨edge, stage, ?_, edges, fun start member => ?_⟩
          · rw [startsBehind_append, first, List.nil_append]
            exact congrArg _ released
          · obtain ⟨images, lines, before⟩ := stages start member
            exact {
              pushed
              released := ⟨version, messages, matched, images⟩
              complete := complete.mp (Option.isSome_of_mem member)
              told := by
                rw [before, List.map_append, ← List.append_assoc]
                exact List.getLast?_concat
              passed := fun job known => by
                rw [before]
                exact (checked rfl job known).surround (wrote_spares messages job.name)
                  (wrote_spares _ job.name)
            }

/-- A push releases the version that is found in its ref behind a suite that passes. -/
theorem push_released {version : String} {notices : List Message}
    (found : services.tags.version? event.ref = .ok (some version, notices))
    (passed : ((checkSuite services event project).trace state).value = .ok (.ok ()))
    : let suite := (checkSuite services event project).trace state
      ((push services event project).trace state).acts
      = (notices.map fun notice => .did (.wrote notice)) ++ suite.acts
        ++ ((Release.run services project version).trace suite.state).acts := by
  intro suite
  have ended : (checkSuite services event project).trace state
      = ⟨.ok (.ok ()), suite.state, suite.acts⟩ := by rw [← passed]
  unfold push
  rw [found, Attempt.trace_bind_ok (Attempt.trace_liftExcept _ state)]
  simp only [Attempt.trace_write_bind, Trace.behind_acts, List.nil_append, Option.isNone_some,
    Bool.false_and, Bool.false_eq_true, if_false]
  rw [Attempt.trace_bind_ok ended, Trace.behind_acts, List.append_assoc]

/-- A push that mixes the edge with a release publishes both images: its suite passes on the
mainline, and what follows is the release.
-/
theorem push_mixed {version : String} {notices : List Message}
    (found : services.tags.version? event.ref = .ok (some version, notices))
    (mainline : event.branch? = some services.config.sources.mainline)
    (passed : ((checkSuite services event project).trace state).value = .ok (.ok ()))
    (complete : Release.missingSecrets services.config project = [])
    : (startsBehind Catalog.imagesName []
          ((push services event project).trace state).acts).map Prod.snd
      = [Catalog.publishImages services.config project "",
        Catalog.publishImages services.config project version] := by
  obtain ⟨edge, starts, edges, published⟩ :=
    checkSuite_images services event project state notices
  obtain ⟨first, rfl⟩ := Option.isSome_iff_exists.mp (published passed mainline)
  obtain ⟨stage, released, stages, missing⟩ := Release.run_images services project version
    ((checkSuite services event project).trace state).state
    ((notices.map fun notice => .did (.wrote notice))
      ++ ((checkSuite services event project).trace state).acts)
  obtain ⟨second, rfl⟩ := Option.isSome_iff_exists.mp (missing.mpr complete)
  rw [push_released services event project state found passed, startsBehind_append,
    startsBehind_append, (StartsNone.wrote notices).startsBehind]
  simp only [List.nil_append, starts, released, Option.toList_some, List.map_cons, List.map_nil,
    (edges first rfl).images, (stages second rfl).1, List.singleton_append]

/-- Requests other than pushes publish images for the edge alone, by cases on the handler. -/
theorem handler_images {kind : EventKind} (other : kind ≠ .push)
    : PublishesImages services event project
        ((handler services kind event project).trace state).acts := by
  have suite : ∀ spec ∈ Catalog.suite services.config, spec.name ≠ Catalog.imagesName :=
    fun spec member => (Suite.suite_ne_images services.config spec member).symm
  have spares := services.spares Catalog.imagesName
  obtain ⟨edge, starts, edges, _⟩ := checkSuite_images services event project state []
  have checked : PublishesImages services event project
      ((checkSuite services event project).trace state).acts :=
    ⟨edge, none, by simpa using starts, edges, nofun⟩
  have commented : PublishesImages services event project
      ((issueComment services event project).trace state).acts := by
    by_cases accepted : verdict services.platform services.config event = .ok .accepted
    · rw [issueComment_accepted services event project state accepted]
      exact checked
    · obtain ⟨_, messages, acts⟩ := issueComment_refused services event project state accepted
      rw [acts]
      exact .of_none (.wrote messages)
  cases kind with
  | push => exact absurd rfl other
  | exec => exact .of_none (.of_spares (exec_isOf spares suite event project state))
  | e2e => exact .of_none (.of_spares (e2e_isOf spares suite event project state))
  | checkRunRerequested =>
      exact .of_none (.of_spares (checkRun_isOf spares suite event project state))
  | checkSuiteRequested => exact checked
  | checkSuiteRerequested => exact checked
  | issueCommentCreated => exact commented
  | issueCommentEdited => exact commented

/-- Whatever an event asks for, images are published for the edge and for a release at most. -/
theorem dispatch_publishesImages
    : PublishesImages services event project
        (((router services).dispatch event project).trace state).acts := by
  rw [dispatch_eq]
  cases known : EventKind.ofText? event.kind with
  | none => exact .of_none (.wrote [Router.ignored event])
  | some kind =>
      dsimp only
      by_cases pushed : kind = .push
      · rw [pushed] at known ⊢
        exact push_images services event project state (EventKind.text_of_ofText? known).symm
      · exact handler_images services event project state pushed

end Requests

-----------------------------------------------------------------------------------------
-- Refs that are release tags and nothing else
-----------------------------------------------------------------------------------------

/-- The event does not mix the edge with a release: if its ref is taken for a release tag, it is not
of the mainline, and the version is not empty.
-/
def Unmixed (services : Services ε) (event : Event) : Prop :=
  ∀ version notices,
    services.tags.version? event.ref = .ok (some version, notices)
    → event.branch? ≠ some services.config.sources.mainline ∧ version ≠ ""

/-- Events do not mix where only tags are taken for release tags, with a version that is not empty.
-/
theorem Unmixed.of_tags {services : Services ε} {event : Event}
    (tags
      : ∀ version notices,
          services.tags.version? event.ref = .ok (some version, notices)
          → event.isTag = true ∧ version ≠ "")
    : Unmixed services event := by
  intro version notices found
  obtain ⟨tagged, some⟩ := tags version notices found
  exact ⟨by rw [branch?_of_isTag tagged]; nofun, some⟩

/-- The default pattern mixes no event: it takes only tags, and versions start with a letter. -/
theorem Unmixed.of_releases {services : Services ε} (releases : services.tags = TagMatcher.releases)
    (event : Event)
    : Unmixed services event := by
  refine .of_tags fun text notices found => ?_
  rw [releases] at found
  by_cases carries : ∃ version : ReleaseVersion, event.ref = Ref.tagStart ++ version.text
  · obtain ⟨version, same⟩ := carries
    rw [same, TagMatcher.version?_release] at found
    cases found
    refine ⟨Ref.isTag_iff.mpr ⟨_, same⟩, fun empty => ?_⟩
    have chars := version.toList_text
    rw [empty] at chars
    cases chars
  · rw [TagMatcher.version?_other (not_exists.mp carries)] at found
    cases found

/-- Images are published at most twice for an event: first for the edge, behind a suite of the
mainline that has passed, and then as the first stage of a release, for a push whose ref is taken
for a release tag. An event that does not mix the two publishes images at most once, and without a
version only for the edge. No event mixes them as long as only tags are taken for release tags and
all versions have characters, as it is by default; but a push of the mainline whose ref is taken for
a release tag publishes both if its suite passes and all secrets are there.
-/
theorem dispatch_images (services : Services ε) (event : Event) (project : Project) (state : ε)
    : let acts := (((router services).dispatch event project).trace state).acts
      let starts := startsBehind "build-and-publish-images" [] acts
      PublishesImages services event project acts
      ∧ (Unmixed services event
        → starts.length ≤ 1
          ∧ ∀ before spec,
              (before, spec) ∈ starts
              → spec.env.lookup "VERSION" = some ""
              → Suite.EdgeStart services event project before spec)
      ∧ ((∀ version notices,
            services.tags.version? event.ref = .ok (some version, notices)
            → event.isTag = true ∧ version ≠ "")
          → Unmixed services event)
      ∧ (services.tags = TagMatcher.releases → Unmixed services event)
      ∧ ∀ version notices,
          event.kind = "push"
          → services.tags.version? event.ref = .ok (some version, notices)
          → event.branch? = some services.config.sources.mainline
          → ((checkSuite services event project).trace state).value = .ok (.ok ())
          → Release.missingSecrets services.config project = []
          → starts.map Prod.snd
            = [Catalog.publishImages services.config project "",
              Catalog.publishImages services.config project version] := by
  intro acts starts
  have publishes : PublishesImages services event project acts :=
    dispatch_publishesImages services event project state
  refine ⟨publishes, fun unmixed => ?unmixed, .of_tags,
    fun releases => .of_releases releases event, ?mixed⟩
  case unmixed =>
    obtain ⟨edge, stage, split, edges, stages⟩ := publishes
    have listed : starts = edge.toList ++ stage.toList := split
    rw [listed]
    constructor
    · rcases edge with _ | edge
      · cases stage <;> simp
      rcases stage with _ | stage
      · simp
      -- both together would be of the mainline and of a release tag
      obtain ⟨version, notices, found, _⟩ := (stages stage rfl).released
      exact absurd (edges edge rfl).mainline (unmixed version notices found).1
    · intro before spec member empty
      rcases List.mem_append.mp member with inEdge | inStage
      · exact edges (before, spec) (Option.mem_toList.mp inEdge)
      · obtain ⟨version, notices, found, images⟩ :=
          (stages (before, spec) (Option.mem_toList.mp inStage)).released
        obtain rfl : spec = Catalog.publishImages services.config project version := images
        exact absurd (Option.some.inj empty) (unmixed version notices found).2
  case mixed =>
    intro version notices pushed found mainline passed complete
    have kind : event.kind = EventKind.push.text := pushed
    simp only [starts, acts, router_dispatch services kind project]
    exact push_mixed services event project state found mainline passed complete

/-- A push of the mainline. -/
def mainlinePush : Event := { kind := "push", ref := "refs/heads/master", buildId := "7" }

theorem dispatch_images_mainline
    : let services := { rehearsal with tags := TagMatcher.releases }
      let acts := (((router services).dispatch mainlinePush Release.equipped).trace ()).acts
      Unmixed services mainlinePush
      ∧ ∃ before,
          let images := Catalog.publishImages {} Release.equipped ""
          startsBehind "build-and-publish-images" [] acts = [(before, images)]
          ∧ Suite.EdgeStart services mainlinePush Release.equipped before images := by
  intro services acts
  obtain ⟨_, once, _, default, _⟩ := dispatch_images services mainlinePush Release.equipped ()
  have unmixed : Unmixed services mainlinePush := default rfl
  obtain ⟨_, edge⟩ := once unmixed
  have specs : (startsBehind "build-and-publish-images" [] acts).map Prod.snd
      = [Catalog.publishImages {} Release.equipped ""] := by
    rw [startsBehind_specs]
    decide +kernel
  obtain ⟨⟨before, _⟩, starts, rfl⟩ := List.map_eq_singleton_iff.mp specs
  have member : (before, Catalog.publishImages {} Release.equipped "")
      ∈ startsBehind "build-and-publish-images" [] acts := starts ▸ List.mem_singleton_self _
  exact ⟨unmixed, before, starts, edge before _ member rfl⟩

/-- A configuration file whose pattern takes every ref for a release tag. -/
def anyRefFiles : Files := fun _ =>
  .ok (Utf8.encode "release_tag_pattern = '(.*)'\n")

/-- An accepted pattern may take the mainline for a release tag: a push of it publishes images for
the edge and for a release. It may also find an empty version: a push that is not of the mainline
then publishes images without a version for a release.
-/
theorem dispatch_images_mixed
    : let config : Config := { tagPattern := "(.*)" }
      let bare : Event := { kind := "push" }
      Config.load .plain anyRefFiles (some "conductor.toml") = .ok (.ok config)
      ∧ bare.branch? = none
      ∧ ∃ services : Services Unit,
          let images (event : Event) :=
            ((((router services).dispatch event Release.equipped).trace ()).acts.filterMap
              Act.start?).filter fun spec => spec.name == "build-and-publish-images"
          Services.ofConfig .plain .fair config .dryRun .console = .ok services
          ∧ images mainlinePush
            = [Catalog.publishImages config Release.equipped "",
              Catalog.publishImages config Release.equipped "refs/heads/master"]
          ∧ images bare = [Catalog.publishImages config Release.equipped ""] := by
  intro config bare
  let services : Services Unit := {
    platform := .plain
    schedule := .fair
    config
    executor := .dryRun
    reporter := .console
    tags := ⟨"(.*)", .group 1 (.chars .notLineFeed 0 none .greedy), 1⟩
  }
  have accepted : Config.load .plain anyRefFiles (some "conductor.toml") = .ok (.ok config) := by
    decide +kernel
  have source
      : TagMatcher.ofSource Platform.plain.patterns config.tagPattern = .ok services.tags := by
    decide +kernel
  have made
      : Services.ofConfig .plain .fair config (.dryRun : Executor Unit) .console
        = .ok services := by
    rw [Services.ofConfig, source]
    rfl
  exact ⟨accepted, rfl, services, made, by decide +kernel, by decide +kernel⟩

end Handlers

end Conductor
