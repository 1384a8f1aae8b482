import Conductor.Proofs.EdgePublish
import Conductor.Proofs.RequestedCheck
import Conductor.Proofs.TagPatterns
import Conductor.Proofs.TemplateTexts

/-! When suites and requests for single checks are answered. Whatever becomes of jobs and reports is
a result, but the address of the build is shown first of all: with a template that refuses the build
the run breaks off before anything is started.
-/

namespace Conductor

variable {ε : Type}

/-- A run breaks off on the template of addresses: all it has done is to write one message. -/
structure BreaksOff {α : Type} (refusal : Template.Refusal) (state : ε)
    (trace : Trace Act ε (Except Fault α))
    : Prop where
  value : trace.value = .error (.template refusal)
  state : trace.state = state
  acts : ∃ message : Message, trace.acts = [.did (.wrote message)]

namespace Suite

section Answers

variable {services : Services ε} (executing : services.executor.Uncancelled)
  (reporting : services.reporter.Uncancelled) (event : Event) (project : Project) (state : ε)

include executing

include reporting

/-- Checks of jobs come to a result if the address of the build is shown. -/
theorem runChecks_value {specs : List JobSpec} (nonempty : specs ≠ []) {detailsUrl : String}
    (shown : services.detailsUrl event.buildId = .ok detailsUrl)
    : ∃ result,
        ((runChecks services (specs.map (Factory.ofJob services)) event project).trace state).value
        = .ok result := by
  rw [runChecks_trace services specs event project state shown, Trace.behind_value]
  obtain ⟨result, value, _⟩ :=
    Group.runAll_checks services.schedule reporting executing
      (check services event project detailsUrl) (fun _ => rfl) nonempty state
  exact ⟨result, value⟩

/-- A suite comes to the result of its checks if the address of the build is shown. -/
theorem run_value {detailsUrl : String}
    (shown : services.detailsUrl event.buildId = .ok detailsUrl)
    : ∃ result, ((run services event project).trace state).value = .ok result := by
  obtain ⟨result, checked⟩
    : ∃ result,
        ((runChecks services (factories services) event project).trace state).value
        = .ok result :=
    runChecks_value executing reporting event project state
      (List.cons_ne_nil _ _ : Catalog.suite services.config ≠ []) shown
  obtain ⟨_, _, value, _⟩ := run_around executing event project state checked
  exact ⟨result, value⟩

end Answers

end Suite

-----------------------------------------------------------------------------------------
-- Requests for single checks
-----------------------------------------------------------------------------------------

namespace CheckRequest

section Answers

variable {services : Services ε} (event : Event) (project : Project) (state : ε)

/-- A request for one check comes to a result if the address of the build is shown. -/
theorem run_value (executing : services.executor.Uncancelled)
    (reporting : services.reporter.Uncancelled) {detailsUrl : String}
    (shown : services.detailsUrl event.buildId = .ok detailsUrl) (name : Text)
    : ∃ result,
        ((run services (Suite.factories services) name event project).trace state).value
        = .ok result := by
  rcases known_or_other services.config name with ⟨spec, member, rfl⟩ | other
  · obtain ⟨result, value⟩
      : ∃ result,
          ((Suite.runChecks services [Factory.ofJob services spec] event project).trace
            state).value
          = .ok result :=
      Suite.runChecks_value executing reporting event project state (List.cons_ne_nil spec [])
        shown
    rw [run_suite services member event project state]
    exact ⟨result.mapError Failure.group, by simp only [value]; rfl⟩
  · rw [run_other services other event project state]
    exact ⟨_, rfl⟩

/-- A request for a check of the suite breaks off on a template that refuses the build. -/
theorem run_breaksOff {refusal : Template.Refusal}
    (refused : services.detailsUrl event.buildId = .error refusal) {spec : JobSpec}
    (member : spec ∈ Catalog.suite services.config)
    : BreaksOff refusal state
        ((run services (Suite.factories services) (Text.ofString spec.name) event project).trace
          state) := by
  rw [run_suite services member event project state,
    Suite.runChecks_refused services _ event project state refused]
  exact ⟨rfl, rfl, _, rfl⟩

end Answers

end CheckRequest

namespace Suite

/-- The addresses of builds decide whether suites and requests for single checks are answered. If
the address of a build is shown, all of them come to results, whatever becomes of jobs and reports.
If the template refuses the build, all of them break off before anything is started, but for
requests for checks that nobody knows. A build is shown exactly if each piece of the template has a
text for it, whatever attributes the platform has. A template that asks for no attribute and whose
fields do not stand in the formats of others shows every build if it shows the empty one; the
default template shows every build; and one with a field of another name shows none.
-/
theorem run_answers_iff_shown {services : Services ε} (executing : services.executor.Uncancelled)
    (reporting : services.reporter.Uncancelled) (event : Event) (project : Project) (state : ε)
    : let config := services.config
      let suite := (run services event project).trace state
      let requested (name : Text) :=
        (CheckRequest.run services (factories services) name event project).trace state
      let shows (buildId : String) := ∃ detailsUrl, services.detailsUrl buildId = .ok detailsUrl
      (shows event.buildId
        → (∃ result, suite.value = .ok result)
          ∧ ∀ name, ∃ result, (requested name).value = .ok result)
      ∧ (∀ refusal,
          services.detailsUrl event.buildId = .error refusal
          → BreaksOff refusal state suite
            ∧ ∀ name,
                ((∃ spec ∈ Catalog.suite config, Text.ofString spec.name = name)
                  ∧ BreaksOff refusal state (requested name))
                ∨ ((∀ spec ∈ Catalog.suite config, Text.ofString spec.name ≠ name)
                  ∧ requested name
                    = ⟨.ok (.error
                        (.unknownCheck name ((Catalog.suite config).map JobSpec.name))),
                      state, []⟩))
      ∧ (∀ buildId,
          shows buildId
          ↔ ∀ piece ∈ Template.piecesOf config.detailsTemplate,
              ∃ text,
                Template.pieceText services.platform.attributes buildId.toList 1 piece = .ok text)
      ∧ (Template.Flat config.detailsTemplate
        → Template.Plain config.detailsTemplate
        → shows ""
        → ∀ buildId, shows buildId)
      ∧ (config.detailsTemplate = defaultDetailsTemplate → ∀ buildId, shows buildId)
      ∧ ∀ field,
          .field field ∈ Template.piecesOf config.detailsTemplate
          → field.name.takeWhile (!Template.isAccess ·) ≠ Template.buildField.toList
          → ∀ buildId, ¬shows buildId := by
  intro config suite requested shows
  refine ⟨?shown, ?refused, ?pieces, ?flat, ?default, ?other⟩
  case shown =>
    intro ⟨detailsUrl, shown⟩
    exact ⟨run_value executing reporting event project state shown,
      CheckRequest.run_value event project state executing reporting shown⟩
  case refused =>
    intro refusal refused
    obtain ⟨message, broken⟩ := run_refused services event project state refused
    refine ⟨⟨congrArg Trace.value broken, congrArg Trace.state broken, message,
      congrArg Trace.acts broken⟩, fun name => ?_⟩
    by_cases known : ∃ spec ∈ Catalog.suite config, Text.ofString spec.name = name
    · obtain ⟨spec, member, rfl⟩ := known
      exact Or.inl ⟨⟨spec, member, rfl⟩,
        CheckRequest.run_breaksOff event project state refused member⟩
    · have other : ∀ spec ∈ Catalog.suite config, Text.ofString spec.name ≠ name :=
        fun spec member same => known ⟨spec, member, same⟩
      exact Or.inr ⟨other, CheckRequest.run_other services other event project state⟩
  case pieces => exact fun _ => Template.render_ok_iff
  case flat =>
    intro flat plain ⟨detailsUrl, shown⟩ buildId
    exact Template.render_of_empty flat plain shown buildId
  case default =>
    intro default buildId
    exact ⟨_, Config.detailsUrl_default default buildId⟩
  case other =>
    intro field member other buildId ⟨detailsUrl, shown⟩
    obtain ⟨refusal, refused⟩ := Template.render_of_other member other buildId
    cases shown.symm.trans refused

/-- The class of texts, as an attribute of theirs: it is shown, but takes no format. -/
def textClass : Template.Thing where
  shown := .ok "<class 'str'>".toList
  quoted := .ok "<class 'str'>".toList
  quotedAscii := .ok "<class 'str'>".toList
  formatted format :=
    if format.isEmpty then .ok "<class 'str'>".toList
    else .error (.raised "TypeError" "unsupported format string passed to type.__format__")

/-- A platform on which texts have their class for an attribute. -/
def classPlatform : Platform :=
  { Platform.plain with
    attributes := fun _ path =>
      if path = [.attribute "__class__"] then .ok (.thing textClass)
      else .error (.noAttribute (Platform.lastAttribute path)) }

/-- Services that show jobs, whose template of addresses asks for the class of builds. -/
def classServices : Services Unit :=
  { Handlers.rehearsal with
    platform := classPlatform
    config := { detailsTemplate := "https://ci.example/\x7bbuild_id.__class__\x7d" } }

/-- Services that show jobs, whose template of addresses sets builds to the right. -/
def paddedServices : Services Unit :=
  { Handlers.rehearsal with
    config := { detailsTemplate := "https://ci.example/\x7bbuild_id!s:>8\x7d" } }

/-- Padded builds are all shown, and so is the class of a build, where texts have one. -/
theorem run_answers_iff_shown_padded
    : paddedServices.executor.Uncancelled
      ∧ paddedServices.reporter.Uncancelled
      ∧ Template.Flat paddedServices.config.detailsTemplate
      ∧ Template.Plain paddedServices.config.detailsTemplate
      ∧ paddedServices.detailsUrl "" = .ok "https://ci.example/        "
      ∧ (∀ buildId,
          let event : Event := { mainlineEvent with buildId }
          ∃ result,
            ((run paddedServices event Release.equipped).trace ()).value = .ok result)
      ∧ classServices.detailsUrl mainlineEvent.buildId = .ok "https://ci.example/<class 'str'>"
      ∧ ∃ result,
          ((run classServices mainlineEvent Release.equipped).trace ()).value = .ok result := by
  have executing : paddedServices.executor.Uncancelled := Executor.dryRun_uncancelled
  have reporting : paddedServices.reporter.Uncancelled := Reporter.console_uncancelled
  have shown : paddedServices.detailsUrl "" = .ok "https://ci.example/        " := by
    decide +kernel
  have pieces
    : Template.piecesOf paddedServices.config.detailsTemplate
      = [.literal "https://ci.example/".toList,
          .field ⟨Template.buildField.toList, some 's', ">8".toList⟩, .literal []] := by
    decide +kernel
  have only : ∀ field,
      .field field ∈ Template.piecesOf paddedServices.config.detailsTemplate
      → field = ⟨Template.buildField.toList, some 's', ">8".toList⟩ := by
    intro field member
    simpa [pieces] using member
  have flat : Template.Flat paddedServices.config.detailsTemplate := by
    intro field member
    rw [only field member]
    decide +kernel
  have plain : Template.Plain paddedServices.config.detailsTemplate := by
    intro field member
    rw [only field member]
    decide +kernel
  have attributed
    : classServices.detailsUrl mainlineEvent.buildId = .ok "https://ci.example/<class 'str'>" := by
    decide +kernel
  refine ⟨executing, reporting, flat, plain, shown, fun buildId => ?_, attributed, ?_⟩
  · obtain ⟨answers, _, _, every, _⟩ :=
      run_answers_iff_shown executing reporting { mainlineEvent with buildId } Release.equipped ()
    exact (answers (every flat plain ⟨_, shown⟩ buildId)).1
  · have executing : classServices.executor.Uncancelled := Executor.dryRun_uncancelled
    have reporting : classServices.reporter.Uncancelled := Reporter.console_uncancelled
    exact ((run_answers_iff_shown executing reporting mainlineEvent Release.equipped ()).1
      ⟨_, attributed⟩).1

/-- A configuration file whose template of addresses has a field that is not the build's. -/
def otherFieldFiles : Files := fun _ =>
  .ok (Utf8.encode "details_url_template = 'https://ci.example/\x7bbuild\x7d'\n")

/-- The template of an accepted configuration is not tried before a suite runs, which then breaks
off, as do requests for single checks.
-/
theorem run_breaksOff_accepted
    : let config : Config := { detailsTemplate := "https://ci.example/\x7bbuild\x7d" }
      let event : Event := {
        kind := "check_suite:requested", ref := "refs/heads/topic", buildId := "7" }
      Config.load .plain otherFieldFiles (some "conductor.toml") = .ok (.ok config)
      ∧ ∃ services : Services Unit,
          Services.ofConfig .plain .fair config .dryRun .console = .ok services
          ∧ services.executor.Uncancelled
          ∧ services.reporter.Uncancelled
          ∧ ((run services event Release.equipped).trace ()).value
            = .error (.template (.unknownField "build"))
          ∧ ((CheckRequest.run services (factories services) (Text.ofString "test-go") event
              Release.equipped).trace ()).value
            = .error (.template (.unknownField "build")) := by
  intro config event
  let services : Services Unit := {
    platform := .plain
    schedule := .fair
    config
    executor := .dryRun
    reporter := .console
    tags := TagMatcher.releases
  }
  have made
    : Services.ofConfig .plain .fair config (.dryRun : Executor Unit) .console
      = .ok services := by
    have source
      : TagMatcher.ofSource Platform.plain.patterns config.tagPattern
        = .ok TagMatcher.releases :=
      TagMatcher.ofSource_default _
    rw [Services.ofConfig, source]
    rfl
  have refused : services.detailsUrl event.buildId = .error (.unknownField "build") := by
    decide +kernel
  have requested := CheckRequest.run_breaksOff event Release.equipped () refused
    (List.mem_cons_self : Catalog.goTest config ∈ Catalog.suite config)
  obtain ⟨message, broken⟩ := run_refused services event Release.equipped () refused
  have parsed
    : ((Config.parseFile .plain otherFieldFiles "conductor.toml").toOption.bind Except.toOption).map
        Config.ofTable
      = some config := by
    decide +kernel
  obtain ⟨table, read, same⟩ := Option.map_eq_some_iff.mp parsed
  have found : Config.parseFile .plain otherFieldFiles "conductor.toml" = .ok (.ok table) := by
    rcases file : Config.parseFile .plain otherFieldFiles "conductor.toml" with
      fault | error | other
    all_goals rw [file] at read; cases read
    rfl
  have accepted := Config.load_file_iff.mpr ⟨table, found, same, Config.tagProblem?_default .plain⟩
  exact ⟨accepted, services, made, Executor.dryRun_uncancelled, Reporter.console_uncancelled,
    congrArg Trace.value broken, requested.value⟩

end Suite

end Conductor
