import Conductor.Proofs.ImageStarts
import Conductor.Proofs.RequiredGroups
import Conductor.Proofs.SuiteAnswers

/-! What is said of pushes that are passed over. The matcher of release tags speaks for tags that it
does not match, and the handler for all refs that are no tags; a tag that is matched without a
version is spoken of by neither.
-/

namespace Conductor

variable {ε : Type}

-----------------------------------------------------------------------------------------
-- What is said of refs
-----------------------------------------------------------------------------------------

namespace TagMatcher

/-- A ref fits the pattern of a matcher: the pattern leads from before it to the end of it. -/
def Fits (matcher : TagMatcher) (ref : String) : Prop :=
  ∃ final, matcher.pattern.root.Leads [] (.start ref.toList) final ∧ final.after = []

section Versions

variable {matcher : TagMatcher} {ref : String}

/-- A ref that does not fit has no version, and is noticed if it is that of a tag. -/
theorem version?_of_not_fits (other : ¬matcher.Fits ref)
    : matcher.version? ref = .ok (none, if Ref.isTag ref then [matcher.notice ref] else []) := by
  have unmatched : matcher.pattern.root.fullMatch? ref.toList = none := by
    rw [← Option.not_isSome_iff_eq_none, Pattern.Node.fullMatch?_isSome_iff]
    exact other
  rw [version?, unmatched]

/-- Of a ref that fits nothing is said. It has a version if the pattern requires the first group. -/
theorem version?_of_fits (grouped : 0 < matcher.pattern.groupCount) (fits : matcher.Fits ref)
    : ∃ version,
        matcher.version? ref = .ok (version, [])
        ∧ (matcher.pattern.root.requires 1 = true → version ≠ none) := by
  obtain ⟨final, matched⟩ :=
    Option.isSome_iff_exists.mp (Pattern.Node.fullMatch?_isSome_iff.mpr fits)
  refine ⟨(final.group? 1).map String.ofList, ?_, ?_⟩
  · simp only [version?, matched, Nat.pos_iff_ne_zero.mp grouped, if_false]
  · intro required
    obtain ⟨text, captured⟩ := Pattern.Node.fullMatch?_captures required matched
    rw [captured]
    exact Option.some_ne_none _

/-- What is said of a ref without a version: a notice if it is that of a tag and does not fit. -/
theorem notices_of_none (grouped : 0 < matcher.pattern.groupCount) {notices : List Message}
    (found : matcher.version? ref = .ok (none, notices))
    : (matcher.Fits ref
        → notices = [] ∧ matcher.pattern.root.requires 1 = false)
      ∧ (¬matcher.Fits ref
        → notices = if Ref.isTag ref then [matcher.notice ref] else []) := by
  constructor
  · intro fits
    obtain ⟨version, answered, versioned⟩ := version?_of_fits grouped fits
    cases found.symm.trans answered
    exact ⟨rfl, Bool.eq_false_of_not_eq_true fun required => versioned required rfl⟩
  · intro other
    cases found.symm.trans (version?_of_not_fits other)
    rfl

end Versions

theorem releases_requires : releases.pattern.root.requires 1 = true := by decide

/-- An accepted configuration has a matcher, the pattern of which has a group. -/
theorem ofSource_of_load {platform : Platform} {files : Files} {path : Option String}
    {config : Config} (accepted : Config.load platform files path = .ok (.ok config))
    : ∃ tags,
        ofSource platform.patterns config.tagPattern = .ok tags
        ∧ 0 < tags.pattern.groupCount := by
  obtain ⟨pattern, read, grouped⟩ :=
    Config.tagProblem?_eq_none_iff.mp (Config.tagProblem?_of_load accepted)
  refine ⟨⟨pattern⟩, ?_, grouped⟩
  rw [ofSource, read]

end TagMatcher

/-- The services of a configuration are those with the matcher of its pattern. -/
theorem Services.ofConfig_iff {platform : Platform} {schedule : Schedule} {config : Config}
    {executor : Executor ε} {reporter : Reporter ε} {services : Services ε}
    : ofConfig platform schedule config executor reporter = .ok services
      ↔ ∃ tags,
          TagMatcher.ofSource platform.patterns config.tagPattern = .ok tags
          ∧ services = { platform, schedule, config, executor, reporter, tags } := by
  unfold ofConfig
  cases source : TagMatcher.ofSource platform.patterns config.tagPattern with
  | error fault => simp [bind, Except.bind]
  | ok tags => simp [bind, Except.bind, pure, Except.pure, eq_comm]

-----------------------------------------------------------------------------------------
-- Pushes
-----------------------------------------------------------------------------------------

namespace Handlers

/-- A push is passed over: it succeeds, and all that is done is to say why. That is said by the
notice on a tag that does not fit, or of any ref that is no tag; and of a tag that fits nothing is
said at all.
-/
structure PassedOver (services : Services ε) (event : Event) (state : ε)
    (trace : Trace Act ε (Except Fault (Except Failure Unit)))
    : Prop where
  value : trace.value = .ok (.ok ())
  state : trace.state = state
  unfit
    : event.isTag = true
      → ¬services.tags.Fits event.ref
      → trace.acts = [.did (.wrote (services.tags.notice event.ref))]
  untagged : event.isTag = false → trace.acts = [.did (.wrote (nothingToDo event))]
  silent : event.isTag = true → services.tags.Fits event.ref → trace.acts = []

section Push

variable {services : Services ε} {event : Event} {version : Option String} {notices : List Message}
  (project : Project) (state : ε)

/-- A push without a version that is not of the mainline comes to messages alone: what the matcher
says of its ref and, unless this is a tag, that there is nothing to do.
-/
theorem push_skips (found : services.tags.version? event.ref = .ok (none, notices))
    (aside : Suite.isMainline services.config event = false)
    : (push services event project).trace state
      = ⟨.ok (.ok ()), state,
          (notices ++ if event.isTag then [] else [nothingToDo event]).map fun message =>
            .did (.wrote message)⟩ := by
  unfold push
  rw [found, Attempt.trace_bind_ok (Attempt.trace_liftExcept _ state)]
  simp only [Attempt.trace_write_bind, aside, Option.isNone_none, Bool.not_false, Bool.and_self,
    if_true]
  cases event.isTag with
  | true =>
      rw [if_pos rfl, List.append_nil]
      exact congrArg (Trace.mk _ _) (List.append_nil _)
  | false =>
      rw [if_neg Bool.false_ne_true, List.map_append]
      rfl

/-- A push with a version or of the mainline starts the jobs of the suite first of all, if the
address of the build can be shown.
-/
theorem push_starts (found : services.tags.version? event.ref = .ok (version, notices))
    (due : version ≠ none ∨ Suite.isMainline services.config event = true) {detailsUrl : String}
    (shown : services.detailsUrl event.buildId = .ok detailsUrl)
    : Catalog.suite services.config
      <+: ((push services event project).trace state).acts.filterMap Act.start? := by
  have suite
    : Catalog.suite services.config
      <+: ((checkSuite services event project).trace state).acts.filterMap Act.start? := by
    unfold checkSuite
    rw [ofGroup_trace, Suite.run_starts_eq services event project state shown]
    exact List.prefix_append _ _
  have runs : ¬(version.isNone && !Suite.isMainline services.config event) = true := by
    rcases due with versioned | mainline
    · simp [versioned]
    · simp [mainline]
  have quiet
    : (notices.map fun message => Act.did (.wrote message)).filterMap Act.start? = [] :=
    Act.filterMap_wrote (fun _ => rfl) notices
  unfold push
  rw [found, Attempt.trace_bind_ok (Attempt.trace_liftExcept _ state)]
  simp only [Attempt.trace_write_bind, if_neg runs, Trace.behind_acts, List.nil_append,
    List.filterMap_append, quiet]
  -- What follows the suite comes behind it, if anything does.
  rcases Attempt.trace_bind_cases (checkSuite services event project) _ state with
    ⟨_, _, ended⟩ | ⟨_, _, ended⟩
  · rw [ended]
    exact suite
  · rw [ended, Trace.behind_acts, List.filterMap_append]
    exact suite.trans (List.prefix_append _ _)

end Push

section Dropped

variable {services : Services ε} (grouped : 0 < services.tags.pattern.groupCount) {event : Event}
  (project : Project) (state : ε)

include grouped

/-- A push without a version that is not of the mainline is passed over, by cases on its ref. -/
theorem push_passedOver {notices : List Message}
    (found : services.tags.version? event.ref = .ok (none, notices))
    (aside : Suite.isMainline services.config event = false)
    : PassedOver services event state ((push services event project).trace state) := by
  obtain ⟨fitting, other⟩ := TagMatcher.notices_of_none grouped found
  rw [push_skips project state found aside]
  exact {
    value := rfl
    state := rfl
    unfit := by
      intro tagged unfit
      have tag : Ref.isTag event.ref = true := tagged
      rw [other unfit, tagged, tag]
      rfl
    untagged := by
      intro untagged
      have bare : Ref.isTag event.ref = false := untagged
      by_cases fits : services.tags.Fits event.ref
      · rw [(fitting fits).1, untagged]
        rfl
      · rw [other fits, untagged, bare]
        rfl
    silent := by
      intro tagged fits
      rw [(fitting fits).1, tagged]
      rfl
  }

/-- A push that has no version and is not of the mainline starts no job, and no other push starts
none if the address of the build can be shown.
-/
theorem push_idle_iff {detailsUrl : String}
    (shown : services.detailsUrl event.buildId = .ok detailsUrl)
    : ((push services event project).trace state).acts.filterMap Act.start? = []
      ↔ (∃ notices, services.tags.version? event.ref = .ok (none, notices))
        ∧ event.branch? ≠ some services.config.sources.mainline := by
  have answered : ∃ version notices,
      services.tags.version? event.ref = .ok (version, notices) := by
    by_cases fits : services.tags.Fits event.ref
    · obtain ⟨version, found, _⟩ := TagMatcher.version?_of_fits grouped fits
      exact ⟨version, [], found⟩
    · exact ⟨none, _, TagMatcher.version?_of_not_fits fits⟩
  obtain ⟨version, notices, found⟩ := answered
  have mainline
    : Suite.isMainline services.config event = true
      ↔ event.branch? = some services.config.sources.mainline := beq_iff_eq
  constructor
  · intro idle
    have aside : ¬(version ≠ none ∨ Suite.isMainline services.config event = true) := by
      intro due
      have started := push_starts project state found due shown
      rw [idle, List.prefix_nil] at started
      exact List.cons_ne_nil _ _ started
    obtain ⟨none, aside⟩ := not_or.mp aside
    rw [not_not] at none
    exact ⟨⟨notices, none ▸ found⟩, fun same => aside (mainline.mpr same)⟩
  · rintro ⟨⟨notices, none⟩, aside⟩
    rw [push_skips project state none (Bool.eq_false_of_not_eq_true fun same =>
      aside (mainline.mp same))]
    exact Act.filterMap_wrote (fun _ => rfl) _

end Dropped

/-- No push is passed over in silence but for tags that fit the pattern without its first group.

With a configuration that is accepted, a push starts no job exactly if no version is found in its
ref and it is not of the mainline, as long as the address of the build can be shown. It then
succeeds and changes nothing. The notice is written on a tag that does not fit the pattern, and the
note that there is nothing to do on every ref that is no tag; but on a tag that fits, while the
first group takes no part, nothing is written. That does not happen with a pattern that requires its
first group, as the default pattern does.
-/
theorem push_notices {platform : Platform} {files : Files} {path : Option String} {config : Config}
    (accepted : Config.load platform files path = .ok (.ok config)) (schedule : Schedule)
    (executor : Executor ε) (reporter : Reporter ε)
    : ∃ services,
        Services.ofConfig platform schedule config executor reporter = .ok services
        ∧ services.config = config
        ∧ (config.tagPattern = defaultTagPattern → services.tags.pattern.root.requires 1 = true)
        ∧ ∀ event project state,
            (∃ detailsUrl, services.detailsUrl event.buildId = .ok detailsUrl)
            → let trace := (push services event project).trace state
              let idle := trace.acts.filterMap Act.start? = []
              let unversioned := ∃ notices, services.tags.version? event.ref = .ok (none, notices)
              (idle ↔ unversioned ∧ event.branch? ≠ some config.sources.mainline)
              ∧ (idle → PassedOver services event state trace)
              ∧ (trace.acts = []
                ↔ unversioned ∧ event.isTag = true ∧ services.tags.Fits event.ref)
              ∧ (services.tags.pattern.root.requires 1 = true
                → idle
                → ∃ message, trace.acts = [.did (.wrote message)]) := by
  obtain ⟨tags, source, grouped⟩ := TagMatcher.ofSource_of_load accepted
  let services : Services ε := { platform, schedule, config, executor, reporter, tags }
  refine ⟨services, Services.ofConfig_iff.mpr ⟨_, source, rfl⟩, rfl, ?default, ?pushes⟩
  case default =>
    intro default
    rw [default, TagMatcher.ofSource_default] at source
    cases source
    exact TagMatcher.releases_requires
  intro event project state shown
  obtain ⟨detailsUrl, shown⟩ := shown
  intro trace idle unversioned
  have idle_iff : idle ↔ unversioned ∧ event.branch? ≠ some config.sources.mainline :=
    push_idle_iff grouped project state shown
  have passed (none : idle) : PassedOver services event state trace := by
    obtain ⟨⟨notices, found⟩, aside⟩ := idle_iff.mp none
    refine push_passedOver grouped project state found ?_
    exact Bool.eq_false_of_not_eq_true fun same => aside (beq_iff_eq.mp same)
  -- What is said of a push that is passed over, by cases on its ref.
  have said (none : idle)
    : (∃ message, trace.acts = [.did (.wrote message)])
      ∨ event.isTag = true ∧ services.tags.Fits event.ref := by
    cases tagged : event.isTag with
    | false => exact .inl ⟨_, (passed none).untagged tagged⟩
    | true =>
        by_cases fits : services.tags.Fits event.ref
        · exact .inr ⟨rfl, fits⟩
        · exact .inl ⟨_, (passed none).unfit tagged fits⟩
  refine ⟨idle_iff, passed, ⟨fun silent => ?_, ?_⟩, fun required none => ?_⟩
  · have none : idle := by
      dsimp only [idle]
      rw [silent]
      rfl
    rcases said none with ⟨message, told⟩ | fits
    · cases silent.symm.trans told
    · exact ⟨(idle_iff.mp none).1, fits⟩
  · rintro ⟨unversioned, tagged, fits⟩
    refine (passed (idle_iff.mpr ⟨unversioned, ?_⟩)).silent tagged fits
    rw [branch?_of_isTag tagged]
    exact Option.some_ne_none _ ∘ Eq.symm
  · rcases said none with told | ⟨_, fits⟩
    · exact told
    · obtain ⟨⟨notices, found⟩, _⟩ := idle_iff.mp none
      obtain ⟨fitting, _⟩ := TagMatcher.notices_of_none grouped found
      rw [(fitting fits).2] at required
      cases required

/-- A configuration whose pattern takes nightly builds for release tags, without a version. -/
def nightlyConfig : Config := { tagPattern := "refs/tags/(?:nightly|(v.+))" }

/-- The file of this configuration. -/
def nightlyFiles : Files := fun _ =>
  .ok (Utf8.encode "release_tag_pattern = 'refs/tags/(?:nightly|(v.+))'\n")

theorem load_nightly
    : Config.load .plain nightlyFiles (some "conductor.toml") = .ok (.ok nightlyConfig) := by
  decide +kernel

theorem nightly_version? {tags : TagMatcher}
    (source : TagMatcher.ofSource Platform.plain.patterns nightlyConfig.tagPattern = .ok tags)
    : tags.pattern.groupCount = 1
      ∧ tags.version? "refs/tags/nightly" = .ok (none, [])
      ∧ tags.version? "refs/tags/latest" = .ok (none, [tags.notice "refs/tags/latest"])
      ∧ tags.version? "" = .ok (none, []) := by
  have tried
    : ∀ tags ∈ (TagMatcher.ofSource Platform.plain.patterns nightlyConfig.tagPattern).toOption,
        tags.pattern.groupCount = 1
        ∧ tags.version? "refs/tags/nightly" = .ok (none, [])
        ∧ tags.version? "refs/tags/latest" = .ok (none, [tags.notice "refs/tags/latest"])
        ∧ tags.version? "" = .ok (none, []) := by
    decide +kernel
  exact tried tags (by rw [source]; rfl)

def pushOf (ref : String) : Event := { kind := "push", ref, buildId := "7" }

theorem push_notices_nightly
    : Config.load .plain nightlyFiles (some "conductor.toml") = .ok (.ok nightlyConfig)
      ∧ ∃ services : Services Unit,
          let acts ref := ((push services (pushOf ref) Release.equipped).trace ()).acts
          Services.ofConfig .plain .fair nightlyConfig .dryRun .console = .ok services
          ∧ (∃ detailsUrl, services.detailsUrl "7" = .ok detailsUrl)
          ∧ acts "refs/tags/latest"
            = [.did (.wrote (services.tags.notice "refs/tags/latest"))]
          ∧ acts "" = [.did (.wrote (.dim "push to ?: nothing to do"))]
          ∧ (acts "master").filterMap Act.start? ≠ [] := by
  obtain ⟨services, made, _, _, pushes⟩ :=
    push_notices load_nightly .fair (.dryRun : Executor Unit) .console
  obtain ⟨tags, source, rfl⟩ := Services.ofConfig_iff.mp made
  have shown
    : ∃ detailsUrl,
        nightlyConfig.detailsUrl Platform.plain.attributes "7" = .ok detailsUrl :=
    ⟨_, Config.detailsUrl_default rfl "7"⟩
  obtain ⟨groups, _, latest, bare⟩ := nightly_version? source
  have grouped : 0 < tags.pattern.groupCount := groups ▸ Nat.one_pos
  have unfit : ¬tags.Fits "refs/tags/latest" := by
    intro fits
    obtain ⟨fitting, _⟩ := TagMatcher.notices_of_none grouped latest
    cases (fitting fits).1
  refine ⟨load_nightly, _, made, shown, ?latest, ?bare, ?mainline⟩
  case latest =>
    obtain ⟨idle_iff, passed, _⟩ := pushes (pushOf "refs/tags/latest") Release.equipped () shown
    have idle := idle_iff.mpr ⟨⟨_, latest⟩, by decide +kernel⟩
    exact (passed idle).unfit (by decide +kernel) unfit
  case bare =>
    obtain ⟨idle_iff, passed, _⟩ := pushes (pushOf "") Release.equipped () shown
    have idle := idle_iff.mpr ⟨⟨_, bare⟩, by decide +kernel⟩
    exact (passed idle).untagged (by decide +kernel)
  case mainline =>
    obtain ⟨idle_iff, _⟩ := pushes (pushOf "master") Release.equipped () shown
    intro none
    exact (idle_iff.mp none).2 (by decide +kernel)

/-- A push of a tag that is matched without a version is passed over in silence. -/
theorem push_unnoticed
    : let event := pushOf "refs/tags/nightly"
      Config.load .plain nightlyFiles (some "conductor.toml") = .ok (.ok nightlyConfig)
      ∧ ∃ services : Services Unit,
          Services.ofConfig .plain .fair nightlyConfig .dryRun .console = .ok services
          ∧ (∃ detailsUrl, services.detailsUrl event.buildId = .ok detailsUrl)
          ∧ (push services event Release.equipped).trace () = ⟨.ok (.ok ()), (), []⟩ := by
  intro event
  obtain ⟨tags, source, _⟩ := TagMatcher.ofSource_of_load load_nightly
  obtain ⟨_, silent, _⟩ := nightly_version? source
  refine ⟨load_nightly, _, Services.ofConfig_iff.mpr ⟨_, source, rfl⟩,
    ⟨_, Config.detailsUrl_default rfl "7"⟩, ?_⟩
  have aside : Suite.isMainline nightlyConfig event = false := by decide +kernel
  have tagged : event.isTag = true := by decide +kernel
  rw [push_skips Release.equipped () silent aside, tagged]
  rfl

end Handlers

end Conductor
