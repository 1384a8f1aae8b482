import Conductor.Config.Load
import Conductor.Proofs.PatternGroups
import Conductor.Proofs.ReleaseGrammar
import Conductor.Services

/-! Patterns of release tags in configurations. A configuration is accepted only with a pattern that
can be read and that has a first group; so its services can be made, and every ref can be matched.
-/

namespace Conductor

variable {ε : Type}

-----------------------------------------------------------------------------------------
-- One group of each number
-----------------------------------------------------------------------------------------

namespace Pattern

theorem count_numbers {node : Node} (index : Nat)
    : node.numbers.count index = (node.groups.filter fun group => group.1 == index).length := by
  rw [Node.numbers, List.count_eq_countP, List.countP_map, List.countP_eq_length_filter]
  rfl

/-- A pattern that is read has one group of each number up to the number of its groups, and no
other groups.
-/
theorem parse_group {engine : Engine} {source : String} {pattern : Pattern}
    (read : parse engine source = .ok pattern)
    {index : Nat} (positive : 0 < index) (within : index ≤ pattern.groupCount)
    : ∃ body, pattern.root.groups.filter (fun group => group.1 == index) = [(index, body)] := by
  have once : pattern.root.numbers.count index = 1 := by
    rw [(parse_numbers read).count_eq]
    exact List.count_eq_one_of_mem List.nodup_range' (by rw [List.mem_range'_1]; omega)
  rw [count_numbers] at once
  obtain ⟨⟨number, body⟩, only⟩ := List.length_eq_one_iff.mp once
  have member : (number, body) ∈ pattern.root.groups.filter fun group => group.1 == index := by
    rw [only]
    exact List.mem_singleton_self _
  obtain rfl : number = index := eq_of_beq (List.mem_filter.mp member).2
  exact ⟨body, only⟩

end Pattern

-----------------------------------------------------------------------------------------
-- Accepted configurations
-----------------------------------------------------------------------------------------

namespace Config

/-- A pattern has no problem exactly if it can be read and has a group. -/
theorem tagProblem?_eq_none_iff {platform : Platform} {source : String}
    : tagProblem? platform source = .ok none
      ↔ ∃ pattern,
          Pattern.parse platform.patterns source = .ok pattern ∧ 0 < pattern.groupCount := by
  unfold tagProblem?
  cases read : Pattern.parse platform.patterns source with
  | error refusal => cases refusal <;> simp
  | ok pattern => simp [Nat.pos_iff_ne_zero]

theorem tagProblem?_default (platform : Platform)
    : tagProblem? platform defaultTagPattern = .ok none :=
  tagProblem?_eq_none_iff.mpr ⟨_, Pattern.parse_default platform.patterns, Nat.one_pos⟩

/-- A file is accepted exactly if it is read as a table whose pattern has no problem, by cases on
what becomes of the file and of the pattern.
-/
theorem load_file_iff {platform : Platform} {files : Files} {path : String} {config : Config}
    : load platform files (some path) = .ok (.ok config)
      ↔ ∃ table,
          parseFile platform files path = .ok (.ok table)
          ∧ ofTable table = config
          ∧ tagProblem? platform config.tagPattern = .ok none := by
  rcases parsed : parseFile platform files path with fault | error | table
  · simp [load, parsed, bind, Except.bind]
  · simp [load, parsed, bind, Except.bind]
  rcases tried : tagProblem? platform (ofTable table).tagPattern with fault | _ | problem
  all_goals
    simp only [load, parsed, tried, bind, Except.bind, Except.ok.injEq, reduceCtorEq, false_iff,
      not_and, exists_eq_left']
  · intro same
    rw [← same, tried]
    nofun
  · constructor
    · intro same
      exact ⟨same, same ▸ tried⟩
    · intro ⟨same, _⟩
      exact same
  · intro same
    rw [← same, tried]
    nofun

/-- A configuration that is accepted has a pattern without problems.
Witness: the default pattern is read with one group; that of a file is tried before the file is
accepted.
-/
theorem tagProblem?_of_load {platform : Platform} {files : Files} {path : Option String}
    {config : Config} (accepted : load platform files path = .ok (.ok config))
    : tagProblem? platform config.tagPattern = .ok none := by
  cases path with
  | none =>
      cases accepted
      exact tagProblem?_default platform
  | some path =>
      obtain ⟨table, _, _, sound⟩ := load_file_iff.mp accepted
      exact sound

end Config

-----------------------------------------------------------------------------------------
-- Versions
-----------------------------------------------------------------------------------------

/-- A version is captured from a ref: the pattern leads from before the ref to a place behind it, at
which the version is noted of the first group. It is a stretch of the ref that the body of this
group leads across.
-/
structure TagMatcher.Captures (matcher : TagMatcher) (body : Pattern.Node) (ref version : String)
    : Prop where
  matched
    : ∃ final,
        matcher.pattern.root.Leads [] (.start ref.toList) final
        ∧ final.after = []
        ∧ final.group? 1 = some version.toList
  stretch
    : ∃ opened first last,
        body.Leads ((1, first.position) :: opened) first last
        ∧ first.Within ref.toList
        ∧ last.Within ref.toList
        ∧ ref.toList = first.before.reverse ++ version.toList ++ last.after

/-- A pattern with groups gives an answer for every ref, and no version that it does not capture. -/
theorem TagMatcher.version?_captures {matcher : TagMatcher}
    (grouped : 0 < matcher.pattern.groupCount) {body : Pattern.Node}
    (only : matcher.pattern.root.groups.filter (fun group => group.1 == 1) = [(1, body)])
    (ref : String)
    : ∃ version messages,
        matcher.version? ref = .ok (version, messages)
        ∧ ∀ text, version = some text → matcher.Captures body ref text := by
  unfold version?
  cases matched : matcher.pattern.root.fullMatch? ref.toList with
  | none => exact ⟨none, _, rfl, nofun⟩
  | some final =>
      refine ⟨(final.group? 1).map String.ofList, [], ?_, ?_⟩
      · simp only [Nat.pos_iff_ne_zero.mp grouped, if_false]
      · intro version noted
        obtain ⟨text, captured, rfl⟩ := Option.map_eq_some_iff.mp noted
        obtain ⟨leads, finished⟩ := Pattern.Node.fullMatch?_leads matched
        obtain ⟨first, last, spans, split⟩ := Pattern.Node.fullMatch?_spans matched captured
        obtain ⟨other, opened, known, crossed⟩ := spans.crossed
        have same : (1, other) ∈ matcher.pattern.root.groups.filter fun group => group.1 == 1 :=
          List.mem_filter.mpr ⟨known, rfl⟩
        rw [only, List.mem_singleton] at same
        cases same
        rw [← String.toList_ofList (l := text)] at captured split
        exact {
          matched := ⟨final, leads, finished, captured⟩
          stretch := ⟨opened, first, last, crossed, spans.first, spans.last, split⟩
        }

namespace Services

/-- The services of an accepted configuration can be made, and match every ref. Their pattern has
one group of the first number; a version that they find is what this group captures in a match of
the whole of the ref, and so a stretch of it.
-/
theorem ofConfig_matches {platform : Platform} {files : Files} {path : Option String}
    {config : Config} (accepted : Config.load platform files path = .ok (.ok config))
    (schedule : Schedule) (executor : Executor ε) (reporter : Reporter ε)
    : ∃ services body,
        ofConfig platform schedule config executor reporter = .ok services
        ∧ services.platform = platform
        ∧ services.schedule = schedule
        ∧ services.config = config
        ∧ services.executor = executor
        ∧ services.reporter = reporter
        ∧ Pattern.parse platform.patterns config.tagPattern = .ok services.tags.pattern
        ∧ services.tags.pattern.root.groups.filter (fun group => group.1 == 1) = [(1, body)]
        ∧ ∀ ref,
            ∃ version messages,
              services.tags.version? ref = .ok (version, messages)
              ∧ ∀ text, version = some text → services.tags.Captures body ref text := by
  obtain ⟨pattern, read, grouped⟩ :=
    Config.tagProblem?_eq_none_iff.mp (Config.tagProblem?_of_load accepted)
  obtain ⟨body, only⟩ := Pattern.parse_group read Nat.one_pos grouped
  have source : TagMatcher.ofSource platform.patterns config.tagPattern = .ok ⟨pattern⟩ := by
    rw [TagMatcher.ofSource, read]
  refine ⟨{ platform, schedule, config, executor, reporter, tags := ⟨pattern⟩ }, body, ?_, rfl, rfl,
    rfl, rfl, rfl, read, only, ?_⟩
  · rw [ofConfig, source]
    rfl
  · exact TagMatcher.version?_captures grouped only

/-- A configuration file whose pattern captures a version in an option with a name, and has another
group beside it.
-/
def optionFiles : Files := fun _ =>
  .ok (Utf8.encode "release_tag_pattern = '(?:v(?P<n>\\d+))?|(x)'\n")

/-- Of two refs that are matched, the first group takes part in the match of one only. -/
theorem ofConfig_matches_option
    : let config : Config := { tagPattern := "(?:v(?P<n>\\d+))?|(x)" }
      Config.load .plain optionFiles (some "conductor.toml") = .ok (.ok config)
      ∧ ∃ (services : Services Unit) (body : Pattern.Node),
          ofConfig .plain .fair config .dryRun .console = .ok services
          ∧ services.tags.version? "v12" = .ok (some "12", [])
          ∧ services.tags.Captures body "v12" "12"
          ∧ services.tags.version? "x" = .ok (none, []) := by
  intro config
  have accepted : Config.load .plain optionFiles (some "conductor.toml") = .ok (.ok config) := by
    decide +kernel
  obtain ⟨services, body, made, _, _, _, _, _, read, _, answers⟩ :=
    ofConfig_matches accepted .fair (.dryRun : Executor Unit) .console
  have versions : ∀ ref version,
      (Pattern.parse Platform.plain.patterns config.tagPattern).toOption.map
          (fun pattern => (TagMatcher.version? ⟨pattern⟩ ref).toOption)
        = some (some (version, []))
      → services.tags.version? ref = .ok (version, []) := by
    intro ref version found
    rw [read] at found
    rcases answered : services.tags.version? ref with fault | answer
    · simp [Except.toOption, answered] at found
    · simpa [Except.toOption, answered] using found
  have captured : services.tags.version? "v12" = .ok (some "12", []) :=
    versions "v12" (some "12") (by decide +kernel)
  obtain ⟨version, messages, answered, captures⟩ := answers "v12"
  cases captured.symm.trans answered
  exact ⟨accepted, services, body, made, captured, captures "12" rfl,
    versions "x" none (by decide +kernel)⟩

end Services

end Conductor
