import Conductor.Job.Catalog
import Conductor.Proofs.ReleaseGrammar
import Conductor.Proofs.ShellQuoting

/-! The words that release tags become a part of. A tag is put into the tasks of a release as it is
written, at some places outside quotes and at others within them. Whether it brings along characters
that a shell does not take as they are depends on the prerelease alone, which may be any line.
-/

namespace Conductor

open Shell (Inert Quoting)

theorem Shell.isActive_of_isDigit {c : Char} (digit : c.isDigit = true) : isActive c = false := by
  have notControl : controls.contains c = false := by
    rw [Bool.eq_false_iff]
    intro member
    rw [List.contains_iff_mem] at member
    simp only [controls, List.mem_cons, List.not_mem_nil, or_false] at member
    rcases member with rfl | rfl | rfl | rfl | rfl | rfl | rfl | rfl | rfl | rfl | rfl | rfl
    all_goals exact absurd digit (by decide)
  have notBlank : Text.isBlank c = false := by
    simp only [Char.isDigit, Bool.and_eq_true, decide_eq_true_eq, UInt32.le_iff_toNat_le] at digit
    have lower : 48 ≤ c.toNat := digit.1
    have upper : c.toNat ≤ 57 := digit.2
    simp only [Text.isBlank, Text.isBlankCode, Bool.or_eq_false_iff, Bool.and_eq_false_iff,
      decide_eq_false_iff_not, beq_eq_false_iff_ne]
    omega
  rw [isActive, notBlank, notControl]
  rfl

namespace ReleaseVersion

variable (version : ReleaseVersion)

/-- The numbers of a version are digits and full stops, which are inert. -/
theorem inert_numeric : Inert version.numeric := by
  intro c member
  rcases version.isDigit_or_stop_of_mem_numeric member with digit | rfl
  · exact Shell.isActive_of_isDigit digit
  · decide

/-- A version is inert exactly if its prerelease is, by cases on whether it has one. -/
theorem inert_text_iff
    : Inert version.text.toList ↔ Inert (version.prerelease.getD []) := by
  rw [toList_text, Shell.inert_cons, Shell.inert_append, tail]
  have letter : Shell.isActive 'v' = false := by decide
  have hyphen : Shell.isActive '-' = false := by decide
  cases version.prerelease <;> simp [letter, hyphen, version.inert_numeric]

end ReleaseVersion

/-- The name of a project is a part of its full name. -/
theorem Project.inert_name {project : Project} (inert : Inert project.repoName.toList)
    : Inert project.name.toList := by
  have before : Inert (project.repoName.toList.takeWhile (· != '/')) :=
    inert.of_subset (List.takeWhile_sublist _).subset
  unfold name Text.cutAt
  cases behind : project.repoName.toList.dropWhile (· != '/') with
  | nil => simpa [behind] using before
  | cons slash rest =>
      have part : rest ⊆ project.repoName.toList := fun c member =>
        (List.dropWhile_sublist _).subset (behind ▸ List.mem_cons_of_mem slash member)
      simpa [behind] using inert.of_subset part

namespace Catalog

/-- The tasks of a release in pieces, between which the tag is put. -/
def releasePieces (config : Config) (project : Project) : List (List String) := [
  ["go get -u github.com/tcnksm/ghr"],
  ["cd " ++ config.sources.localPath],
  ["VERSION=", " make build-brig"],
  ["last_tag=$(git describe --tags ", "^ --abbrev=0 --always)"],
  ["ghr -u \"$GITHUB_USER\" -r \"$GITHUB_REPO\" -n \"" ++ project.name ++ " ",
    "\" -b \"" ++ releaseNotes ++ "\" ",
    " bin"],
  ["echo \"Release is at " ++ "https://github.com/" ++ project.repoName ++ "/releases/tag/", "\""]]

variable (config : Config) (project : Project)

theorem release_tasks (tag : String)
    : (release config project tag).tasks
      = (releasePieces config project).map fun pieces => tag.intercalate pieces := by
  refine List.map_injective_iff.mpr (fun _ _ same => String.toList_injective same) ?_
  unfold release releasePieces releaseUrl
  simp only [List.map_cons, List.map_nil, String.toList_intercalate, List.intercalate_cons_cons,
    List.intercalate_singleton, String.toList_append, List.append_assoc]

/-- The active characters of the tasks of a release. -/
def releaseActives (tag : String) : List (List Char) :=
  (release config project tag).tasks.map fun task => Shell.actives task.toList

/-- A tag adds no active character to the tasks of its release exactly if it is inert.
Witness: inert text adds none to any task, and the third task is two pieces with the tag in between.
-/
theorem releaseActives_iff {tag : String}
    : releaseActives config project tag = releaseActives config project "" ↔ Inert tag.toList := by
  have shown : ∀ tag, releaseActives config project tag
      = (releasePieces config project).map fun pieces =>
          Shell.actives (tag.toList.intercalate (pieces.map String.toList)) := by
    intro tag
    simp only [releaseActives, release_tasks, List.map_map, Function.comp_def,
      String.toList_intercalate]
  have bare : ∀ pieces : List (List Char),
      Shell.actives ("".toList.intercalate pieces) = Shell.actives pieces.flatten :=
    Shell.Inert.actives_intercalate Shell.inert_nil
  rw [shown, shown]
  constructor
  · intro same
    have third := congrArg (fun tasks => tasks[2]?) same
    simp only [releasePieces, List.map_cons, List.getElem?_cons_succ, List.getElem?_cons_zero,
      Option.some.injEq, List.map_nil, bare, List.flatten_cons, List.flatten_nil,
      List.append_nil] at third
    exact Shell.inert_of_actives_intercalate third
  · intro inert
    simp only [inert.actives_intercalate, bare]

/-- What an inert tag is put between in each task of its release, and what the task ends between, as
long as the names around the tag are inert: nothing, or double quotes in the title of the release
and in the words on it.
-/
theorem releasePieces_quoting (path : Inert config.sources.localPath.toList)
    (repository : Inert project.repoName.toList) {tag : String} (inert : Inert tag.toList)
    : (releasePieces config project).map
          (fun pieces => Quoting.behindEach tag.toList .bare (pieces.map String.toList))
      = [[.bare], [.bare], [.bare, .bare], [.bare, .bare], [.double, .bare, .bare],
        [.double, .bare]] := by
  have entering : Quoting.bare.after ("cd " ++ config.sources.localPath).toList = .bare := by
    rw [String.toList_append, Quoting.after_append, Quoting.after_of_inert path]
    decide
  have title
    : Quoting.bare.after
          ("ghr -u \"$GITHUB_USER\" -r \"$GITHUB_REPO\" -n \"" ++ project.name ++ " ").toList
      = .double := by
    rw [String.toList_append, String.toList_append, Quoting.after_append, Quoting.after_append,
      Quoting.after_of_inert (Project.inert_name repository)]
    decide
  have notes : Quoting.double.after ("\" -b \"" ++ releaseNotes ++ "\" ").toList = .bare := by
    decide
  have words
    : Quoting.bare.after
          ("echo \"Release is at " ++ "https://github.com/" ++ project.repoName
            ++ "/releases/tag/").toList
      = .double := by
    rw [String.toList_append, String.toList_append, Quoting.after_append, Quoting.after_append,
      Quoting.after_of_inert repository]
    decide
  have getting : Quoting.bare.after "go get -u github.com/tcnksm/ghr".toList = .bare := by decide
  have version : Quoting.bare.after "VERSION=".toList = .bare := by decide
  have make : Quoting.bare.after " make build-brig".toList = .bare := by decide
  have tags : Quoting.bare.after "last_tag=$(git describe --tags ".toList = .bare := by decide
  have parent : Quoting.bare.after "^ --abbrev=0 --always)".toList = .bare := by decide
  have binaries : Quoting.bare.after " bin".toList = .bare := by decide
  have close : Quoting.double.after "\"".toList = .bare := by decide
  simp only [Quoting.behindEach_of_inert inert, releasePieces, List.map_cons, List.map_nil,
    Quoting.behindEach, Quoting.after_nil, getting, entering, version, make, tags, parent, title,
    notes, binaries, words, close]

end Catalog

namespace TagMatcher

/-- The version of a release with a prerelease of the given name. -/
def prereleaseOf (name : String) (nonempty : name.toList ≠ []) (line : '\n' ∉ name.toList)
    : ReleaseVersion where
  major := ['1']
  minors := [['0'], ['0']]
  prerelease := some name.toList
  major_number := ⟨nofun, List.forall_mem_singleton.mpr rfl⟩
  minors_number := by
    have zero : IsNumber ['0'] := ⟨nofun, List.forall_mem_singleton.mpr rfl⟩
    exact List.forall_mem_cons.mpr ⟨zero, List.forall_mem_singleton.mpr zero⟩
  prerelease_line := by
    rintro _ ⟨⟩
    exact ⟨nonempty, fun c member same => line (same ▸ member)⟩

/-- All characters but the line feed may come with the version of a release tag. -/
theorem mem_version_iff {c : Char}
    : (∃ ref v messages, releases.version? ref = .ok (some v, messages) ∧ c ∈ v.toList)
      ↔ c ≠ '\n' := by
  constructor
  · rintro ⟨ref, v, messages, found, member⟩ rfl
    by_cases carries : ∃ version : ReleaseVersion, ref = Ref.tagStart ++ version.text
    · obtain ⟨version, rfl⟩ := carries
      rw [version?_release] at found
      cases found
      exact version.lineFeed_not_mem_text member
    · rw [version?_other (not_exists.mp carries)] at found
      cases found
  · intro other
    have name : (String.ofList [c]).toList = [c] := String.toList_ofList
    let version := prereleaseOf (String.ofList [c]) (by rw [name]; nofun)
      (by rw [name]; exact fun member => other (List.mem_singleton.mp member).symm)
    refine ⟨_, version.text, [], version?_release version, ?_⟩
    rw [version.toList_text]
    have tail : version.tail = '-' :: [c] := by
      rw [ReleaseVersion.tail, ← name]
      rfl
    simp [tail]

/-- A version from a release tag brings along what its prerelease holds, and that may be any line.

Versions are inert exactly if their prereleases are, and every character but the line feed comes
with one of them. The tasks of a release have the version as it is written at five places: in front
of a command, in a substitution, in the title of the release, as the tag of the release and in the
words on it. The version adds no active character to the tasks exactly if it is inert. If it is, and
the names around it are, then it stands outside quotes at three places and within double quotes in
the title and in the words, and all tasks end outside quotes.
Witness: the pieces of each task around the version are followed one after the other; inert text
between them has no quote marks.
-/
theorem releases_splices (engine : Pattern.Engine) (config : Config) (project : Project)
    : ∃ matcher,
        ofSource engine defaultTagPattern = .ok matcher
        ∧ (∀ ref v messages,
            matcher.version? ref = .ok (some v, messages)
            → ∃ version : ReleaseVersion,
                v = version.text ∧ (Inert v.toList ↔ Inert (version.prerelease.getD [])))
        ∧ (∀ version : ReleaseVersion,
            matcher.version? ("refs/tags/" ++ version.text) = .ok (some version.text, []))
        ∧ (∀ c,
            (∃ ref v messages, matcher.version? ref = .ok (some v, messages) ∧ c ∈ v.toList)
            ↔ c ≠ '\n')
        ∧ let pieces := Catalog.releasePieces config project
          let quoting (v : String) :=
            pieces.map fun task => Quoting.behindEach v.toList .bare (task.map String.toList)
          (∀ v,
            (Catalog.release config project v).tasks = pieces.map fun task => v.intercalate task)
          ∧ (∀ v,
              Catalog.releaseActives config project v = Catalog.releaseActives config project ""
              ↔ Inert v.toList)
          ∧ (Inert config.sources.localPath.toList
            → Inert project.repoName.toList
            → ∀ v,
                Inert v.toList
                → quoting v
                  = [[.bare], [.bare], [.bare, .bare], [.bare, .bare], [.double, .bare, .bare],
                    [.double, .bare]]) := by
  refine ⟨releases, ofSource_default engine, ?versions, version?_release,
    fun c => mem_version_iff, Catalog.release_tasks config project,
    fun v => Catalog.releaseActives_iff config project,
    fun path repository v => Catalog.releasePieces_quoting config project path repository⟩
  intro ref v messages found
  by_cases carries : ∃ version : ReleaseVersion, ref = Ref.tagStart ++ version.text
  · obtain ⟨version, rfl⟩ := carries
    rw [version?_release] at found
    cases found
    exact ⟨version, rfl, version.inert_text_iff⟩
  · rw [version?_other (not_exists.mp carries)] at found
    cases found

/-- A release candidate adds nothing to the tasks of its release but what stands for itself. -/
theorem releases_splices_candidate
    : ∃ matcher,
        ofSource Pattern.Engine.bare defaultTagPattern = .ok matcher
        ∧ matcher.version? "refs/tags/v1.0.0-rc.1" = .ok (some "v1.0.0-rc.1", [])
        ∧ Inert "v1.0.0-rc.1".toList
        ∧ Catalog.releaseActives {} ⟨"acme/widget", []⟩ "v1.0.0-rc.1"
          = Catalog.releaseActives {} ⟨"acme/widget", []⟩ ""
        ∧ (Catalog.releasePieces {} ⟨"acme/widget", []⟩).map (fun task =>
              Quoting.behindEach "v1.0.0-rc.1".toList .bare (task.map String.toList))
          = [[.bare], [.bare], [.bare, .bare], [.bare, .bare], [.double, .bare, .bare],
            [.double, .bare]] := by
  obtain ⟨matcher, parsed, _, takes, _, _, adds, quoted⟩ :=
    releases_splices .bare {} ⟨"acme/widget", []⟩
  have inert : Inert "v1.0.0-rc.1".toList := by decide
  refine ⟨matcher, parsed, ?_, inert, (adds _).mpr inert,
    quoted (by decide) (by decide) _ inert⟩
  exact takes (prereleaseOf "rc.1" (by decide) (by decide))

/-- A version that is a tag by default puts a substitution of its own in front of a command, outside
quotes.
-/
theorem version_substitutes
    : ∃ matcher,
        ofSource Pattern.Engine.bare defaultTagPattern = .ok matcher
        ∧ matcher.version? "refs/tags/v1.0.0-$(id)" = .ok (some "v1.0.0-$(id)", [])
        ∧ Shell.actives "v1.0.0-$(id)".toList = ['$', '(', ')']
        ∧ "VERSION=v1.0.0-$(id) make build-brig"
          ∈ (Catalog.release {} ⟨"acme/widget", []⟩ "v1.0.0-$(id)").tasks
        ∧ Quoting.bare.after "VERSION=v1.0.0-".toList = .bare :=
  ⟨releases, ofSource_default _,
    version?_release (prereleaseOf "$(id)" (by decide) (by decide)), by decide, by decide,
    by decide⟩

end TagMatcher

end Conductor
