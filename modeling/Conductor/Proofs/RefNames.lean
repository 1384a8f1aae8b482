import Conductor.Suite

/-! What refs name. The ref of a tag names no branch, and a branch is found from its full ref,
whatever its name is; so a ref is of the mainline in two ways only.
-/

namespace Conductor

-----------------------------------------------------------------------------------------
-- Texts that begin with other texts
-----------------------------------------------------------------------------------------

namespace Text

section Lists

variable {α : Type} [BEq α] [LawfulBEq α] {start items rest : List α}

/-- The rest of a list is what makes it up behind its start, by induction on the start. -/
theorem after?_eq_some_iff : after? start items = some rest ↔ items = start ++ rest := by
  induction start generalizing items with
  | nil => simp [after?]
  | cons a start ih =>
      cases items with
      | nil => simp [after?]
      | cons b items =>
          by_cases same : a = b
          · subst same
            simp [after?, ih]
          · simp [after?, same, Ne.symm same]

theorem after?_isSome_iff : (after? start items).isSome ↔ ∃ rest, items = start ++ rest := by
  simp only [Option.isSome_iff_exists, after?_eq_some_iff]

end Lists

section Strings

variable {start s rest : String}

theorem restAfter?_eq_some_iff : restAfter? start s = some rest ↔ s = start ++ rest := by
  rw [restAfter?, Option.map_eq_some_iff]
  constructor
  · rintro ⟨chars, left, rfl⟩
    apply String.toList_injective
    rw [after?_eq_some_iff.mp left, String.toList_append, String.toList_ofList]
  · rintro rfl
    exact ⟨rest.toList, after?_eq_some_iff.mpr String.toList_append, String.ofList_toList⟩

theorem beginsWith_iff : beginsWith start s = true ↔ ∃ rest, s = start ++ rest := by
  have kept : beginsWith start s = (restAfter? start s).isSome := by
    rw [beginsWith, restAfter?, Option.isSome_map]
  simp only [kept, Option.isSome_iff_exists, restAfter?_eq_some_iff]

/-- Texts whose starts do not begin with one another differ: of two starts of one text the shorter
one begins the longer one.
-/
theorem append_ne_append {other : String}
    (apart : ¬ start.toList <+: other.toList ∧ ¬ other.toList <+: start.toList)
    (rest rest' : String)
    : start ++ rest ≠ other ++ rest' := by
  intro same
  have chars : start.toList ++ rest.toList = other.toList ++ rest'.toList := by
    rw [← String.toList_append, same, String.toList_append]
  have begins : start.toList <+: other.toList ++ rest'.toList := ⟨_, chars⟩
  rcases List.prefix_or_prefix_of_prefix begins (List.prefix_append _ _) with within | within
  · exact apart.1 within
  · exact apart.2 within

end Strings

end Text

-----------------------------------------------------------------------------------------
-- Tags and branches
-----------------------------------------------------------------------------------------

namespace Ref

variable {ref name : String}

theorem isTag_iff : isTag ref = true ↔ ∃ name, ref = tagStart ++ name :=
  Text.beginsWith_iff

/-- The ref of a tag is a full ref. -/
theorem tag_eq_full (name : String) : tagStart ++ name = fullStart ++ ("tags/" ++ name) := by
  have start : tagStart = fullStart ++ "tags/" := by decide +kernel
  rw [start, String.append_assoc]

/-- The full ref of a branch is a full ref. -/
theorem branch_eq_full (name : String)
    : branchStart ++ name = fullStart ++ ("heads/" ++ name) := by
  have start : branchStart = fullStart ++ "heads/" := by decide +kernel
  rw [start, String.append_assoc]

theorem full_ne_empty (rest : String) : fullStart ++ rest ≠ "" := by
  intro empty
  have nothing : fullStart = "" := (String.append_eq_empty_iff.mp empty).1
  exact absurd nothing (by decide +kernel)

theorem tag_ne_branch (name name' : String) : tagStart ++ name ≠ branchStart ++ name' :=
  Text.append_ne_append (by decide +kernel) name name'

/-- A branch is named by its full ref and, unless it looks like a full ref itself, by its name.
Witness: the full ref of a branch is a full ref, so that it is not taken for a name.
-/
theorem branch?_eq_some_iff
    : branch? ref = some name
      ↔ ref = branchStart ++ name
        ∨ ref = name ∧ name ≠ "" ∧ ∀ rest, name ≠ fullStart ++ rest := by
  rw [branch?]
  cases branch : Text.restAfter? branchStart ref with
  | some branch' =>
      have listed := Text.restAfter?_eq_some_iff.mp branch
      constructor
      · rintro ⟨⟩
        exact .inl listed
      · rintro (listed' | ⟨rfl, _, short⟩)
        · exact branch.symm.trans (Text.restAfter?_eq_some_iff.mpr listed')
        · rw [branch_eq_full] at listed
          exact absurd listed (short _)
  | none =>
      have unlisted : ref ≠ branchStart ++ name := by
        intro listed
        cases branch.symm.trans (Text.restAfter?_eq_some_iff.mpr listed)
      have aside
          : (ref.isEmpty || Text.beginsWith fullStart ref) = true
            ↔ ref = "" ∨ ∃ rest, ref = fullStart ++ rest := by
        rw [Bool.or_eq_true, String.isEmpty_iff, Text.beginsWith_iff]
      simp only [aside]
      grind

/-- No branch is named by the empty ref and by full refs that are not those of branches. -/
theorem branch?_eq_none_iff
    : branch? ref = none
      ↔ ref = "" ∨ (∃ rest, ref = fullStart ++ rest) ∧ ∀ name, ref ≠ branchStart ++ name := by
  simp only [Option.eq_none_iff_forall_ne_some, ne_eq, branch?_eq_some_iff]
  constructor
  · intro unnamed
    by_cases empty : ref = ""
    · exact .inl empty
    by_cases full : ∃ rest, ref = fullStart ++ rest
    · exact .inr ⟨full, fun name listed => unnamed name (.inl listed)⟩
    · exact absurd (.inr ⟨rfl, empty, fun rest same => full ⟨rest, same⟩⟩) (unnamed ref)
  · rintro (rfl | ⟨⟨rest, full⟩, unlisted⟩) name (listed | ⟨rfl, named, short⟩)
    · exact full_ne_empty _ (listed.trans (branch_eq_full name)).symm
    · exact named rfl
    · exact unlisted name listed
    · exact short rest full

end Ref

/-- The ref of a tag names no branch: it is a full ref, and not that of a branch. -/
theorem branch?_of_isTag {event : Event} (tagged : event.isTag = true) : event.branch? = none := by
  obtain ⟨name, same⟩ := Ref.isTag_iff.mp tagged
  rw [Event.branch?, same]
  exact Ref.branch?_eq_none_iff.mpr (.inr ⟨⟨_, Ref.tag_eq_full name⟩, Ref.tag_ne_branch name⟩)

-----------------------------------------------------------------------------------------
-- The mainline
-----------------------------------------------------------------------------------------

namespace Suite

/-- An event is of the mainline exactly if its ref is the full ref of the mainline, or the name of
the mainline where this does not look like a full ref.

A ref is that of a tag or names a branch, never both, so that no tag is of the mainline, whatever
the mainline is called; only the empty ref and full refs of other kinds are neither. A branch of any
name is found from its full ref.
-/
theorem refs_classified (config : Config) (event : Event)
    : let mainline := config.sources.mainline
      (isMainline config event = true
        ↔ event.ref = "refs/heads/" ++ mainline
          ∨ event.ref = mainline ∧ mainline ≠ "" ∧ ∀ rest, mainline ≠ "refs/" ++ rest)
      ∧ (event.isTag = true ↔ ∃ name, event.ref = "refs/tags/" ++ name)
      ∧ ¬(event.isTag = true ∧ event.branch? ≠ none)
      ∧ (∀ name, isMainline config { event with ref := "refs/tags/" ++ name } = false)
      ∧ (event.isTag = false ∧ event.branch? = none
          ↔ event.ref = ""
            ∨ (∃ rest, event.ref = "refs/" ++ rest)
              ∧ (∀ name, event.ref ≠ "refs/heads/" ++ name)
              ∧ ∀ name, event.ref ≠ "refs/tags/" ++ name)
      ∧ ∀ name, Event.branch? { event with ref := "refs/heads/" ++ name } = some name := by
  intro mainline
  refine ⟨?mainline, Ref.isTag_iff, ?exclusive, fun name => ?tag, ?neither, fun name => ?branch⟩
  case mainline =>
      rw [isMainline, beq_iff_eq]
      exact Ref.branch?_eq_some_iff
  case exclusive =>
      rintro ⟨tagged, named⟩
      exact named (branch?_of_isTag tagged)
  case tag =>
      have unnamed : Event.branch? { event with ref := "refs/tags/" ++ name } = none :=
        branch?_of_isTag (Ref.isTag_iff.mpr ⟨name, rfl⟩)
      rw [isMainline, unnamed]
      rfl
  case neither =>
      have untagged_iff
          : event.isTag = false ↔ ∀ name, event.ref ≠ Ref.tagStart ++ name := by
        rw [← Bool.not_eq_true, Event.isTag, Ref.isTag_iff, not_exists]
      rw [untagged_iff, Event.branch?, Ref.branch?_eq_none_iff]
      constructor
      · rintro ⟨untagged, empty | ⟨full, unlisted⟩⟩
        · exact .inl empty
        · exact .inr ⟨full, unlisted, untagged⟩
      · rintro (empty | ⟨full, unlisted, untagged⟩)
        · refine ⟨fun name tag => ?_, .inl empty⟩
          rw [empty, Ref.tag_eq_full] at tag
          exact Ref.full_ne_empty _ tag.symm
        · exact ⟨untagged, .inr ⟨full, unlisted⟩⟩
  case branch => exact Ref.branch?_eq_some_iff.mpr (.inl rfl)

example : Ref.branch? "refs/heads/refs/tags/v1" = some "refs/tags/v1" := by decide +kernel

end Suite

end Conductor
