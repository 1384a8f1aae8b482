import Conductor.Config.Basic
import Conductor.Proofs.Lookup
import Conductor.Proofs.StrippedTexts
import Mathlib.Data.List.Pairwise
import Mathlib.Tactic.FinCases

/-! What a configuration has of its table. Each of its texts is read from a path of its own and from
nowhere else; and every configuration whose texts can be read at all is read back from its table.
-/

namespace Conductor

-----------------------------------------------------------------------------------------
-- Values along paths
-----------------------------------------------------------------------------------------

/-- Neither path leads to the other. -/
def Table.Apart {σ : Type} (path other : List σ) : Prop :=
  ¬path <+: other ∧ ¬other <+: path

instance {σ : Type} [DecidableEq σ] (path other : List σ) : Decidable (Table.Apart path other) :=
  inferInstanceAs (Decidable (¬path <+: other ∧ ¬other <+: path))

instance {σ : Type} : Std.Symm (@Table.Apart σ) :=
  ⟨fun _ _ apart => apart.symm⟩

theorem Table.Apart.tail {σ : Type} {key : σ} {path other : List σ}
    (apart : Apart (key :: path) (key :: other))
    : Apart path other :=
  ⟨fun leads => apart.1 (List.cons_prefix_cons.mpr ⟨rfl, leads⟩),
    fun leads => apart.2 (List.cons_prefix_cons.mpr ⟨rfl, leads⟩)⟩

/-- What is absent or no table has nothing behind it, just as the empty table.
Witness: by cases on the value.
-/
theorem Value.atPath?_asTable {σ : Type} [BEq σ] (value : Option (Value σ)) {path : List σ}
    (nonempty : path ≠ [])
    : (Value.table ((value.bind Value.table?).getD [])).atPath? path
      = value.bind fun value => value.atPath? path := by
  obtain ⟨key, rest, rfl⟩ := List.exists_cons_of_ne_nil nonempty
  rcases value with _ | value
  · rfl
  · cases value <;> rfl

namespace Table

variable {σ : Type} [BEq σ]

/-- The table with a value put at a path. What is no table on the way becomes one. -/
def put (new : Value σ) : List σ → Table σ → Table σ
  | [], table => table
  | [key], table => Assoc.insert table key new
  | key :: next :: rest, table =>
    let inner := ((table.get? key).bind Value.table?).getD []
    Assoc.insert table key (.table (put new (next :: rest) inner))

variable [LawfulBEq σ]

/-- Under its own key a binding is found. -/
theorem get?_insert_self (table : Table σ) (key : σ) (value : Value σ)
    : Table.get? (Assoc.insert table key value) key = some value := by
  simp [Table.get?, Assoc.lookup_insert]

/-- Under other keys a binding changes nothing. -/
theorem get?_insert_other (table : Table σ) {key other : σ} (different : other ≠ key)
    (value : Value σ)
    : Table.get? (Assoc.insert table key value) other = table.get? other := by
  have passed : (other == key) = false := beq_eq_false_iff_ne.mpr different
  simp [Table.get?, Assoc.lookup_insert, List.lookup_cons, passed]

/-- What is put at a path is found there, by induction on the path. -/
theorem atPath?_put_self (new : Value σ) {path : List σ} (nonempty : path ≠ []) (table : Table σ)
    : (Value.table (put new path table)).atPath? path = some new := by
  induction path generalizing table with
  | nil => exact absurd rfl nonempty
  | cons key rest ih =>
      cases rest with
      | nil => simp [put, Value.atPath?, get?_insert_self]
      | cons next rest =>
          simp only [put, Value.atPath?, get?_insert_self] at ih ⊢
          exact ih (List.cons_ne_nil _ _) _

/-- What is put at a path changes nothing at paths that are apart from it.
Witness: induction on the path; where both paths go on from one key, they part behind it.
-/
theorem atPath?_put_apart (new : Value σ) {path other : List σ} (apart : Apart path other)
    (table : Table σ)
    : (Value.table (put new path table)).atPath? other = (Value.table table).atPath? other := by
  induction path generalizing other table with
  | nil => exact absurd List.nil_prefix apart.1
  | cons key rest ih =>
      cases other with
      | nil => exact absurd List.nil_prefix apart.2
      | cons first others =>
          by_cases same : first = key
          · subst same
            have behind := apart.tail
            cases rest with
            | nil => exact absurd List.nil_prefix behind.1
            | cons next rest =>
                have nonempty : others ≠ [] := by
                  rintro rfl
                  exact behind.2 List.nil_prefix
                simp only [put, Value.atPath?, get?_insert_self]
                rw [ih behind, Value.atPath?_asTable _ nonempty]
                cases table.get? first <;> rfl
          · cases rest with
            | nil => simp only [put, Value.atPath?, get?_insert_other table same]
            | cons next rest => simp only [put, Value.atPath?, get?_insert_other table same]

end Table

-----------------------------------------------------------------------------------------
-- Entries
-----------------------------------------------------------------------------------------

namespace Config

/-- A text of a configuration: the table within the root that it is read from, if it is not the root
itself, and its key there.
-/
structure Entry where
  within : Option String
  key : String
  text : Config → String

def Entry.path (entry : Entry) : List String :=
  entry.within.toList ++ [entry.key]

/-- All texts of a configuration. -/
def entries : List Entry := [
  ⟨some "images", "go", fun config => config.images.go⟩,
  ⟨some "images", "js", fun config => config.images.js⟩,
  ⟨some "images", "docker", fun config => config.images.docker⟩,
  ⟨some "images", "kind", fun config => config.images.kind⟩,
  ⟨some "images", "notify", fun config => config.images.notify⟩,
  ⟨some "project", "name", fun config => config.sources.name⟩,
  ⟨some "project", "org", fun config => config.sources.org⟩,
  ⟨some "project", "mainline_branch", fun config => config.sources.mainline⟩,
  ⟨some "project", "gopath", fun config => config.sources.gopath⟩,
  ⟨some "secrets", "release_token", fun config => config.secrets.releaseToken⟩,
  ⟨some "secrets", "registry", fun config => config.secrets.registry⟩,
  ⟨some "secrets", "registry_org", fun config => config.secrets.registryOrg⟩,
  ⟨some "secrets", "registry_username", fun config => config.secrets.registryUsername⟩,
  ⟨some "secrets", "registry_password", fun config => config.secrets.registryPassword⟩,
  ⟨some "secrets", "webhook", fun config => config.secrets.webhook⟩,
  ⟨some "notify", "username", fun config => config.notice.username⟩,
  ⟨some "notify", "color", fun config => config.notice.color⟩,
  ⟨none, "release_tag_pattern", fun config => config.tagPattern⟩,
  ⟨none, "details_url_template", fun config => config.detailsTemplate⟩,
  ⟨none, "comment_trigger", fun config => config.commentTrigger⟩,
  ⟨none, "default_registry", fun config => config.defaultRegistry⟩]

/-- Configurations with the same texts are the same. -/
theorem eq_of_entries {config other : Config}
    (same : ∀ entry ∈ entries, entry.text config = entry.text other)
    : config = other := by
  obtain ⟨⟨_, _, _, _, _⟩, ⟨_, _, _, _⟩, ⟨_, _, _, _, _, _⟩, ⟨_, _⟩, _, _, _, _⟩ := config
  obtain ⟨⟨_, _, _, _, _⟩, ⟨_, _, _, _⟩, ⟨_, _, _, _, _, _⟩, ⟨_, _⟩, _, _, _, _⟩ := other
  simpa [entries, and_assoc] using same

/-- No path of an entry leads to that of another, by comparison. -/
theorem entries_apart : (entries.map Entry.path).Pairwise Table.Apart := by
  decide +kernel

/-- Entries at different paths are apart. -/
theorem apart_of_ne {entry other : Entry} (member : entry ∈ entries) (known : other ∈ entries)
    (different : entry.path ≠ other.path)
    : Table.Apart entry.path other.path :=
  entries_apart.forall (List.mem_map_of_mem member) (List.mem_map_of_mem known) different

/-- An entry of a configuration is read from a table if it is the text at its path without the
blanks at its ends, or its default if there is no text there with anything but blanks.
-/
structure Entry.Reads (entry : Entry) (table : Table String) (config : Config) : Prop where
  given
    : ∀ s,
        (Value.table table).atPath? entry.path = some (.str s)
        → Text.strip s ≠ ""
        → entry.text config = Text.strip s
  absent
    : (∀ s, (Value.table table).atPath? entry.path = some (.str s) → Text.strip s = "")
      → entry.text config = entry.text {}

/-- The text that a value gives, if it has anything but blanks. -/
def given? : Option (Value String) → Option String
  | some (.str s) => Text.nonBlank? s
  | _ => none

/-- An entry is read as a string under its key, in the table that it is within. -/
theorem text_ofTable (table : Table String)
    : ∀ entry ∈ entries,
        entry.text (ofTable table)
        = Table.stringD (entry.within.elim (some table) table.inner?) entry.key
            (entry.text {}) := by
  intro entry member
  fin_cases member <;> rfl

/-- An entry is what the value at its path gives, or its default, by cases on the value that it is
within.
-/
theorem text_eq_given? (table : Table String) {entry : Entry} (member : entry ∈ entries)
    : entry.text (ofTable table)
      = (given? ((Value.table table).atPath? entry.path)).getD (entry.text {}) := by
  rw [text_ofTable table entry member]
  obtain ⟨within, key, text⟩ := entry
  have under : ∀ table : Table String, table.string? key = given? (table.get? key) := by
    intro table
    rw [Table.string?]
    rcases table.get? key with _ | value
    · rfl
    · cases value <;> rfl
  have last : ∀ table : Table String, (Value.table table).atPath? [key] = table.get? key := by
    intro table
    simp only [Value.atPath?]
    cases table.get? key <;> rfl
  cases within with
  | none => simp [Table.stringD, Entry.path, under, last]
  | some name =>
      simp only [Option.elim_some, Entry.path, Option.toList_some, List.singleton_append,
        Table.stringD, Table.inner?]
      rw [Value.atPath?]
      rcases table.get? name with _ | value
      · rfl
      · cases value with
        | table inner => simp [Value.table?, under, last]
        | _ => rfl

/-- A value gives a text exactly if it is a string with something but blanks, which is its text. -/
theorem given?_eq_some_iff {value : Option (Value String)} {text : String}
    : given? value = some text ↔ ∃ s, value = some (.str s) ∧ Text.strip s = text ∧ text ≠ "" := by
  have kept : ∀ s, Text.nonBlank? s = some text ↔ Text.strip s = text ∧ text ≠ "" := by
    intro s
    simp only [Text.nonBlank?, String.isEmpty_iff, Option.ite_none_left_eq_some, Option.some.injEq]
    constructor
    · rintro ⟨some, rfl⟩
      exact ⟨rfl, some⟩
    · rintro ⟨rfl, some⟩
      exact ⟨some, rfl⟩
  rcases value with _ | value
  · simp [given?]
  · cases value <;> simp [given?, kept]

/-- Each entry of a configuration is read from its table. -/
theorem reads_ofTable (table : Table String)
    : ∀ entry ∈ entries, entry.Reads table (ofTable table) := by
  intro entry member
  have read := text_eq_given? table member
  constructor
  · intro s found some
    have given := given?_eq_some_iff.mpr ⟨s, found, rfl, some⟩
    rw [read, given, Option.getD_some]
  · intro blank
    have none : given? ((Value.table table).atPath? entry.path) = none := by
      refine Option.eq_none_iff_forall_ne_some.mpr fun text given => ?_
      obtain ⟨s, found, rfl, some⟩ := given?_eq_some_iff.mp given
      exact some (blank s found)
    rw [read, none, Option.getD_none]

-----------------------------------------------------------------------------------------
-- Configurations as tables
-----------------------------------------------------------------------------------------

/-- A configuration is canonical if none of its texts is empty or has blanks at its ends. -/
def Canonical (config : Config) : Prop :=
  ∀ entry ∈ entries, entry.text config ≠ "" ∧ Text.strip (entry.text config) = entry.text config

/-- The default texts are canonical, by comparison. -/
theorem canonical_default : Canonical {} := by
  unfold Canonical
  decide +kernel

/-- Every table is read as a canonical configuration. -/
theorem canonical_ofTable (table : Table String) : (ofTable table).Canonical := by
  intro entry member
  rw [text_eq_given? table member]
  cases given : given? ((Value.table table).atPath? entry.path) with
  | none => exact canonical_default entry member
  | some text =>
      obtain ⟨s, _, rfl, some⟩ := given?_eq_some_iff.mp given
      exact ⟨some, Text.strip_strip s⟩

/-- The table that spells a configuration out. -/
def toTable (config : Config) : Table String := [
  ("images", .table [
    ("go", .str config.images.go),
    ("js", .str config.images.js),
    ("docker", .str config.images.docker),
    ("kind", .str config.images.kind),
    ("notify", .str config.images.notify)]),
  ("project", .table [
    ("name", .str config.sources.name),
    ("org", .str config.sources.org),
    ("mainline_branch", .str config.sources.mainline),
    ("gopath", .str config.sources.gopath)]),
  ("secrets", .table [
    ("release_token", .str config.secrets.releaseToken),
    ("registry", .str config.secrets.registry),
    ("registry_org", .str config.secrets.registryOrg),
    ("registry_username", .str config.secrets.registryUsername),
    ("registry_password", .str config.secrets.registryPassword),
    ("webhook", .str config.secrets.webhook)]),
  ("notify", .table [
    ("username", .str config.notice.username),
    ("color", .str config.notice.color)]),
  ("release_tag_pattern", .str config.tagPattern),
  ("details_url_template", .str config.detailsTemplate),
  ("comment_trigger", .str config.commentTrigger),
  ("default_registry", .str config.defaultRegistry)]

/-- The table of a configuration has each of its texts at the path of the text. -/
theorem atPath?_toTable (config : Config)
    : ∀ entry ∈ entries,
        (Value.table config.toTable).atPath? entry.path = some (.str (entry.text config)) := by
  intro entry member
  fin_cases member <;> rfl

/-- A configuration is read back from its table exactly if it is canonical.
Witness: a canonical text is what is read of it.
-/
theorem ofTable_toTable_iff (config : Config)
    : ofTable config.toTable = config ↔ config.Canonical := by
  constructor
  · intro same
    rw [← same]
    exact canonical_ofTable config.toTable
  · intro canonical
    refine eq_of_entries fun entry member => ?_
    obtain ⟨some, stripped⟩ := canonical entry member
    have reads := reads_ofTable config.toTable entry member
    rw [reads.given _ (atPath?_toTable config entry member) (by rwa [stripped]), stripped]

/-- An entry of a configuration depends on the value at its path alone. -/
theorem text_congr {table other : Table String} {entry : Entry} (member : entry ∈ entries)
    (same : (Value.table other).atPath? entry.path = (Value.table table).atPath? entry.path)
    : entry.text (ofTable other) = entry.text (ofTable table) := by
  rw [text_eq_given? other member, text_eq_given? table member, same]

/-- A configuration is read from a table by the paths of its entries. Each entry is read from its
own path, and depends on nothing else: what is put at the path of another leaves it as it is, and
what is put apart from all paths changes nothing. The configurations that are read are the canonical
ones; these are read back from their tables, and the default is read from the empty table.
-/
theorem ofTable_reads (table : Table String)
    : let config := ofTable table
      entries.length = 21
      ∧ (entries.map Entry.path).Pairwise Table.Apart
      ∧ (∀ entry ∈ entries, entry.Reads table config)
      ∧ (∀ entry ∈ entries,
          ∀ other : Table String,
            (Value.table other).atPath? entry.path = (Value.table table).atPath? entry.path
            → entry.text (ofTable other) = entry.text config)
      ∧ (∀ entry ∈ entries,
          ∀ new,
            let changed := table.put new entry.path
            (Value.table changed).atPath? entry.path = some new
            ∧ ∀ other ∈ entries,
                other.path ≠ entry.path → other.text (ofTable changed) = other.text config)
      ∧ (∀ path new,
          (∀ entry ∈ entries, Table.Apart path entry.path)
          → ofTable (table.put new path) = config)
      ∧ config.Canonical
      ∧ (∀ other : Config,
          (∀ entry ∈ entries,
            (Value.table other.toTable).atPath? entry.path = some (.str (entry.text other)))
          ∧ (ofTable other.toTable = other ↔ other.Canonical))
      ∧ ofTable [] = {} := by
  intro config
  refine ⟨rfl, entries_apart, reads_ofTable table, ?alone, ?changed, ?unknown,
    canonical_ofTable table, ?back, rfl⟩
  case alone => exact fun entry member other same => text_congr member same
  case changed =>
    intro entry member new changed
    have nonempty : entry.path ≠ [] := List.concat_ne_nil _ _
    refine ⟨Table.atPath?_put_self new nonempty table, fun other known different => ?_⟩
    have apart := apart_of_ne member known different.symm
    exact text_congr known (Table.atPath?_put_apart new apart table)
  case unknown =>
    intro path new apart
    refine eq_of_entries fun entry member => ?_
    exact text_congr member (Table.atPath?_put_apart new (apart entry member) table)
  case back => exact fun other => ⟨atPath?_toTable other, ofTable_toTable_iff other⟩

/-- A table with a padded text, a blank one, values of other shapes and unknown keys. -/
def paddedTable : Table String := [
  ("images", .table [("go", .str "\u00a0golang:1 \n"), ("js", .str " \t"), ("rust", .str "rust")]),
  ("project", .str "widget"),
  ("secrets", .table [("registry_username", .int 3), ("webhook", .str "HOOK")]),
  ("comment_trigger", .str "/go")]

theorem ofTable_reads_padded
    : let config := ofTable paddedTable
      let go : Entry := ⟨some "images", "go", fun config => config.images.go⟩
      let changed := ofTable (paddedTable.put (.list []) ["images", "js"])
      go ∈ entries
      ∧ (Value.table paddedTable).atPath? go.path = some (.str "\u00a0golang:1 \n")
      ∧ go.text config = "golang:1"
      ∧ go.text changed = "golang:1"
      ∧ ofTable (paddedTable.put .null ["images", "rust"]) = config
      ∧ config
        = { images := { go := "golang:1" }
            secrets := { webhook := "HOOK" }
            commentTrigger := "/go" }
      ∧ ofTable config.toTable = config := by
  intro config go changed
  have member : go ∈ entries := List.mem_cons_self
  have jsMember : ⟨some "images", "js", fun config => config.images.js⟩ ∈ entries :=
    List.mem_cons_of_mem _ List.mem_cons_self
  have found : (Value.table paddedTable).atPath? go.path = some (.str "\u00a0golang:1 \n") := rfl
  have stripped : Text.strip "\u00a0golang:1 \n" = "golang:1" := by decide +kernel
  obtain ⟨_, _, reads, _, others, unknown, canonical, back, _⟩ := ofTable_reads paddedTable
  have given : go.text config = "golang:1" := by
    rw [(reads go member).given _ found (by decide +kernel), stripped]
  have kept := (others _ jsMember (.list [])).2 go member (by decide)
  exact ⟨member, found, given, kept.trans given, unknown _ .null (by decide +kernel),
    by decide +kernel, (back config).2.mpr canonical⟩

end Config

end Conductor
