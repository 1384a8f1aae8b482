import Conductor.Proofs.PatternJudgment
import Conductor.Proofs.TomlLimits
import Conductor.Proofs.Utf8Reading

/-! What becomes of configuration files. A file that is missing, denied, no text or no document, or
whose pattern is unfit, is an error with the path of the file. What else keeps a file from being
read, and what goes over a limit of a reader, is not answered.
-/

namespace Conductor

-----------------------------------------------------------------------------------------
-- Paths through files and directories
-----------------------------------------------------------------------------------------

namespace FileTree

variable {tree : FileTree} {root : String}

/-- Parts of a path lead from a directory to another; both are given by their parts in reverse. -/
inductive Leads (tree : FileTree) (root : String) : List String → List String → List String → Prop
  | here (here : List String) : Leads tree root here [] here
  | back {here parts there : List String} (on : Leads tree root here.tail parts there)
    : Leads tree root here (".." :: parts) there
  | into {here parts there : List String} {part : String} (name : part ≠ "..")
    (short : part.utf8ByteSize ≤ maxNameLength)
    (directory : tree.entry? (Path.ofParts root (part :: here).reverse) = some .directory)
    (on : Leads tree root (part :: here) parts there)
    : Leads tree root here (part :: parts) there

/-- What reading comes to at a name that leads into no directory. -/
inductive Stops (tree : FileTree) (place part : String) (rest : List String)
    : Except ReadError Bytes → Prop
  | longName (long : maxNameLength < part.utf8ByteSize)
    : Stops tree place part rest (.error .longName)
  | missing (short : part.utf8ByteSize ≤ maxNameLength) (absent : tree.entry? place = none)
    : Stops tree place part rest (.error .missing)
  | notDirectory {entry : FileEntry} (short : part.utf8ByteSize ≤ maxNameLength)
    (found : tree.entry? place = some entry) (other : entry ≠ .directory) (further : rest ≠ [])
    : Stops tree place part rest (.error .notDirectory)
  | denied (short : part.utf8ByteSize ≤ maxNameLength)
    (found : tree.entry? place = some .denied) (last : rest = [])
    : Stops tree place part rest (.error .denied)
  | file {content : Bytes} (short : part.utf8ByteSize ≤ maxNameLength)
    (found : tree.entry? place = some (.file content)) (last : rest = [])
    : Stops tree place part rest (.ok content)

/-- Parts of a path lead from a directory to a name at which reading stops. -/
inductive Halts (tree : FileTree) (root : String) (here parts : List String)
    (result : Except ReadError Bytes) : Prop
  | mk {front rest there : List String} {part : String} (whole : parts = front ++ part :: rest)
    (leads : Leads tree root here front there) (name : part ≠ "..")
    (ends : Stops tree (Path.ofParts root (part :: there).reverse) part rest result)

/-- What reading the file at a path comes to. -/
inductive Comes (tree : FileTree) (path : String) : Except ReadError Bytes → Prop
  | zeroInName (zero : path.contains '\x00') : Comes tree path (.error .zeroInName)
  | isDirectory {there : List String} (named : ¬path.contains '\x00')
    (leads : Leads tree (Path.root path) [] (Path.parts path) there)
    : Comes tree path (.error .isDirectory)
  | halts {result : Except ReadError Bytes} (named : ¬path.contains '\x00')
    (halts : Halts tree (Path.root path) [] (Path.parts path) result)
    : Comes tree path result

theorem walk_back (tree : FileTree) (root : String) (here rest : List String)
    : tree.walk root here (".." :: rest) = tree.walk root here.tail rest := by
  rw [FileTree.walk.eq_def tree root here (".." :: rest)]
  exact if_pos rfl

theorem walk_name {here rest : List String} {part : String} (name : part ≠ "..")
    (short : part.utf8ByteSize ≤ maxNameLength)
    : tree.walk root here (part :: rest)
      = match tree.entry? (Path.ofParts root (part :: here).reverse), rest with
        | none, _ => .error .missing
        | some .directory, rest => tree.walk root (part :: here) rest
        | some _, _ :: _ => .error .notDirectory
        | some .denied, [] => .error .denied
        | some (.file content), [] => .ok content := by
  rw [FileTree.walk.eq_def tree root here (part :: rest)]
  exact (if_neg name).trans (if_neg (Nat.not_lt.mpr short))

theorem Leads.walk {here front there : List String} (leads : Leads tree root here front there)
    (rest : List String)
    : tree.walk root here (front ++ rest) = tree.walk root there rest := by
  induction leads with
  | here here => rfl
  | back on ih => rw [List.cons_append, walk_back, ih]
  | into name short directory on ih =>
      rw [List.cons_append, walk_name name short, directory]
      exact ih

theorem Stops.walk {here rest : List String} {part : String} {result : Except ReadError Bytes}
    (ends : Stops tree (Path.ofParts root (part :: here).reverse) part rest result)
    (name : part ≠ "..")
    : tree.walk root here (part :: rest) = result := by
  cases ends with
  | longName long =>
      rw [FileTree.walk.eq_def tree root here (part :: rest)]
      exact (if_neg name).trans (if_pos long)
  | missing short absent => rw [walk_name name short, absent]
  | denied short found last => rw [walk_name name short, found, last]
  | file short found last => rw [walk_name name short, found, last]
  | @notDirectory entry short found other further =>
      obtain ⟨next, rest, rfl⟩ := List.exists_cons_of_ne_nil further
      rw [walk_name name short, found]
      cases entry with
      | directory => exact absurd rfl other
      | file | denied => rfl

/-- Reading stops at a name, unless it is that of a directory. -/
theorem stops_or_directory (tree : FileTree) (place part : String) (rest : List String)
    : (part.utf8ByteSize ≤ maxNameLength ∧ tree.entry? place = some .directory)
      ∨ ∃ result, Stops tree place part rest result := by
  by_cases short : part.utf8ByteSize ≤ maxNameLength
  · cases found : tree.entry? place with
    | none => exact .inr ⟨_, .missing short found⟩
    | some entry =>
        cases entry with
        | directory => exact .inl ⟨short, rfl⟩
        | denied =>
            by_cases last : rest = []
            · exact .inr ⟨_, .denied short found last⟩
            · exact .inr ⟨_, .notDirectory short found (by decide) last⟩
        | file content =>
            by_cases last : rest = []
            · exact .inr ⟨_, .file short found last⟩
            · exact .inr ⟨_, .notDirectory short found nofun last⟩
  · exact .inr ⟨_, .longName (Nat.lt_of_not_le short)⟩

/-- All parts of a path lead on, or reading stops at one; by induction on the parts. -/
theorem leads_or_halts (tree : FileTree) (root : String) (here parts : List String)
    : (∃ there, Leads tree root here parts there)
      ∨ ∃ result, Halts tree root here parts result := by
  induction parts generalizing here with
  | nil => exact .inl ⟨here, .here here⟩
  | cons part rest ih =>
      by_cases name : part = ".."
      · subst name
        rcases ih here.tail with ⟨there, leads⟩ | ⟨result, whole, leads, name, ends⟩
        · exact .inl ⟨there, .back leads⟩
        · exact .inr ⟨result, congrArg (".." :: ·) whole, .back leads, name, ends⟩
      have stops := stops_or_directory tree (Path.ofParts root (part :: here).reverse) part rest
      rcases stops with ⟨short, directory⟩ | ⟨result, ends⟩
      · rcases ih (part :: here) with ⟨there, leads⟩ | ⟨result, whole, leads, other, ends⟩
        · exact .inl ⟨there, .into name short directory leads⟩
        · exact .inr ⟨result, congrArg (part :: ·) whole, .into name short directory leads, other,
            ends⟩
      · exact .inr ⟨result, rfl, .here here, name, ends⟩

/-- In a tree there is one way in which a file is missing, and one in which it is denied. -/
theorem Comes.eq_of_told {path : String} {error : ReadError}
    (comes : Comes tree path (.error error))
    : (error.isMissing = true → error = .missing) ∧ (error.isDenied = true → error = .denied) := by
  cases comes with
  | zeroInName zero => exact ⟨nofun, nofun⟩
  | isDirectory named leads => exact ⟨nofun, nofun⟩
  | halts named halts =>
      obtain ⟨_, _, _, ends⟩ := halts
      cases ends with
      | missing short absent => exact ⟨fun _ => rfl, nofun⟩
      | denied short found last => exact ⟨nofun, fun _ => rfl⟩
      | _ => exact ⟨nofun, nofun⟩

/-- What reading a path comes to is settled by where its parts lead. -/
theorem read_eq_iff {path : String} {result : Except ReadError Bytes}
    : tree.read path = result ↔ Comes tree path result := by
  have only {result : Except ReadError Bytes} (comes : Comes tree path result)
      : tree.read path = result := by
    cases comes with
    | zeroInName zero => rw [FileTree.read, if_pos zero]
    | isDirectory named leads =>
        rw [FileTree.read, if_neg named, ← List.append_nil (Path.parts path), leads.walk]
        rfl
    | halts named halts =>
        obtain ⟨whole, leads, name, ends⟩ := halts
        rw [FileTree.read, if_neg named, whole, leads.walk, ends.walk name]
  have some : ∃ result, Comes tree path result := by
    by_cases zero : path.contains '\x00'
    · exact ⟨_, .zeroInName zero⟩
    · rcases leads_or_halts tree (Path.root path) [] (Path.parts path) with
        ⟨there, leads⟩ | ⟨result, halts⟩
      · exact ⟨_, .isDirectory zero leads⟩
      · exact ⟨result, .halts zero halts⟩
  constructor
  · rintro rfl
    obtain ⟨result, comes⟩ := some
    rwa [only comes]
  · exact only

end FileTree

-----------------------------------------------------------------------------------------
-- Files
-----------------------------------------------------------------------------------------

namespace Config

/-- What a result is: a value that fits, an error, or a fault; and each only where told. -/
structure Decided {ρ α : Type} (result : Except Fault (Except ρ α)) (Fits : α → Prop)
    (Fails : ρ → Prop) (Breaks : Fault → Prop) : Prop where
  fits : ∀ value, result = .ok (.ok value) ↔ Fits value
  fails : ∀ error, result = .ok (.error error) ↔ Fails error
  breaks : ∀ fault, result = .error fault ↔ Breaks fault

/-- It is enough that one of the cases is there and that each settles the result. -/
theorem Decided.of_cases {ρ α : Type} {result : Except Fault (Except ρ α)} {Fits : α → Prop}
    {Fails : ρ → Prop} {Breaks : Fault → Prop}
    (fits : ∀ value, Fits value → result = .ok (.ok value))
    (fails : ∀ error, Fails error → result = .ok (.error error))
    (breaks : ∀ fault, Breaks fault → result = .error fault)
    (some : (∃ value, Fits value) ∨ (∃ error, Fails error) ∨ ∃ fault, Breaks fault)
    : Decided result Fits Fails Breaks := by
  refine ⟨fun value => ⟨fun same => ?_, fits value⟩, fun error => ⟨fun same => ?_, fails error⟩,
    fun fault => ⟨fun same => ?_, breaks fault⟩⟩
  · rcases some with ⟨_, holds⟩ | ⟨_, holds⟩ | ⟨_, holds⟩
    · cases same.symm.trans (fits _ holds)
      exact holds
    · cases same.symm.trans (fails _ holds)
    · cases same.symm.trans (breaks _ holds)
  · rcases some with ⟨_, holds⟩ | ⟨_, holds⟩ | ⟨_, holds⟩
    · cases same.symm.trans (fits _ holds)
    · cases same.symm.trans (fails _ holds)
      exact holds
    · cases same.symm.trans (breaks _ holds)
  · rcases some with ⟨_, holds⟩ | ⟨_, holds⟩ | ⟨_, holds⟩
    · cases same.symm.trans (fits _ holds)
    · cases same.symm.trans (fails _ holds)
    · cases same.symm.trans (breaks _ holds)
      exact holds

/-- One of the cases is there. -/
theorem Decided.cases {ρ α : Type} {result : Except Fault (Except ρ α)} {Fits : α → Prop}
    {Fails : ρ → Prop} {Breaks : Fault → Prop} (decided : Decided result Fits Fails Breaks)
    : (∃ value, Fits value) ∨ (∃ error, Fails error) ∨ ∃ fault, Breaks fault := by
  rcases result with fault | error | value
  · exact .inr (.inr ⟨fault, (decided.breaks fault).mp rfl⟩)
  · exact .inr (.inl ⟨error, (decided.fails error).mp rfl⟩)
  · exact .inl ⟨value, (decided.fits value).mp rfl⟩

/-- There is an answer exactly if there is no fault. -/
theorem Decided.answered_iff {ρ α : Type} {result : Except Fault (Except ρ α)} {Fits : α → Prop}
    {Fails : ρ → Prop} {Breaks : Fault → Prop} (decided : Decided result Fits Fails Breaks)
    : (∃ answer, result = .ok answer) ↔ ∀ fault, ¬Breaks fault := by
  constructor
  · rintro ⟨answer, same⟩ fault breaks
    cases same.symm.trans ((decided.breaks fault).mpr breaks)
  · intro none
    cases same : result with
    | error fault => exact absurd ((decided.breaks fault).mp same) (none fault)
    | ok answer => exact ⟨answer, rfl⟩

/-- The file at a path is the text of a table. -/
def Holds (platform : Platform) (files : Files) (path : String) (table : Table String) : Prop :=
  ∃ text : String,
    files path = .ok (Utf8.encode text) ∧ Toml.read platform.tomlRoom text.toList = .ok table

/-- What is wrong with a file that is not the text of a table. -/
inductive Unread (platform : Platform) (files : Files) (path : String) : Problem → Prop
  | missing {error : ReadError} (kept : files path = .error error)
    (absent : error.isMissing = true)
    : Unread platform files path .missing
  | denied {error : ReadError} (kept : files path = .error error)
    (present : error.isMissing = false)
    (forbidden : error.isDenied = true)
    : Unread platform files path .denied
  | notText {bytes : Bytes} {refusal : Utf8.Refusal} (stored : files path = .ok bytes)
    (other : ∀ text, bytes ≠ Utf8.encode text) (refused : Utf8.decode bytes = .error refusal)
    : Unread platform files path (.notText refusal)
  | malformed {text : String} (stored : files path = .ok (Utf8.encode text))
    (refused : Toml.read platform.tomlRoom text.toList = .error .malformed)
    : Unread platform files path (.malformed (platform.tomlFlaw text.toList))

/-- What keeps a file from being answered: another failure to read it, or a limit that its text goes
over.
-/
inductive Unanswered (platform : Platform) (files : Files) (path : String) : Fault → Prop
  | unreadable {error : ReadError} (kept : files path = .error error)
    (present : error.isMissing = false) (allowed : error.isDenied = false)
    : Unanswered platform files path (.unreadable path error)
  | longNumber {text : String} {digits : Nat} (stored : files path = .ok (Utf8.encode text))
    (refused : Toml.read platform.tomlRoom text.toList = .error (.longNumber digits))
    (stands : Toml.Refusal.StandsIn platform.tomlRoom text.toList (.longNumber digits))
    : Unanswered platform files path (.longNumber digits)
  | tooDeep {text : String} (stored : files path = .ok (Utf8.encode text))
    (refused : Toml.read platform.tomlRoom text.toList = .error .tooDeep)
    (stands : Toml.Refusal.StandsIn platform.tomlRoom text.toList .tooDeep)
    : Unanswered platform files path .tooDeep

section Files

variable {platform : Platform} {files : Files} {path : String}

theorem parseAt_text {text : String} (stored : files path = .ok (Utf8.encode text))
    : parseAt platform files path = parseText platform text.toList := by
  have decoded : Utf8.decode (Utf8.encode text) = .ok text.toList :=
    Utf8.decode_eq_ok_iff.mpr (by rw [String.ofList_toList])
  simp only [parseAt, stored, decoded]

/-- A file is the text of a table, has a problem that is told, or is not answered. -/
theorem parseAt_decided (platform : Platform) (files : Files) (path : String)
    : Decided (parseAt platform files path) (Holds platform files path)
        (Unread platform files path) (Unanswered platform files path) := by
  apply Decided.of_cases
  · rintro table ⟨text, stored, read⟩
    rw [parseAt_text stored, parseText, read]
  · intro problem unread
    cases unread with
    | missing kept absent => simp only [parseAt, kept, if_pos absent]
    | denied kept present forbidden =>
        simp only [parseAt, kept, present, if_pos forbidden, Bool.false_eq_true, if_false]
    | notText stored other refused => simp only [parseAt, stored, refused]
    | malformed stored refused => rw [parseAt_text stored, parseText, refused]
  · intro fault unanswered
    cases unanswered with
    | @unreadable error kept present allowed =>
        simp only [parseAt, kept, present, allowed, Bool.false_eq_true, if_false]
    | longNumber stored refused stands => rw [parseAt_text stored, parseText, refused]
    | tooDeep stored refused stands => rw [parseAt_text stored, parseText, refused]
  · cases stored : files path with
    | error error =>
        cases absent : error.isMissing with
        | true => exact .inr (.inl ⟨_, .missing stored absent⟩)
        | false =>
            cases forbidden : error.isDenied with
            | true => exact .inr (.inl ⟨_, .denied stored absent forbidden⟩)
            | false => exact .inr (.inr ⟨_, .unreadable stored absent forbidden⟩)
    | ok bytes =>
        cases decoded : Utf8.decode bytes with
        | error refusal =>
            have other (text : String) : bytes ≠ Utf8.encode text := by
              rintro rfl
              have same := Utf8.decode_eq_ok_iff.mpr
                (congrArg Utf8.encode (String.ofList_toList (s := text)).symm)
              rw [decoded] at same
              cases same
            exact .inr (.inl ⟨_, .notText stored other decoded⟩)
        | ok chars =>
            have text := Utf8.decode_eq_ok_iff.mp decoded
            rw [text] at stored
            cases read : Toml.read platform.tomlRoom (String.ofList chars).toList with
            | ok table => exact .inl ⟨table, _, stored, read⟩
            | error refusal =>
                have stands := Toml.read_error read
                cases refusal with
                | malformed => exact .inr (.inl ⟨_, .malformed stored read⟩)
                | longNumber digits => exact .inr (.inr ⟨_, .longNumber stored read stands⟩)
                | tooDeep => exact .inr (.inr ⟨_, .tooDeep stored read stands⟩)

/-- Problems are told with the path of the file. -/
theorem parseFile_decided (platform : Platform) (files : Files) (path : String)
    : Decided (parseFile platform files path) (Holds platform files (Path.normal path))
        (fun error =>
          error.path = Path.normal path ∧ Unread platform files (Path.normal path) error.problem)
        (Unanswered platform files (Path.normal path)) := by
  have decided := parseAt_decided platform files (Path.normal path)
  apply Decided.of_cases
  · intro table holds
    rw [parseFile, (decided.fits table).mpr holds]
    rfl
  · rintro ⟨problem, _⟩ ⟨rfl, unread⟩
    rw [parseFile, (decided.fails problem).mpr unread]
    rfl
  · intro fault unanswered
    rw [parseFile, (decided.breaks fault).mpr unanswered]
    rfl
  · rcases decided.cases with ⟨table, holds⟩ | ⟨problem, unread⟩ | ⟨fault, unanswered⟩
    · exact .inl ⟨table, holds⟩
    · exact .inr (.inl ⟨⟨problem, Path.normal path⟩, rfl, unread⟩)
    · exact .inr (.inr ⟨fault, unanswered⟩)

-----------------------------------------------------------------------------------------
-- Configurations
-----------------------------------------------------------------------------------------

/-- The file at a path is the text of a configuration whose pattern can be read and has a group. -/
def Fit (platform : Platform) (files : Files) (path : String) (config : Config) : Prop :=
  ∃ table matcher,
    Holds platform files path table
    ∧ ofTable table = config
    ∧ TagMatcher.ofSource platform.patterns config.tagPattern = .ok matcher
    ∧ matcher.pattern.root.groups ≠ []

/-- What is wrong with a configuration file. -/
inductive Unfit (platform : Platform) (files : Files) (path : String) : Problem → Prop
  | unread {problem : Problem} (unread : Unread platform files path problem)
    : Unfit platform files path problem
  | tagPattern {table : Table String} (holds : Holds platform files path table)
    (unmade
      : TagMatcher.ofSource platform.patterns (ofTable table).tagPattern
        = .error (.pattern .malformed))
    : Unfit platform files path (.tagPattern (platform.patternFlaw (ofTable table).tagPattern))
  | noGroup {table : Table String} {matcher : TagMatcher} (holds : Holds platform files path table)
    (made : TagMatcher.ofSource platform.patterns (ofTable table).tagPattern = .ok matcher)
    (none : matcher.pattern.root.groups = [])
    : Unfit platform files path .noGroup

/-- What keeps a configuration file from being answered: what keeps the file, or what stands in its
pattern.
-/
inductive Unjudged (platform : Platform) (files : Files) (path : String) : Fault → Prop
  | unanswered {fault : Fault} (unanswered : Unanswered platform files path fault)
    : Unjudged platform files path fault
  | pattern {table : Table String} {refusal : Pattern.Refusal}
    (holds : Holds platform files path table)
    (unmade
      : TagMatcher.ofSource platform.patterns (ofTable table).tagPattern
        = .error (.pattern refusal))
    (stands : refusal.StandsIn platform.patterns (ofTable table).tagPattern.toList)
    : Unjudged platform files path (.pattern refusal)

theorem load_of_holds {table : Table String}
    (holds : Holds platform files (Path.normal path) table)
    : load platform files (some path)
      = (tagProblem? platform (ofTable table).tagPattern).map fun
        | some problem => .error ⟨problem, Path.normal path⟩
        | none => .ok (ofTable table) := by
  have parsed := ((parseFile_decided platform files path).fits table).mpr holds
  unfold load
  dsimp only
  rw [parsed]
  cases judged : tagProblem? platform (ofTable table).tagPattern with
  | error fault => simp only [bind, Except.bind, judged, Except.map]
  | ok problem => cases problem <;> simp only [bind, Except.bind, judged, Except.map]

/-- A configuration file is fit, has a problem that is told with its path, or is not answered. -/
theorem load_decided (platform : Platform) (files : Files) (path : String)
    : Decided (load platform files (some path)) (Fit platform files (Path.normal path))
        (fun error =>
          error.path = Path.normal path ∧ Unfit platform files (Path.normal path) error.problem)
        (Unjudged platform files (Path.normal path)) := by
  have parsed := parseFile_decided platform files path
  apply Decided.of_cases
  · rintro config ⟨table, matcher, holds, rfl, made, groups⟩
    rw [load_of_holds holds, tagProblem?_of_made made, if_neg groups]
    rfl
  · rintro ⟨problem, _⟩ ⟨rfl, unfit⟩
    cases unfit with
    | unread unread =>
        rw [load, (parsed.fails ⟨problem, Path.normal path⟩).mpr ⟨rfl, unread⟩]
        rfl
    | tagPattern holds unmade =>
        rw [load_of_holds holds, tagProblem?_of_unmade unmade]
        rfl
    | noGroup holds made none =>
        rw [load_of_holds holds, tagProblem?_of_made made, if_pos none]
        rfl
  · intro fault unjudged
    cases unjudged with
    | unanswered unanswered =>
        rw [load, (parsed.breaks fault).mpr unanswered]
        rfl
    | @pattern table refusal holds unmade stands =>
        have other : refusal ≠ .malformed := by
          rintro rfl
          cases stands
        rw [load_of_holds holds, tagProblem?_of_unmade unmade, if_neg other]
        rfl
  · rcases parsed.cases with ⟨table, holds⟩ | ⟨error, same, unread⟩ | ⟨fault, unanswered⟩
    · rcases tagProblem?_cases platform (ofTable table).tagPattern with
        ⟨matcher, made, _⟩ | ⟨unmade, _⟩ | ⟨refusal, _, stands, unmade, _⟩
      · by_cases none : matcher.pattern.root.groups = []
        · exact .inr (.inl ⟨⟨_, Path.normal path⟩, rfl, .noGroup holds made none⟩)
        · exact .inl ⟨_, table, matcher, holds, rfl, made, none⟩
      · exact .inr (.inl ⟨⟨_, Path.normal path⟩, rfl, .tagPattern holds unmade⟩)
      · exact .inr (.inr ⟨_, .pattern holds unmade stands⟩)
    · exact .inr (.inl ⟨error, same, .unread unread⟩)
    · exact .inr (.inr ⟨fault, .unanswered unanswered⟩)

/-- A directory tree keeps a file from being read where its path does not lead to it. -/
theorem load_tree (platform : Platform) (tree : FileTree) (path : String)
    : (∀ error,
        load platform tree.read (some path) = .error (.unreadable (Path.normal path) error)
        ↔ error ≠ .missing
          ∧ error ≠ .denied
          ∧ FileTree.Comes tree (Path.normal path) (.error error))
      ∧ (load platform tree.read (some path) = .ok (.error ⟨.missing, Path.normal path⟩)
        ↔ FileTree.Comes tree (Path.normal path) (.error .missing))
      ∧ (load platform tree.read (some path) = .ok (.error ⟨.denied, Path.normal path⟩)
        ↔ FileTree.Comes tree (Path.normal path) (.error .denied)) := by
  have decided := load_decided platform tree.read path
  refine ⟨fun error => (decided.breaks _).trans ?_, (decided.fails _).trans ?_,
    (decided.fails _).trans ?_⟩
  · constructor
    · intro unjudged
      cases unjudged with
      | unanswered unanswered =>
          cases unanswered with
          | unreadable kept present allowed =>
              refine ⟨?_, ?_, FileTree.read_eq_iff.mp kept⟩
              · rintro rfl
                cases present
              · rintro rfl
                cases allowed
    · intro ⟨present, allowed, comes⟩
      obtain ⟨missing, denied⟩ := comes.eq_of_told
      exact .unanswered (.unreadable (FileTree.read_eq_iff.mpr comes)
        (Bool.eq_false_of_not_eq_true fun told => present (missing told))
        (Bool.eq_false_of_not_eq_true fun told => allowed (denied told)))
  · constructor
    · intro ⟨_, unfit⟩
      cases unfit with
      | unread unread =>
          cases unread with
          | missing kept absent =>
              have comes := FileTree.read_eq_iff.mp kept
              exact comes.eq_of_told.1 absent ▸ comes
    · intro comes
      exact ⟨rfl, .unread (.missing (FileTree.read_eq_iff.mpr comes) rfl)⟩
  · constructor
    · intro ⟨_, unfit⟩
      cases unfit with
      | unread unread =>
          cases unread with
          | denied kept present forbidden =>
              have comes := FileTree.read_eq_iff.mp kept
              exact comes.eq_of_told.2 forbidden ▸ comes
    · intro comes
      exact ⟨rfl, .unread (.denied (FileTree.read_eq_iff.mpr comes) rfl rfl)⟩

/-- The file of one number is a configuration if there is room for a value, unless its digits are
too many.
-/
theorem load_number {first : Char} {digits : List Char} (positive : first ≠ '0')
    (all : ∀ c ∈ first :: digits, Text.isAsciiDigit c)
    (stored : files (Path.normal path) = .ok (Utf8.encode (Toml.numberText (first :: digits))))
    : load platform files (some path)
      = if !platform.tomlRoom [] (first :: digits) then .error .tooDeep
        else if Toml.maxDigits < (first :: digits).length then
          .error (.longNumber (first :: digits).length)
        else .ok (.ok {}) := by
  have decided := load_decided platform files path
  have read : Toml.read platform.tomlRoom (Toml.numberText (first :: digits)).toList = _ :=
    Toml.read_numberText positive all
  split
  · rename_i full
    rw [if_pos full] at read
    exact (decided.breaks _).mpr (.unanswered (.tooDeep stored read (Toml.read_error read)))
  rename_i room
  rw [if_neg room] at read
  split
  · rename_i exceeds
    rw [if_pos exceeds] at read
    exact (decided.breaks _).mpr (.unanswered (.longNumber stored read (Toml.read_error read)))
  · rename_i within
    rw [if_neg within] at read
    refine (load_of_holds ⟨_, stored, read⟩).trans ?_
    have same : ofTable [("a", .int (Text.valueIn 10 (first :: digits)))] = {} := rfl
    have default : tagProblem? platform ({} : Config).tagPattern = .ok none :=
      tagProblem?_default platform
    rw [same, default]
    rfl

end Files

/-- A file is loaded exactly if it is the text of a table whose pattern can be read and has a group.
It is an error with the path of the file exactly if it is missing, denied, no text or no document,
or if its pattern has no group or breaks the grammar. In all other cases no answer is given: when it
cannot be read for another reason, which in a tree is where its path leads; when its numbers go over
a limit, as a number does with one digit more than there may be, or there is no room for one of its
values; and when its pattern cannot be judged.
-/
theorem load_answers (platform : Platform) (files : Files) (path : String)
    : Decided (load platform files (some path)) (Fit platform files (Path.normal path))
        (fun error =>
          error.path = Path.normal path ∧ Unfit platform files (Path.normal path) error.problem)
        (Unjudged platform files (Path.normal path))
      ∧ Decided (parseFile platform files path) (Holds platform files (Path.normal path))
        (fun error =>
          error.path = Path.normal path ∧ Unread platform files (Path.normal path) error.problem)
        (Unanswered platform files (Path.normal path))
      ∧ ((∃ result, load platform files (some path) = .ok result)
        ↔ ∀ fault, ¬Unjudged platform files (Path.normal path) fault)
      ∧ ((∃ result, parseFile platform files path = .ok result)
        ↔ ∀ fault, ¬Unanswered platform files (Path.normal path) fault)
      ∧ (∀ tree : FileTree,
          (∀ error,
            load platform tree.read (some path) = .error (.unreadable (Path.normal path) error)
            ↔ error ≠ .missing
              ∧ error ≠ .denied
              ∧ FileTree.Comes tree (Path.normal path) (.error error))
          ∧ (load platform tree.read (some path) = .ok (.error ⟨.missing, Path.normal path⟩)
            ↔ FileTree.Comes tree (Path.normal path) (.error .missing))
          ∧ (load platform tree.read (some path) = .ok (.error ⟨.denied, Path.normal path⟩)
            ↔ FileTree.Comes tree (Path.normal path) (.error .denied)))
      ∧ ∀ first digits,
          first ≠ '0'
          → (∀ c ∈ first :: digits, Text.isAsciiDigit c)
          → files (Path.normal path) = .ok (Utf8.encode (Toml.numberText (first :: digits)))
          → load platform files (some path)
            = if !platform.tomlRoom [] (first :: digits) then .error .tooDeep
              else if Toml.maxDigits < (first :: digits).length then
                .error (.longNumber (first :: digits).length)
              else .ok (.ok {}) := by
  have loaded := load_decided platform files path
  have parsed := parseFile_decided platform files path
  exact ⟨loaded, parsed, loaded.answered_iff, parsed.answered_iff,
    fun tree => load_tree platform tree path, fun _ _ => load_number⟩

theorem load_answers_seven
    : let files : Files := fun _ => .ok (Utf8.encode "a=7")
      '7' ≠ '0'
      ∧ (∀ c ∈ ['7'], Text.isAsciiDigit c)
      ∧ files (Path.normal "conf") = .ok (Utf8.encode (Toml.numberText ['7']))
      ∧ load .plain files (some "conf") = .ok (.ok {})
      ∧ Fit .plain files (Path.normal "conf") {} := by
  intro files
  have positive : '7' ≠ '0' := by decide
  have all : ∀ c ∈ ['7'], Text.isAsciiDigit c := List.forall_mem_singleton.mpr (by decide)
  have stored : files (Path.normal "conf") = .ok (Utf8.encode (Toml.numberText ['7'])) := rfl
  obtain ⟨decided, _, _, _, _, numbers⟩ := load_answers .plain files "conf"
  have loaded : load .plain files (some "conf") = .ok (.ok {}) := numbers '7' [] positive all stored
  exact ⟨positive, all, stored, loaded, (decided.fits {}).mp loaded⟩

/-- A directory, and a file that would be in a file, are not answered. -/
theorem load_directory
    : let tree : FileTree := [("conf", .directory), ("file", .file [])]
      load .plain tree.read (some "conf") = .error (.unreadable "conf" .isDirectory)
      ∧ parseFile .plain tree.read "conf" = .error (.unreadable "conf" .isDirectory)
      ∧ load .plain tree.read (some "file/conf")
        = .error (.unreadable "file/conf" .notDirectory) := by
  intro tree
  have conf : Path.normal "conf" = "conf" := rfl
  have inner : Path.normal "file/conf" = "file/conf" := rfl
  have directory : tree.read "conf" = .error .isDirectory := by
    have named : ¬"conf".contains '\x00' := by simp
    rw [FileTree.read, if_neg named]
    decide +kernel
  have through : tree.read "file/conf" = .error .notDirectory := by
    have named : ¬"file/conf".contains '\x00' := by simp
    rw [FileTree.read, if_neg named]
    decide +kernel
  have parsed
    : parseFile .plain tree.read "conf" = .error (.unreadable "conf" .isDirectory) := by
    rw [parseFile, parseAt, conf, directory]
    rfl
  refine ⟨?_, parsed, ?_⟩
  · rw [load, parsed]
    rfl
  · rw [load, parseFile, parseAt, inner, through]
    rfl

end Config

end Conductor
