import Conductor.Proofs.PatternLanguages
import Conductor.Proofs.RefNames
import Conductor.ReleaseTag

/-! The grammar of release tags. The default pattern is read as one that spells a language of
versions; the refs that carry a version of this language are the only ones that it takes for release
tags.
-/

namespace Conductor.Pattern

-----------------------------------------------------------------------------------------
-- The default pattern
-----------------------------------------------------------------------------------------

/-- The pattern for a version. -/
def versionNode : Node :=
  let number : Node := .chars asciiDigits 1 none .greedy
  .seq (literal 'v')
    (.seq number
      (.seq (.loop (.seq (literal '.') number) 0 none .greedy)
        (.loop (.seq (literal '-') (.chars .notLineFeed 1 none .greedy)) 0 (some 1) .greedy)))

/-- The pattern for a release tag, which captures the version. -/
def releaseTagNode : Node :=
  .ofList
    (.anchor .start
      :: (Ref.tagStart.toList.map literal
        ++ [.group 1 versionNode, .anchor .finishOrLastLine]))

deriving instance DecidableEq for ReaderState

-----------------------------------------------------------------------------------------
-- What every engine reads alike
-----------------------------------------------------------------------------------------

section Engines

variable (engine : Engine) {state : ReaderState} (few : state.outer.length ≤ 20)

include few

/-- There is room for a few groups. -/
theorem openLevel_bare {other : ReaderState} (same : other.outer = state.outer) (opening : Opening)
    (flags : Flags) (rest : List Token)
    : other.openLevel engine opening flags rest = other.openLevel .bare opening flags rest := by
  have roomy := engine.roomy other.openings rest (by simpa [ReaderState.openings, same] using few)
  simp [ReaderState.openLevel, roomy, Engine.bare]

theorem openCapture_bare (name : Option String) (rest : List Token)
    : openCapture engine state name rest = openCapture .bare state name rest := by
  unfold openCapture
  simp only [openLevel_bare engine few]

theorem openGroup_bare (tokens : List Token)
    : openGroup engine state tokens = openGroup .bare state tokens := by
  have flags (tokens : List Token)
    : flagGroup engine state tokens = flagGroup .bare state tokens := by
    unfold flagGroup
    simp only [openLevel_bare engine few]
  unfold openGroup
  simp only [openLevel_bare engine few, openCapture_bare engine few, flags]

/-- Few parts of a pattern are left to the engine: names of characters, which stand behind an escape
or in a class.
-/
theorem readPart_bare {token : Token} (noClass : token ≠ .plain '[') (noName : token ≠ .escaped 'N')
    (rest : List Token)
    : readPart engine state token rest = readPart .bare state token rest := by
  cases token with
  | broken => rfl
  | escaped c =>
      have code : codeEscape engine c rest = codeEscape .bare c rest := by
        unfold codeEscape
        split
        case h_4 => exact absurd rfl noName
        all_goals rfl
      simp only [readPart, escape, code]
  | plain c =>
      unfold readPart
      dsimp only
      split
      · rfl
      split
      · rfl
      split
      case h_1 => exact absurd rfl noClass
      case h_5 => exact openGroup_bare engine few rest
      all_goals rfl

end Engines

-----------------------------------------------------------------------------------------
-- Parts in a row
-----------------------------------------------------------------------------------------

/-- Reads a number of parts and ends of groups, in a pattern without alternatives, in which few
groups stand within one another and nothing is left to an engine.
-/
def readParts : Nat → ReaderState → List Token → Option (ReaderState × List Token)
  | 0, state, tokens => some (state, tokens)
  | _ + 1, _, [] => none
  | n + 1, state, token :: rest =>
    if token = .plain '|' ∨ token = .plain '[' ∨ token = .escaped 'N' ∨ 20 < state.outer.length then
      none
    else if token = .plain ')' then
      match state.outer with
      | [] => none
      | outer :: outers => readParts n (closeLevel state outer outers) rest
    else
      match readPart .bare state token rest with
      | .ok (state, rest) => readParts n state rest
      | .error _ => none

variable {engine : Engine}

theorem readAll_part {token : Token} (fuel : Nat) (state : ReaderState) (rest : List Token)
    (plain : token ≠ .plain '|') (inner : token ≠ .plain ')')
    : readAll engine (fuel + 1) state (token :: rest)
      = (do
          let (state, rest) ← readPart engine state token rest
          readAll engine fuel state rest) := by
  rw [readAll.eq_def]
  split <;> simp_all

/-- Reading goes on behind the parts that are read first, by induction on their number. -/
theorem readAll_of_readParts {n fuel : Nat} {state next : ReaderState} {tokens rest : List Token}
    (parts : readParts n state tokens = some (next, rest))
    : readAll engine (n + fuel) state tokens = readAll engine fuel next rest := by
  induction n generalizing state tokens with
  | zero =>
      cases parts
      rw [Nat.zero_add]
  | succ n ih =>
      rw [Nat.add_right_comm]
      cases tokens with
      | nil => cases parts
      | cons token tokens =>
          simp only [readParts] at parts
          split at parts
          · cases parts
          rename_i common
          simp only [not_or, Nat.not_lt] at common
          obtain ⟨plain, noClass, noName, few⟩ := common
          split at parts
          · subst token
            split at parts
            · cases parts
            · rename_i outer outers levels
              simp only [readAll, levels]
              exact ih parts
          · rename_i inner
            split at parts
            · rename_i read
              rw [readAll_part _ _ _ plain inner, readPart_bare engine few noClass noName, read]
              exact ih parts
            · cases parts

/-- The ASCII digits as a class are read in one part. -/
theorem readAll_digits {state : ReaderState} (fuel : Nat) (rest : List Token)
    (plain : state.level.flags = {})
    : readAll engine (fuel + 1) state
        (.plain '[' :: .plain '0' :: .plain '-' :: .plain '9' :: .plain ']' :: rest)
      = readAll engine fuel (state.pushClass asciiDigits) rest := by
  have items
    : charClass engine {} (.plain '0' :: .plain '-' :: .plain '9' :: .plain ']' :: rest)
      = .ok (asciiDigits, rest) := by
    cbv
  have read
    : readPart engine state (.plain '[')
        (.plain '0' :: .plain '-' :: .plain '9' :: .plain ']' :: rest)
      = .ok (state.pushClass asciiDigits, rest) := by
    simp only [readPart, plain, Bool.false_and, Bool.false_eq_true, if_false, items]
    rfl
  rw [readAll_part _ _ _ (by decide) (by decide), read]
  rfl

def defaultTokens : List Token :=
  Token.ofChars defaultTagPattern.toList

/-- The elements of the default pattern in front of the version, the latest first. -/
def outerItems : List Item :=
  (Ref.tagStart.toList.map fun c => ⟨literal c, .plain⟩).reverse ++ [⟨.anchor .start, .anchor⟩]

/-- The reader of the default pattern in front of the digits of the first number. -/
def beforeMajor : ReaderState := { ReaderState.start with
  level := ⟨.capture 1, [], [⟨literal 'v', .plain⟩], {}⟩
  outer := [⟨.plain, [], outerItems, {}⟩]
  groupCount := 1 }

/-- The reader of the default pattern in front of the digits of the further numbers. -/
def beforeMinor : ReaderState := { ReaderState.start with
  level := ⟨.plain, [], [⟨literal '.', .plain⟩], {}⟩
  outer := [
    ⟨.capture 1, [],
      [⟨.chars asciiDigits 1 none .greedy, .repetition⟩, ⟨literal 'v', .plain⟩], {}⟩,
    ⟨.plain, [], outerItems, {}⟩]
  groupCount := 1
  hasRepetition := true }

/-- The reader of the default pattern at its end. -/
def behindDefault : ReaderState := { ReaderState.start with
  level :=
    ⟨.plain, [],
      ⟨.anchor .finishOrLastLine, .anchor⟩ :: ⟨.group 1 versionNode, .plain⟩ :: outerItems, {}⟩
  groupCount := 1
  widths := [(1, 2, Node.widthLimit)]
  hasRepetition := true }

/-- A source is a pattern if its tokens are read to an end at which nothing is wrong with it. -/
theorem parse_of_readAll {source : String} {last : ReaderState}
    (read
      : readAll engine ((Token.ofChars source.toList).length + 1) .start
          (Token.ofChars source.toList)
        = .ok last)
    (compiled : engine.compiles source = true) (fixed : last.badWidth = false)
    (sober : last.globalTemplate = false)
    : parse engine source = .ok ⟨source, last.level.body, last.groupCount⟩ := by
  have made : ofReader engine source last = .ok ⟨source, last.level.body, last.groupCount⟩ := by
    simp [ofReader, compiled, fixed, sober]
  simp only [parse, read]
  exact made

/-- The default pattern is read as the pattern for a release tag.
Witness: the parts between the classes of digits are read by computation.
-/
theorem parse_default (engine : Engine)
    : parse engine defaultTagPattern = .ok ⟨defaultTagPattern, releaseTagNode, 1⟩ := by
  have outset
    : readParts 13 .start defaultTokens = some (beforeMajor, defaultTokens.drop 13) := by
    decide +kernel
  have middle
    : readParts 3 (beforeMajor.pushClass asciiDigits) (defaultTokens.drop 18)
      = some (beforeMinor, defaultTokens.drop 23) := by
    decide +kernel
  have last
    : readParts 11 (beforeMinor.pushClass asciiDigits) (defaultTokens.drop 28)
      = some (behindDefault, []) := by
    decide +kernel
  have read : readAll engine 42 .start defaultTokens = .ok behindDefault := by
    calc readAll engine (13 + 29) .start defaultTokens
      _ = readAll engine (28 + 1) beforeMajor (defaultTokens.drop 13) := readAll_of_readParts outset
      _ = readAll engine (3 + 25) (beforeMajor.pushClass asciiDigits) (defaultTokens.drop 18) :=
          readAll_digits 28 (defaultTokens.drop 18) rfl
      _ = readAll engine (24 + 1) beforeMinor (defaultTokens.drop 23) := readAll_of_readParts middle
      _ = readAll engine (11 + 13) (beforeMinor.pushClass asciiDigits) (defaultTokens.drop 28) :=
          readAll_digits 24 (defaultTokens.drop 28) rfl
      _ = readAll engine (12 + 1) behindDefault [] := readAll_of_readParts last
      _ = .ok behindDefault := rfl
  have count : defaultTokens.length + 1 = 42 := by decide +kernel
  have body : behindDefault.level.body = releaseTagNode := by decide +kernel
  rw [← count] at read
  rw [parse_of_readAll read (engine.brief _ (by decide +kernel)) rfl rfl, body]
  rfl

end Conductor.Pattern

namespace Conductor

open Pattern Computability

-----------------------------------------------------------------------------------------
-- Versions
-----------------------------------------------------------------------------------------

/-- One or more ASCII digits. -/
def IsNumber (text : List Char) : Prop :=
  text ≠ [] ∧ ∀ c ∈ text, c.isDigit = true

/-- One or more characters, none of which is a line feed. -/
def IsLine (text : List Char) : Prop :=
  text ≠ [] ∧ ∀ c ∈ text, c ≠ '\n'

/-- A version as the release grammar has it: numbers, and maybe a prerelease. -/
structure ReleaseVersion where
  major : List Char
  minors : List (List Char)
  prerelease : Option (List Char)
  major_number : IsNumber major
  minors_number : ∀ minor ∈ minors, IsNumber minor
  prerelease_line : ∀ name ∈ prerelease, IsLine name

namespace ReleaseVersion

/-- The numbers of a version, with a full stop before each but the first. -/
def numeric (version : ReleaseVersion) : List Char :=
  version.major ++ version.minors.flatMap ('.' :: ·)

/-- The prerelease of a version behind a hyphen, if it has one. -/
def tail (version : ReleaseVersion) : List Char :=
  version.prerelease.elim [] ('-' :: ·)

/-- A version as it is written. -/
def text (version : ReleaseVersion) : String :=
  String.ofList ('v' :: (version.numeric ++ version.tail))

def numbers : Language Char := {text | IsNumber text}

def lines : Language Char := {text | IsLine text}

/-- The texts of versions, put together like the pattern. -/
def language : Language Char :=
  {['v']} * (numbers * (({['.']} * numbers)∗ * (1 + {['-']} * lines)))

theorem versionNode_spells : versionNode.Spells language := by
  have number : (Node.chars asciiDigits 1 none .greedy).Spells numbers := by
    have spells := chars_spells asciiDigits
    simp only [asciiDigits_has] at spells
    exact spells
  have line : (Node.chars .notLineFeed 1 none .greedy).Spells lines := by
    have spells := chars_spells .notLineFeed
    simp only [notLineFeed_has] at spells
    exact spells
  have minor := (literal_spells '.').seq number
  have moves : [] ∉ {['.']} * numbers := by
    rintro ⟨_, rfl, _, _, ⟨⟩⟩
  exact (literal_spells 'v').seq
    (number.seq ((minor.loop moves).seq ((literal_spells '-').seq line).option))

theorem mem_minors_iff {text : List Char}
    : text ∈ ({['.']} * numbers : Language Char)∗
      ↔ ∃ minors : List (List Char),
          (∀ minor ∈ minors, IsNumber minor) ∧ minors.flatMap ('.' :: ·) = text := by
  constructor
  · rintro ⟨texts, rfl, members⟩
    induction texts with
    | nil => exact ⟨[], nofun, rfl⟩
    | cons text texts ih =>
        obtain ⟨member, others⟩ := List.forall_mem_cons.mp members
        obtain ⟨_, rfl, minor, isNumber, rfl⟩ := member
        obtain ⟨minors, areNumbers, same⟩ := ih others
        refine ⟨minor :: minors, List.forall_mem_cons.mpr ⟨isNumber, areNumbers⟩, ?_⟩
        simp [← same]
  · rintro ⟨minors, areNumbers, rfl⟩
    refine Language.mem_kstar.mpr ⟨minors.map ('.' :: ·), List.flatMap_def, ?_⟩
    simp only [List.mem_map, forall_exists_index, and_imp]
    rintro _ minor member rfl
    have isNumber : minor ∈ numbers := areNumbers minor member
    exact Language.append_mem_mul (Set.mem_singleton ['.']) isNumber

theorem mem_tail_iff {text : List Char}
    : text ∈ (1 + {['-']} * lines : Language Char)
      ↔ ∃ prerelease : Option (List Char),
          (∀ name ∈ prerelease, IsLine name) ∧ text = prerelease.elim [] ('-' :: ·) := by
  constructor
  · rintro (empty | ⟨_, rfl, name, isLine, rfl⟩)
    · exact ⟨none, nofun, empty⟩
    · refine ⟨some name, ?_, rfl⟩
      rintro _ ⟨⟩
      exact isLine
  · rintro ⟨_ | name, isLine, rfl⟩
    · exact Or.inl rfl
    · have isLine : name ∈ lines := isLine name rfl
      exact Or.inr (Language.append_mem_mul (Set.mem_singleton ['-']) isLine)

/-- The language of versions has their texts only, part by part. -/
theorem mem_language_iff {text : List Char}
    : text ∈ language
      ↔ ∃ version : ReleaseVersion, text = 'v' :: (version.numeric ++ version.tail) := by
  constructor
  · intro member
    obtain ⟨_, rfl, _, ⟨major, isNumber, _, ⟨rest, isRest, end', isEnd, rfl⟩, rfl⟩, rfl⟩ := member
    obtain ⟨minors, areNumbers, rfl⟩ := mem_minors_iff.mp isRest
    obtain ⟨prerelease, isLine, rfl⟩ := mem_tail_iff.mp isEnd
    refine ⟨⟨major, minors, prerelease, isNumber, areNumbers, isLine⟩, ?_⟩
    simp [numeric, tail]
  · rintro ⟨version, rfl⟩
    have isNumber : version.major ∈ numbers := version.major_number
    rw [numeric, List.append_assoc]
    refine Language.append_mem_mul (Set.mem_singleton ['v']) ?_
    exact Language.append_mem_mul isNumber
      (Language.append_mem_mul (mem_minors_iff.mpr ⟨_, version.minors_number, rfl⟩)
        (mem_tail_iff.mpr ⟨_, version.prerelease_line, rfl⟩))

variable (version : ReleaseVersion)

theorem toList_text : version.text.toList = 'v' :: (version.numeric ++ version.tail) :=
  String.toList_ofList

theorem numeric_eq_intercalate
    : version.numeric = ['.'].intercalate (version.major :: version.minors) := by
  rw [numeric]
  generalize version.major = major
  induction version.minors generalizing major with
  | nil => simp
  | cons minor minors ih => simp [List.flatMap_cons, ih minor]

/-- The numbers of a version are found again between the full stops. -/
theorem splitOn_numeric
    : version.numeric.splitOn '.' = version.major :: version.minors := by
  rw [numeric_eq_intercalate]
  refine List.splitOn_intercalate '.' ?_ nofun
  have noStop : ∀ number, IsNumber number → '.' ∉ number := by
    intro number isNumber member
    exact absurd (isNumber.2 '.' member) (by decide)
  exact List.forall_mem_cons.mpr ⟨noStop _ version.major_number,
    fun minor member => noStop minor (version.minors_number minor member)⟩

theorem isDigit_or_stop_of_mem_numeric {c : Char} (member : c ∈ version.numeric)
    : c.isDigit = true ∨ c = '.' := by
  simp only [numeric, List.mem_append, List.mem_flatMap, List.mem_cons] at member
  rcases member with member | ⟨minor, isMinor, same | member⟩
  · exact Or.inl (version.major_number.2 c member)
  · exact Or.inr same
  · exact Or.inl ((version.minors_number minor isMinor).2 c member)

/-- What follows the numbers of a version is nothing or starts with a hyphen. -/
def IsTail (text : List Char) : Prop :=
  ∀ c ∈ text.head?, c = '-'

theorem isTail_tail : IsTail version.tail := by
  rw [IsTail, tail]
  cases version.prerelease <;> simp

/-- A text is cut into numbers and the rest in one way only: at the first hyphen. -/
theorem takeWhile_numeric {numbers rest : List Char} (plain : '-' ∉ numbers) (isTail : IsTail rest)
    : (numbers ++ rest).takeWhile (· != '-') = numbers := by
  rw [List.takeWhile_append_of_pos]
  · cases rest with
    | nil => simp
    | cons c rest => simp [isTail c rfl]
  · intro c member
    rw [bne_iff_ne]
    rintro rfl
    exact plain member

theorem numeric_unique {numbers rest : List Char} (plain : '-' ∉ numbers) (isTail : IsTail rest)
    (same : version.numeric ++ version.tail = numbers ++ rest)
    : version.numeric = numbers ∧ version.tail = rest := by
  have ownPlain : '-' ∉ version.numeric := by
    intro member
    rcases version.isDigit_or_stop_of_mem_numeric member with digit | stop
    · exact absurd digit (by decide)
    · exact absurd stop (by decide)
  have numbersSame : version.numeric = numbers := by
    rw [← takeWhile_numeric ownPlain version.isTail_tail, same, takeWhile_numeric plain isTail]
  rw [numbersSame] at same
  exact ⟨numbersSame, List.append_cancel_left same⟩

theorem tail_ne_hyphen : version.tail ≠ ['-'] := by
  rw [tail]
  cases found : version.prerelease with
  | none => exact nofun
  | some name =>
      intro same
      exact (version.prerelease_line name found).1 (List.cons.inj same).2

/-- No version is written with a line feed. -/
theorem lineFeed_not_mem_text : '\n' ∉ version.text.toList := by
  rw [toList_text, List.mem_cons, List.mem_append, tail]
  rintro (same | member | member)
  · exact absurd same (by decide)
  · rcases version.isDigit_or_stop_of_mem_numeric member with digit | stop
    · exact absurd digit (by decide)
    · exact absurd stop (by decide)
  · cases found : version.prerelease with
    | none => simp [found] at member
    | some name =>
        simp only [found, Option.elim_some, List.mem_cons] at member
        rcases member with same | member
        · exact absurd same (by decide)
        · exact (version.prerelease_line name found).2 '\n' member rfl

end ReleaseVersion

-----------------------------------------------------------------------------------------
-- Release tags
-----------------------------------------------------------------------------------------

/-- A match of a whole ref as a release tag notes the version that the ref carries. -/
theorem releaseTagNode_sound {subject : List Char} {place : Place}
    (matched : releaseTagNode.fullMatch? subject = some place)
    : ∃ version : ReleaseVersion,
        subject = Ref.tagStart.toList ++ version.text.toList
        ∧ place.group? 1 = some version.text.toList := by
  obtain ⟨leads, whole⟩ := Node.fullMatch?_leads matched
  simp only [releaseTagNode, ofList_cons_leads, ofList_literals_leads] at leads
  obtain ⟨_, ⟨_, rfl⟩, mid, reads, _, ⟨next, spells, rfl⟩, _, ⟨_, rfl⟩, rfl⟩ := leads
  obtain ⟨text, member, reads'⟩ := (ReleaseVersion.versionNode_spells _ mid next).mp spells
  obtain ⟨version, rfl⟩ := ReleaseVersion.mem_language_iff.mp member
  have whole : next.after = [] := whole
  refine ⟨version, ?_, ?_⟩
  · have subject := reads.after
    rw [reads'.after, whole, List.append_nil, ← version.toList_text] at subject
    exact subject
  · have length := reads'.position
    have after := reads'.after
    rw [whole, List.append_nil] at after
    simp [Place.group?, length, after, version.toList_text]

/-- A ref that carries a version is matched as a release tag. -/
theorem releaseTagNode_complete (version : ReleaseVersion)
    : (releaseTagNode.fullMatch? (Ref.tagStart.toList ++ version.text.toList)).isSome := by
  rw [Node.fullMatch?_isSome_iff]
  have ahead
    : (Place.start (Ref.tagStart.toList ++ version.text.toList)).after
      = Ref.tagStart.toList ++ version.text.toList := rfl
  obtain ⟨mid, reads, rest⟩ := Place.Reads.exists_next ahead
  rw [← List.append_nil version.text.toList] at rest
  obtain ⟨next, reads', whole⟩ := Place.Reads.exists_next rest
  have leads : versionNode.Leads [(1, mid.position)] mid next := by
    refine (ReleaseVersion.versionNode_spells _ mid next).mpr ⟨_, ?_, reads'⟩
    exact ReleaseVersion.mem_language_iff.mpr ⟨version, version.toList_text⟩
  let noted : Place := { next with
    groups := (1, ⟨mid.after, next.position - mid.position⟩) :: next.groups }
  refine ⟨noted, ?_, whole⟩
  simp only [releaseTagNode, ofList_cons_leads, ofList_literals_leads]
  have finished : Anchor.finishOrLastLine.holds noted = true := by
    simp [Anchor.holds, noted, whole]
  exact ⟨_, ⟨rfl, rfl⟩, mid, reads, noted, ⟨next, leads, rfl⟩, noted, ⟨finished, rfl⟩, rfl⟩

namespace TagMatcher

/-- The matcher for the default pattern. -/
def releases : TagMatcher := ⟨⟨defaultTagPattern, releaseTagNode, 1⟩⟩

theorem ofSource_default (engine : Engine)
    : ofSource engine defaultTagPattern = .ok releases := by
  rw [ofSource, parse_default]
  rfl

/-- From a ref that carries a version the version is returned. -/
theorem version?_release (version : ReleaseVersion)
    : releases.version? (Ref.tagStart ++ version.text) = .ok (some version.text, []) := by
  have matched := releaseTagNode_complete version
  rw [← String.toList_append] at matched
  obtain ⟨place, matched⟩ := Option.isSome_iff_exists.mp matched
  obtain ⟨found, carries, noted⟩ := releaseTagNode_sound matched
  rw [String.toList_append] at carries
  have same := List.append_cancel_left carries
  rw [← same] at noted
  simp only [version?, releases, matched]
  simp [noted]

/-- In a ref that carries no version none is found. -/
theorem version?_other {ref : String}
    (other : ∀ version : ReleaseVersion, ref ≠ Ref.tagStart ++ version.text)
    : releases.version? ref
      = .ok (none, if Ref.isTag ref then [releases.notice ref] else []) := by
  cases matched : releaseTagNode.fullMatch? ref.toList with
  | none => simp only [version?, releases, matched]
  | some place =>
      obtain ⟨version, carries, _⟩ := releaseTagNode_sound matched
      rw [← String.toList_append] at carries
      exact absurd (String.toList_injective carries) (other version)

/-- A ref is refused if no version is found in it, whatever is written about it. -/
def Refuses (matcher : TagMatcher) (ref : String) : Prop :=
  ∃ messages, matcher.version? ref = .ok (none, messages)

theorem refuses_of_other {ref : String}
    (other : ∀ version : ReleaseVersion, ref ≠ Ref.tagStart ++ version.text)
    : releases.Refuses ref :=
  ⟨_, version?_other other⟩

/-- A version with other numbers or another prerelease is none. -/
theorem refuses_of_parts {numbers rest : String} (plain : '-' ∉ numbers.toList)
    (isTail : ReleaseVersion.IsTail rest.toList)
    (wrong : ∀ version : ReleaseVersion,
      version.numeric = numbers.toList → version.tail ≠ rest.toList)
    : releases.Refuses ("refs/tags/v" ++ numbers ++ rest) := by
  refine refuses_of_other fun version carries => ?_
  have chars := congrArg String.toList carries
  simp only [String.toList_append, version.toList_text, List.append_assoc] at chars
  have start : "refs/tags/v".toList = Ref.tagStart.toList ++ ['v'] := by decide +kernel
  rw [start, List.append_assoc] at chars
  have same := (List.cons.inj (List.append_cancel_left chars)).2
  obtain ⟨numbersSame, restSame⟩ := version.numeric_unique plain isTail same.symm
  exact wrong version numbersSame restSame

/-- Release tags by default are exactly the refs that carry a version of the release grammar; the
version is returned as it is written, and nothing is noticed. About any other tag one notice is
written, and nothing about a ref that is no tag. Refused are, in particular, refs that end in a line
feed, with any character but ASCII digits and full stops before the first hyphen, with no digit on
either side of a full stop there, with nothing behind that hyphen, or that do not begin as tags do.
-/
theorem releases_exactly_grammar (engine : Engine)
    : ∃ matcher,
        ofSource engine defaultTagPattern = .ok matcher
        ∧ (∀ ref v messages,
            matcher.version? ref = .ok (some v, messages)
            ↔ ref = "refs/tags/" ++ v
              ∧ (∃ version : ReleaseVersion, v = version.text)
              ∧ messages = [])
        ∧ (∀ ref,
            (∀ version : ReleaseVersion, ref ≠ "refs/tags/" ++ version.text)
            → ((∃ name, ref = "refs/tags/" ++ name)
                → matcher.version? ref
                  = .ok
                      (none,
                        [.info ("Ref " ++ ref
                          ++ " does not match expected official release tag regex ("
                          ++ defaultTagPattern ++ "); not releasing.")]))
              ∧ ((¬∃ name, ref = "refs/tags/" ++ name)
                  → matcher.version? ref = .ok (none, [])))
        ∧ (∀ text, matcher.Refuses (text ++ "\n"))
        ∧ (∀ numbers rest : String,
            '-' ∉ numbers.toList
            → (rest = "" ∨ ∃ name, rest = "-" ++ name)
            → (∃ c ∈ numbers.toList, c.isDigit = false ∧ c ≠ '.')
              ∨ [] ∈ numbers.toList.splitOn '.'
              ∨ rest = "-"
            → matcher.Refuses ("refs/tags/v" ++ numbers ++ rest))
        ∧ (∀ ref, (¬∃ name, ref = "refs/tags/" ++ name) → matcher.Refuses ref) := by
  refine ⟨releases, ofSource_default engine, ?accepts, ?notices, ?lineFeed, ?parts, ?before⟩
  case accepts =>
    intro ref v messages
    constructor
    · intro found
      by_cases carries : ∃ version : ReleaseVersion, ref = Ref.tagStart ++ version.text
      · obtain ⟨version, rfl⟩ := carries
        rw [version?_release] at found
        cases found
        exact ⟨rfl, ⟨version, rfl⟩, rfl⟩
      · rw [version?_other (not_exists.mp carries)] at found
        cases found
    · rintro ⟨rfl, ⟨version, rfl⟩, rfl⟩
      exact version?_release version
  case notices =>
    intro ref other
    have refused := version?_other other
    constructor
    · intro isTag
      rw [refused, if_pos (Ref.isTag_iff.mpr isTag)]
      rfl
    · intro noTag
      rw [refused, if_neg (noTag ∘ Ref.isTag_iff.mp)]
  case lineFeed =>
    intro text
    refine refuses_of_other fun version carries => ?_
    have member : '\n' ∈ (text ++ "\n").toList := by simp [String.toList_append]
    rw [carries, String.toList_append, List.mem_append] at member
    rcases member with inTag | inVersion
    · exact absurd inTag (by decide +kernel)
    · exact version.lineFeed_not_mem_text inVersion
  case parts =>
    intro numbers rest plain begins wrong
    have isTail : ReleaseVersion.IsTail rest.toList := by
      rcases begins with rfl | ⟨name, rfl⟩
      · exact nofun
      · have first : ("-" ++ name).toList = '-' :: name.toList := String.toList_append
        rw [first]
        rintro c ⟨⟩
        rfl
    refine refuses_of_parts plain isTail fun version numbersSame restSame => ?_
    rcases wrong with ⟨c, member, notDigit, notStop⟩ | empty | rfl
    · rw [← numbersSame] at member
      rcases version.isDigit_or_stop_of_mem_numeric member with digit | stop
      · rw [digit] at notDigit
        cases notDigit
      · exact notStop stop
    · rw [← numbersSame, version.splitOn_numeric] at empty
      rcases List.mem_cons.mp empty with noMajor | noMinor
      · exact version.major_number.1 noMajor.symm
      · exact (version.minors_number [] noMinor).1 rfl
    · exact version.tail_ne_hyphen restSame
  case before =>
    intro ref noTag
    refine refuses_of_other fun version carries => ?_
    exact noTag ⟨_, carries⟩

end TagMatcher

end Conductor
