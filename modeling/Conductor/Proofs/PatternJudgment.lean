import Conductor.Proofs.PatternLimits
import Conductor.Proofs.TagPatterns

/-! How patterns of release tags are judged. A pattern is judged as it is read: it is fit if it can
be read and has a group, and unfit if it has none or breaks the grammar; one that goes over a limit
of the reader or of the platform is not judged at all.
-/

namespace Conductor.Pattern

-----------------------------------------------------------------------------------------
-- Counted repetitions
-----------------------------------------------------------------------------------------

theorem ofChars_plain {text : List Char} (plain : '\\' ∉ text)
    : Token.ofChars text = text.map .plain := by
  fun_induction Token.ofChars text with
  | case1 => rfl
  | case2 => exact absurd List.mem_cons_self plain
  | case3 c rest ih => exact absurd List.mem_cons_self plain
  | case4 c rest _ _ ih =>
      rw [ih fun member => plain (List.mem_cons_of_mem _ member)]
      rfl

/-- A run of characters is taken up to a part that is none of them. -/
theorem takeChars_run {p : Char → Bool} {run : List Char} (all : ∀ c ∈ run, p c) {limit : Nat}
    (room : run.length ≤ limit) {c : Char} (stops : p c = false) (rest : List Token)
    : Token.takeChars p limit (run.map .plain ++ .plain c :: rest) = (run, .plain c :: rest) := by
  induction run generalizing limit with
  | nil =>
      cases limit with
      | zero => rfl
      | succ limit => simp [Token.takeChars, stops]
  | cons d run ih =>
      obtain ⟨limit, rfl⟩ : ∃ n, limit = n + 1 := ⟨limit - 1, by simp at room; omega⟩
      have others := List.forall_mem_cons.mp all
      have taken := ih others.2 (Nat.le_of_succ_le_succ room)
      rw [List.map_cons, List.cons_append, Token.takeChars, if_pos others.1, taken]

/-- The source of a group that is to be repeated as often as digits say. -/
def countedSource (digits : List Char) : String :=
  String.ofList (['(', 'x', ')', '\x7b'] ++ digits ++ ['\x7d'])

/-- The reader behind the group that is to be repeated. -/
def behindGroup : ReaderState := { ReaderState.start with
  level := ⟨.plain, [], [⟨.group 1 (literal 'x'), .plain⟩], {}⟩
  groupCount := 1
  widths := [(1, 1, 1)] }

theorem bounds?_counted {digits : List Char} (nonempty : digits ≠ [])
    (all : ∀ c ∈ digits, Text.isAsciiDigit c)
    : bounds? (digits.map .plain ++ [.plain '\x7d'])
      = (repeatCount digits).map fun count => some (count, some count, []) := by
  have other
    : ∀ rest, digits.map Token.plain ++ [.plain '\x7d'] ≠ .plain '\x7d' :: rest := by
    intro rest same
    obtain ⟨c, more, rfl⟩ := List.exists_cons_of_ne_nil nonempty
    cases same
    exact absurd (all _ List.mem_cons_self) (by decide)
  have room : digits.length ≤ (digits.map Token.plain ++ [Token.plain '\x7d']).length := by simp
  have closes : Text.isAsciiDigit '\x7d' = false := by decide
  have taken := takeChars_run all room closes []
  rw [bounds?_eq other taken, upperDigits_other digits (by simp)]
  have present : digits.isEmpty = false := by
    rwa [List.isEmpty_eq_false_iff]
  simp only [boundsOf, present]
  cases repeatCount digits with
  | error refusal => rfl
  | ok count => simp [bind, Except.bind, Except.map]

/-- The reader behind the repetition. -/
def behindRepetition (count : Nat) : ReaderState := { behindGroup with
  level := ⟨.plain, [], [⟨.loop (.group 1 (literal 'x')) count (some count) .greedy, .repetition⟩],
    {}⟩
  hasRepetition := true }

/-- A group that is to be repeated is refused for its number of runs, if that is refused, and else
is read as that repetition, if the engine can compile it.
-/
theorem parse_counted (engine : Engine) {digits : List Char} (nonempty : digits ≠ [])
    (all : ∀ c ∈ digits, Text.isAsciiDigit c)
    : parse engine (countedSource digits)
      = (repeatCount digits >>= fun count =>
          if engine.compiles (countedSource digits) then
            .ok
              ⟨countedSource digits, .loop (.group 1 (literal 'x')) count (some count) .greedy, 1⟩
          else .error .tooDeep) := by
  have plain : '\\' ∉ ['(', 'x', ')', '\x7b'] ++ digits ++ ['\x7d'] := by
    intro member
    simp only [List.mem_append, List.mem_cons, List.not_mem_nil, or_false] at member
    rcases member with (fixed | digit) | fixed
    · revert fixed
      decide
    · exact absurd (all _ digit) (by decide)
    · revert fixed
      decide
  have tokens
    : Token.ofChars (countedSource digits).toList
      = .plain '(' :: .plain 'x' :: .plain ')' :: .plain '\x7b'
          :: (digits.map .plain ++ [.plain '\x7d']) := by
    rw [countedSource, String.toList_ofList, ofChars_plain plain]
    simp
  have front (rest : List Token)
    : readParts 3 .start (.plain '(' :: .plain 'x' :: .plain ')' :: rest)
      = some (behindGroup, rest) := by
    rfl
  -- the repetition is the last part
  have last (fuel : Nat)
    : readAll engine (fuel + 2) behindGroup
        (.plain '\x7b' :: (digits.map .plain ++ [.plain '\x7d']))
      = (repeatCount digits).map behindRepetition := by
    have brace
      : readPart engine behindGroup (.plain '\x7b') (digits.map .plain ++ [.plain '\x7d'])
        = (repeatCount digits >>= fun count => repeatLast behindGroup count (some count) []) := by
      simp only [readPart, bounds?_counted nonempty all]
      cases repeatCount digits <;> rfl
    rw [readAll_part _ _ _ (by decide) (by decide), brace]
    cases repeatCount digits <;> rfl
  have whole
    : readAll engine ((Token.ofChars (countedSource digits).toList).length + 1) .start
        (Token.ofChars (countedSource digits).toList)
      = (repeatCount digits).map behindRepetition := by
    have fuel
      : (Token.ofChars (countedSource digits).toList).length + 1 = 3 + (digits.length + 1 + 2) := by
      simp [tokens]
      omega
    rw [fuel, tokens, readAll_of_readParts (front _), last]
  unfold parse
  simp only [whole]
  cases repeatCount digits with
  | error refusal => rfl
  | ok count =>
      change ofReader engine _ (behindRepetition count) = _
      unfold ofReader
      cases engine.compiles (countedSource digits) <;> rfl

-----------------------------------------------------------------------------------------
-- Nested groups
-----------------------------------------------------------------------------------------

/-- The source of a character within groups. -/
def nestedSource (count : Nat) : String :=
  String.ofList (List.replicate count '(' ++ 'x' :: List.replicate count ')')

/-- The reader within as many groups as told. -/
def within : Nat → ReaderState
  | 0 => .start
  | count + 1 => { within count with
      level := ⟨.capture (count + 1), [], [], {}⟩
      outer := (within count).level :: (within count).outer
      groupCount := count + 1 }

theorem within_outer (count : Nat) : (within count).outer.length = count := by
  induction count with
  | zero => rfl
  | succ count ih => rw [within, List.length_cons, ih]

theorem within_groupCount (count : Nat) : (within count).groupCount = count := by
  cases count <;> rfl

theorem within_flags (count : Nat) : (within count).level.flags = {} := by
  cases count <;> rfl

/-- What opens as many groups as told, the innermost first. -/
def captures : Nat → List Opening
  | 0 => []
  | count + 1 => .capture (count + 1) :: captures count

theorem within_openings (count : Nat) : (within count).openings = captures count := by
  induction count with
  | zero => rfl
  | succ count ih =>
      rw [captures, ← ih]
      rfl

/-- The parts of a character within groups of which some are still to be opened. -/
def nestedRest (closing more : Nat) : List Token :=
  List.replicate more (.plain '(') ++ .plain 'x' :: List.replicate closing (.plain ')')

/-- An engine has room for some further groups within those that are open, one within the other. -/
def Engine.fits (engine : Engine) (closing opened : Nat) : Nat → Bool
  | 0 => true
  | more + 1 =>
    engine.room (captures opened) (nestedRest closing more)
      && engine.fits closing (opened + 1) more

section Nested

variable {engine : Engine}

/-- One group more is opened, or there is no room for it. -/
theorem readPart_opens {count : Nat} {rest : List Token}
    (capture : ∀ more, rest ≠ .plain '?' :: more)
    : readPart engine (within count) (.plain '(') rest
      = if engine.room (captures count) rest then .ok (within (count + 1), rest)
        else .error .tooDeep := by
  have plain : (within count).level.flags.verbose = false := by rw [within_flags]
  have opened
    : openGroup engine (within count) rest
      = (openCapture engine (within count) none rest >>= fun opened => .ok (opened, rest)) := by
    unfold openGroup
    dsimp only
    split
    · exact absurd rfl (capture _)
    · rfl
  have around : ({ within count with groupCount := count + 1 } : ReaderState).openings
      = captures count := within_openings count
  simp only [readPart, plain, Bool.false_and, Bool.false_eq_true, if_false, opened, openCapture,
    ReaderState.openLevel, within_groupCount, around]
  split
  · simp only [within, within_flags]
    rfl
  · rfl

/-- Groups are opened one by one, by induction on how many there are, unless there is no room. -/
theorem readAll_opens (opened more closing fuel : Nat)
    : readAll engine (more + fuel) (within opened) (nestedRest closing more)
      = if engine.fits closing opened more then
          readAll engine fuel (within (opened + more)) (nestedRest closing 0)
        else .error .tooDeep := by
  induction more generalizing opened with
  | zero =>
      rw [Nat.zero_add]
      rfl
  | succ more ih =>
      have capture : ∀ others, nestedRest closing more ≠ .plain '?' :: others := by
        cases more <;> rintro others ⟨⟩
      have first : nestedRest closing (more + 1) = .plain '(' :: nestedRest closing more := rfl
      rw [Nat.add_right_comm, first, readAll_part _ _ _ (by decide) (by decide),
        readPart_opens capture, Engine.fits]
      cases engine.room (captures opened) (nestedRest closing more) with
      | false => rfl
      | true =>
          have next := ih (opened + 1)
          rw [Nat.succ_add_eq_add_succ] at next
          exact next

end Nested

/-- Nothing is wrong with a reader as a whole, and all groups that are open capture. -/
structure ReaderState.Sound (state : ReaderState) : Prop where
  flags : state.globalAscii = false ∧ state.globalTemplate = false
  references : state.references = []
  width : state.badWidth = false
  captures
    : ∀ opening ∈ (state.level :: state.outer).map Level.opening,
        opening = .plain ∨ ∃ index, opening = .capture index

theorem within_sound (count : Nat) : (within count).Sound := by
  induction count with
  | zero => exact ⟨⟨rfl, rfl⟩, rfl, rfl, by simp [within, ReaderState.start]⟩
  | succ count ih =>
      refine ⟨ih.flags, ih.references, ih.width, ?_⟩
      exact List.forall_mem_cons.mpr ⟨.inr ⟨_, rfl⟩, ih.captures⟩

/-- A group that captures is closed and leaves the reader sound. -/
theorem ReaderState.Sound.close {state : ReaderState} (sound : state.Sound) {outer : Level}
    {outers : List Level} (levels : state.outer = outer :: outers)
    : (closeLevel state outer outers).Sound
      ∧ (closeLevel state outer outers).outer = outers
      ∧ (closeLevel state outer outers).groupCount = state.groupCount := by
  have captures := sound.captures
  rw [levels] at captures
  obtain ⟨own, others⟩ := List.forall_mem_cons.mp captures
  rcases own with plain | ⟨index, capture⟩
  · simp only [closeLevel, plain]
    exact ⟨⟨sound.flags, sound.references, sound.width, others⟩, rfl, rfl⟩
  · simp only [closeLevel, capture]
    exact ⟨⟨sound.flags, sound.references, sound.width, others⟩, rfl, rfl⟩

/-- All groups that are open are closed one by one, by induction on how many there are. -/
theorem readAll_closes {engine : Engine} {state : ReaderState} (sound : state.Sound) {count : Nat}
    (levels : state.outer.length = count) (fuel : Nat)
    : ∃ last,
        readAll engine (count + (fuel + 1)) state (List.replicate count (.plain ')')) = .ok last
        ∧ last.groupCount = state.groupCount
        ∧ last.Sound := by
  induction count generalizing state with
  | zero =>
      have none := List.eq_nil_of_length_eq_zero levels
      refine ⟨state, ?_, rfl, sound⟩
      rw [Nat.zero_add]
      simp only [readAll, List.replicate_zero, none, finalCheck, sound.flags.1, sound.references]
      rfl
  | succ count ih =>
      obtain ⟨outer, outers, same⟩ := List.exists_cons_of_length_eq_add_one levels
      obtain ⟨closed, rest, groups⟩ := sound.close same
      rw [same, List.length_cons] at levels
      obtain ⟨last, read, counted, sound⟩ := ih closed (by rw [rest]; omega)
      refine ⟨last, ?_, counted.trans groups, sound⟩
      rw [Nat.add_right_comm, List.replicate_succ, ← read]
      simp only [readAll, same]

/-- A character within groups is read as a pattern with as many groups, unless there is no room for
one of them or the engine cannot compile the pattern.
-/
theorem parse_nested (engine : Engine) (count : Nat)
    : ∃ root,
        parse engine (nestedSource count)
        = if engine.fits count 0 count && engine.compiles (nestedSource count) then
            .ok ⟨nestedSource count, root, count⟩
          else .error .tooDeep := by
  have tokens : Token.ofChars (nestedSource count).toList = nestedRest count count := by
    have plain : '\\' ∉ List.replicate count '(' ++ 'x' :: List.replicate count ')' := by
      simp
    rw [nestedSource, String.toList_ofList, ofChars_plain plain, nestedRest]
    simp
  have fuel : (Token.ofChars (nestedSource count).toList).length + 1 = count + (count + 1 + 1) := by
    simp [tokens, nestedRest]
    omega
  have character
    : readPart engine (within count) (.plain 'x') (List.replicate count (.plain ')'))
      = .ok ((within count).pushChar 'x', List.replicate count (.plain ')')) := by
    simp only [readPart, within_flags]
    rfl
  have sound := within_sound count
  have inner : ((within count).pushChar 'x').Sound :=
    ⟨sound.flags, sound.references, sound.width, sound.captures⟩
  obtain ⟨last, closed, counted, sound⟩ := readAll_closes inner (within_outer count) 0
  have groups : last.groupCount = count := counted.trans (within_groupCount count)
  have read
    : readAll engine ((Token.ofChars (nestedSource count).toList).length + 1) .start
        (Token.ofChars (nestedSource count).toList)
      = if engine.fits count 0 count then .ok last else .error .tooDeep := by
    have opens : readAll engine (count + (count + 1 + 1)) .start (nestedRest count count) = _ :=
      readAll_opens 0 count count (count + 1 + 1)
    rw [Nat.zero_add] at opens
    have behind
      : readAll engine (count + 1 + 1) (within count) (nestedRest count 0) = .ok last := by
      have first : nestedRest count 0 = .plain 'x' :: List.replicate count (.plain ')') := rfl
      rw [first, readAll_part _ _ _ (by decide) (by decide), character]
      exact closed
    rw [fuel, tokens, ← behind]
    exact opens
  refine ⟨last.level.body, ?_⟩
  unfold parse
  simp only [read]
  cases engine.fits count 0 count with
  | false => rfl
  | true =>
      change ofReader engine _ last = _
      simp only [ofReader, sound.width, sound.flags.2, groups]
      cases engine.compiles (nestedSource count) <;> rfl

end Conductor.Pattern

namespace Conductor

open Pattern

namespace Config

-----------------------------------------------------------------------------------------
-- Judgments
-----------------------------------------------------------------------------------------

section Judgments

variable {platform : Platform}

/-- What is made of a pattern, by cases on what the reader of patterns makes of it. -/
theorem tagProblem?_cases (platform : Platform) (source : String)
    : (∃ matcher,
        TagMatcher.ofSource platform.patterns source = .ok matcher
        ∧ tagProblem? platform source
          = .ok (if matcher.pattern.root.groups = [] then some .noGroup else none))
      ∨ (TagMatcher.ofSource platform.patterns source = .error (.pattern .malformed)
        ∧ tagProblem? platform source = .ok (some (.tagPattern (platform.patternFlaw source))))
      ∨ ∃ refusal,
          refusal ≠ .malformed
          ∧ refusal.StandsIn platform.patterns source.toList
          ∧ TagMatcher.ofSource platform.patterns source = .error (.pattern refusal)
          ∧ tagProblem? platform source = .error (.pattern refusal) := by
  unfold TagMatcher.ofSource tagProblem?
  rcases read : parse platform.patterns source with refusal | pattern
  · rcases parse_error read with rfl | stands
    · exact .inr (.inl ⟨rfl, rfl⟩)
    · refine .inr (.inr ⟨refusal, ?_, stands, rfl, ?_⟩)
      · rintro rfl
        cases stands
      · cases stands <;> rfl
  · have numbers := (parse_numbers read).length_eq
    rw [Node.numbers, List.length_map, List.length_range'] at numbers
    refine .inl ⟨⟨pattern⟩, rfl, ?_⟩
    simp only [← numbers, List.length_eq_zero_iff]

/-- A pattern of which a matcher can be made is judged by its groups. -/
theorem tagProblem?_of_made {source : String} {matcher : TagMatcher}
    (made : TagMatcher.ofSource platform.patterns source = .ok matcher)
    : tagProblem? platform source
      = .ok (if matcher.pattern.root.groups = [] then some .noGroup else none) := by
  rcases tagProblem?_cases platform source with
    ⟨_, same, judged⟩ | ⟨unmade, _⟩ | ⟨_, _, _, unmade, _⟩
  · cases made.symm.trans same
    exact judged
  · cases made.symm.trans unmade
  · cases made.symm.trans unmade

/-- A pattern of which no matcher can be made is judged only if it breaks the grammar. -/
theorem tagProblem?_of_unmade {source : String} {refusal : Refusal}
    (unmade : TagMatcher.ofSource platform.patterns source = .error (.pattern refusal))
    : tagProblem? platform source
      = if refusal = .malformed then .ok (some (.tagPattern (platform.patternFlaw source)))
        else .error (.pattern refusal) := by
  rcases tagProblem?_cases platform source with
    ⟨_, made, _⟩ | ⟨same, judged⟩ | ⟨_, other, _, same, judged⟩
  · cases made.symm.trans unmade
  · cases unmade.symm.trans same
    exact judged
  · cases unmade.symm.trans same
    rw [if_neg other]
    exact judged

theorem tagProblem?_counted {digits : List Char} (nonempty : digits ≠ [])
    (all : ∀ c ∈ digits, Text.isAsciiDigit c)
    : tagProblem? platform (countedSource digits)
      = if maxNumberDigits < digits.length then .error (.pattern (.longNumber digits.length))
        else if repetitionLimit ≤ Text.valueIn 10 digits then .error (.pattern .longRepetition)
        else if platform.patterns.compiles (countedSource digits) then .ok none
        else .error (.pattern .tooDeep) := by
  unfold tagProblem?
  rw [parse_counted _ nonempty all, repeatCount]
  by_cases long : maxNumberDigits < digits.length
  · simp [long, bind, Except.bind]
  by_cases large : repetitionLimit ≤ Text.valueIn 10 digits
  · simp [long, large, bind, Except.bind]
  · cases platform.patterns.compiles (countedSource digits) <;>
      simp [long, large, bind, Except.bind]

theorem tagProblem?_nested (count : Nat)
    : tagProblem? platform (nestedSource count)
      = if platform.patterns.fits count 0 count
            && platform.patterns.compiles (nestedSource count) then
          .ok (if count = 0 then some .noGroup else none)
        else .error (.pattern .tooDeep) := by
  obtain ⟨root, read⟩ := parse_nested platform.patterns count
  unfold tagProblem?
  rw [read]
  cases platform.patterns.fits count 0 count && platform.patterns.compiles (nestedSource count)
  · rfl
  · rfl

end Judgments

/-- A pattern has no problem exactly if a matcher of release tags can be made of it that has a
group. It has one if it can be made without a group, or breaks the grammar. Else no answer is given,
as no matcher is made: for a number of runs, for flags or for parentheses that stand in it, or as
the platform cannot compile it. A group that is to be repeated is not judged for a number of runs
that is too long or too large; a character within groups is judged if there is room for each of
them.
-/
theorem tagProblem?_judges (platform : Platform) (source : String)
    : (tagProblem? platform source = .ok none
        ↔ ∃ matcher,
            TagMatcher.ofSource platform.patterns source = .ok matcher
            ∧ matcher.pattern.root.groups ≠ [])
      ∧ (tagProblem? platform source = .ok (some .noGroup)
        ↔ ∃ matcher,
            TagMatcher.ofSource platform.patterns source = .ok matcher
            ∧ matcher.pattern.root.groups = [])
      ∧ (tagProblem? platform source = .ok (some (.tagPattern (platform.patternFlaw source)))
        ↔ TagMatcher.ofSource platform.patterns source = .error (.pattern .malformed))
      ∧ (∀ problem,
          tagProblem? platform source = .ok (some problem)
          → problem = .noGroup ∨ problem = .tagPattern (platform.patternFlaw source))
      ∧ (∀ fault,
          tagProblem? platform source = .error fault
          ↔ TagMatcher.ofSource platform.patterns source = .error fault
            ∧ fault ≠ .pattern .malformed)
      ∧ (∀ fault,
          tagProblem? platform source = .error fault
          → ∃ refusal,
              fault = .pattern refusal ∧ refusal.StandsIn platform.patterns source.toList)
      ∧ (∀ digits,
          digits ≠ []
          → (∀ c ∈ digits, Text.isAsciiDigit c)
          → source = countedSource digits
          → tagProblem? platform source
            = if maxNumberDigits < digits.length then
                .error (.pattern (.longNumber digits.length))
              else if repetitionLimit ≤ Text.valueIn 10 digits then
                .error (.pattern .longRepetition)
              else if platform.patterns.compiles source then .ok none
              else .error (.pattern .tooDeep))
      ∧ ∀ count,
          source = nestedSource count
          → tagProblem? platform source
            = if platform.patterns.fits count 0 count && platform.patterns.compiles source then
                .ok (if count = 0 then some .noGroup else none)
              else .error (.pattern .tooDeep) := by
  have counted (digits : List Char) (nonempty : digits ≠ [])
      (all : ∀ c ∈ digits, Text.isAsciiDigit c) (same : source = countedSource digits)
      : tagProblem? platform source = _ :=
    same ▸ tagProblem?_counted nonempty all
  have nested (count : Nat) (same : source = nestedSource count)
      : tagProblem? platform source = _ :=
    same ▸ tagProblem?_nested count
  rcases tagProblem?_cases platform source with
    ⟨matcher, made, judged⟩ | ⟨unread, judged⟩ | ⟨refusal, other, stands, unread, judged⟩
  · refine ⟨?_, ?_, ?_, ?_, ?_, ?_, counted, nested⟩
    all_goals by_cases groups : matcher.pattern.root.groups = []
    all_goals simp [made, judged, groups]
  · refine ⟨?_, ?_, ?_, ?_, ?_, ?_, counted, nested⟩
    all_goals simp [unread, judged]
  · refine ⟨?_, ?_, ?_, ?_, ?_, ?_, counted, nested⟩
    all_goals simp [unread, judged, other, stands]

/-- Flags that clash are not judged; the most runs there may be are. -/
theorem tagProblem?_judges_limits
    : tagProblem? .plain "(?a)(?u)(x)" = .error (.pattern .flagsClash)
      ∧ Refusal.StandsIn Platform.plain.patterns "(?a)(?u)(x)".toList .flagsClash
      ∧ "4294967294".toList ≠ []
      ∧ (∀ c ∈ "4294967294".toList, Text.isAsciiDigit c)
      ∧ tagProblem? .plain "(x)\x7b4294967294\x7d" = .ok none
      ∧ ∃ matcher,
          TagMatcher.ofSource Platform.plain.patterns "(x)\x7b4294967294\x7d" = .ok matcher
          ∧ matcher.pattern.root.groups ≠ [] := by
  have clash : tagProblem? .plain "(?a)(?u)(x)" = .error (.pattern .flagsClash) := by
    decide +kernel
  obtain ⟨_, _, _, _, _, faults, _⟩ := tagProblem?_judges .plain "(?a)(?u)(x)"
  obtain ⟨_, same, stands⟩ := faults _ clash
  cases same
  have some : "4294967294".toList ≠ [] := by decide
  have all : ∀ c ∈ "4294967294".toList, Text.isAsciiDigit c := List.all_eq_true.mp (by decide)
  obtain ⟨sound, _, _, _, _, _, counted, _⟩ :=
    tagProblem?_judges .plain "(x)\x7b4294967294\x7d"
  have most : tagProblem? .plain "(x)\x7b4294967294\x7d" = .ok none := counted _ some all rfl
  exact ⟨clash, stands, some, all, most, sound.mp most⟩

/-- A number of runs at the limit is not judged. -/
theorem tagProblem?_repetition
    : tagProblem? .plain "(x)\x7b4294967295\x7d" = .error (.pattern .longRepetition) :=
  @tagProblem?_counted .plain "4294967295".toList (by decide) (List.all_eq_true.mp (by decide))

end Config

end Conductor
