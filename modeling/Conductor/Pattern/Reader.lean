import Conductor.Pattern.Escape

/-!
Reading of patterns. The reader goes through the parts of the text once and keeps the groups
that are open on a stack; each part is added to the innermost one.
-/

namespace Conductor.Pattern

/-- The number of runs that a repetition may not reach, and that a fixed width may not pass. -/
def repetitionLimit : Nat := Nat.pow 2 32 - 1

/-- The number that the number of a group may not reach. -/
def groupLimit : Nat := Nat.pow 2 30 - 1

/-- The most digits that a number of runs or that of a group may be written with. -/
def maxNumberDigits : Nat := 4300

/-- What an element of a sequence may still be asked: places and repetitions are not repeated. -/
inductive ItemKind where
  | plain
  | anchor
  | repetition
  deriving DecidableEq, Repr

/-- An element of a sequence. -/
structure Item where
  node : Node
  kind : ItemKind
  deriving DecidableEq, Repr

/-- A group under way: its finished alternatives, the elements of the current one, both in
reverse, and the flags within it.
-/
structure Level where
  opening : Opening
  alternatives : List Node
  items : List Item
  flags : Flags
  deriving DecidableEq, Repr

/-- The reader between two parts: the innermost group, those around it, the number of groups so
far, the widths of the closed ones, the names, the number of groups before the outermost open
look behind, the numbers in conditions, and what is found out at the end.
-/
structure ReaderState where
  level : Level
  outer : List Level
  groupCount : Nat
  widths : List (Nat × Nat × Nat)
  names : List (String × Nat)
  lookLimit : Option Nat
  references : List Nat
  globalAscii : Bool
  globalUnicode : Bool
  globalTemplate : Bool
  hasRepetition : Bool
  badWidth : Bool

namespace ReaderState

def start : ReaderState where
  level := ⟨.plain, [], [], {}⟩
  outer := []
  groupCount := 0
  widths := []
  names := []
  lookLimit := none
  references := []
  globalAscii := false
  globalUnicode := false
  globalTemplate := false
  hasRepetition := false
  badWidth := false

def push (state : ReaderState) (node : Node) (kind : ItemKind) : ReaderState :=
  { state with level := { state.level with items := ⟨node, kind⟩ :: state.level.items } }

def pushClass (state : ReaderState) (cls : CharClass) : ReaderState :=
  state.push (.char cls) .plain

def pushChar (state : ReaderState) (c : Char) : ReaderState :=
  state.pushClass (.single c.toNat state.level.flags.rule)

/-- What opened the groups that are open, the innermost first. The outermost level is no group. -/
def openings (state : ReaderState) : List Opening :=
  (state.level :: state.outer).dropLast.map Level.opening

/-- Opens a group in front of further parts, unless there is no room for it. -/
def openLevel (engine : Engine) (state : ReaderState) (opening : Opening) (flags : Flags)
    (rest : List Token) : Except Refusal ReaderState :=
  if engine.room state.openings rest then
    .ok { state with level := ⟨opening, [], [], flags⟩, outer := state.level :: state.outer }
  else .error .tooDeep

def isClosed (state : ReaderState) (index : Nat) : Bool :=
  (state.widths.lookup index).isSome

/-- Whether a look behind that is open may refer to a group. -/
def seesGroup (state : ReaderState) (index : Nat) : Bool :=
  match state.lookLimit with
  | none => true
  | some limit => state.isClosed index && index ≤ limit

/-- Adds the text of a group that has to be closed. -/
def pushSame (state : ReaderState) (index : Nat) : Except Refusal ReaderState :=
  if state.isClosed index && state.seesGroup index then
    .ok (state.push (.same index state.level.flags.rule) .plain)
  else
    .error .malformed

end ReaderState

def Level.sequence (level : Level) : Node :=
  .ofList (level.items.reverse.map Item.node)

def Level.body (level : Level) : Node :=
  .ofAlternatives (level.sequence :: level.alternatives).reverse

/-- Ends the current alternative. A condition has no more than two. -/
def nextAlternative (state : ReaderState) : Except Refusal ReaderState :=
  let level := state.level
  match level.opening, level.alternatives with
  | .ifGroup _, _ :: _ => .error .malformed
  | _, _ => .ok { state with level := { level with
      alternatives := level.sequence :: level.alternatives, items := [] } }

/-- Closes the innermost group and adds it to the sequence around it. -/
def closeLevel (state : ReaderState) (outer : Level) (rest : List Level) : ReaderState :=
  let level := state.level
  let body := level.body
  let back := { state with level := outer, outer := rest }
  match level.opening with
  | .capture index =>
    { back with widths := (index, body.width state.widths) :: back.widths }.push
      (.group index body) .plain
  | .plain => back.push body .plain
  | .atomic => back.push (.atomic body) .plain
  | .ahead negated => back.push (.ahead negated body) .plain
  | .behind negated outermost =>
    let (low, high) := body.width state.widths
    let bad := low ≠ high || repetitionLimit < low
    { back with
      badWidth := back.badWidth || bad
      lookLimit := if outermost then none else back.lookLimit }.push
      (.behind negated low body) .plain
  | .ifGroup index =>
    match level.alternatives with
    | yes :: _ => back.push (.ifGroup index yes level.sequence) .plain
    | [] => back.push (.ifGroup index level.sequence .empty) .plain

def repeatCount (digits : List Char) : Except Refusal Nat :=
  if maxNumberDigits < digits.length then .error (.longNumber digits.length)
  else
    let count := Text.valueIn 10 digits
    if repetitionLimit ≤ count then .error .longRepetition else .ok count

/-- The bounds of a repetition behind an opening brace; none when the brace is a character. -/
def bounds? (tokens : List Token) : Except Refusal (Option (Nat × Option Nat × List Token)) :=
  let digits (tokens : List Token) := Token.takeChars Text.isAsciiDigit tokens.length tokens
  match tokens with
  | .plain '\x7d' :: _ => .ok none
  | _ =>
    let (low, rest) := digits tokens
    let (high, rest) := match rest with
      | .plain ',' :: rest => digits rest
      | _ => (low, rest)
    match rest with
    | .plain '\x7d' :: rest => do
      if rest = [.broken] then .error .malformed
      let min ← if low.isEmpty then .ok 0 else repeatCount low
      let max ← if high.isEmpty then .ok none else (repeatCount high).map some
      if max.any (· < min) then .error .malformed
      .ok (some (min, max, rest))
    | _ => .ok none

def repeatLast (state : ReaderState) (min : Nat) (max : Option Nat) (rest : List Token)
    : Except Refusal (ReaderState × List Token) :=
  match state.level.items with
  | ⟨node, .plain⟩ :: items =>
    let (greed, rest) : Greed × List Token := match rest with
      | .plain '?' :: rest => (.lazy, rest)
      | .plain '+' :: rest => (.possessive, rest)
      | _ => (.greedy, rest)
    let item : Item := ⟨node.repeated min max greed, .repetition⟩
    .ok ({ state with
      hasRepetition := true, level := { state.level with items := item :: items } }, rest)
  | _ => .error .malformed

def flagLetters : List Char := ['i', 'L', 'm', 's', 'x', 'a', 't', 'u']

/-- The letters of flags that choose a character set, of which one may be set. -/
def setLetters : List Char := ['a', 'u']

/-- Letters of flags up to a character in `stops`. -/
def readFlags (stops : List Char) (done : List Char)
    : List Token → Except Refusal (List Char × Char × List Token)
  | .plain c :: rest =>
    if flagLetters.contains c then readFlags stops (c :: done) rest
    else if stops.contains c then .ok (done.reverse, c, rest)
    else .error .malformed
  | _ => .error .malformed

/-- The flags within a group that sets some and clears others. -/
def Flags.adjust (flags : Flags) (set clear : List Char) : Flags where
  ignoreCase := (flags.ignoreCase || set.contains 'i') && !clear.contains 'i'
  multiline := (flags.multiline || set.contains 'm') && !clear.contains 'm'
  dotAll := (flags.dotAll || set.contains 's') && !clear.contains 's'
  verbose := (flags.verbose || set.contains 'x') && !clear.contains 'x'
  asciiOnly := set.contains 'a' || flags.asciiOnly && !set.contains 'u'

/-- Whether letters may be set together: no locale, and at most one character set. -/
def canSet (set : List Char) : Bool :=
  !set.contains 'L' && !(set.contains 'a' && set.contains 'u')

/-- Flags behind `(?`: for the whole pattern, at its very start, or for a group. -/
def flagGroup (engine : Engine) (state : ReaderState) (tokens : List Token)
    : Except Refusal (ReaderState × List Token) := do
  let (set, stop, rest) ← readFlags [')', ':', '-'] [] tokens
  if !canSet set then .error .malformed
  let flags := state.level.flags
  if stop = ')' then
    if state.outer.isEmpty && state.level.alternatives.isEmpty && state.level.items.isEmpty then
      .ok ({ state with
        level := { state.level with flags := flags.adjust set [] }
        globalAscii := state.globalAscii || set.contains 'a'
        globalUnicode := state.globalUnicode || set.contains 'u'
        globalTemplate := state.globalTemplate || set.contains 't' }, rest)
    else .error .malformed
  else if set.contains 't' then .error .malformed
  else if stop = ':' then do
    let opened ← state.openLevel engine .plain (flags.adjust set []) rest
    .ok (opened, rest)
  else do
    let (clear, _, rest) ← readFlags [':'] [] rest
    let fixed := 't' :: 'L' :: setLetters
    if clear.isEmpty || clear.any fixed.contains || clear.any set.contains then .error .malformed
    let opened ← state.openLevel engine .plain (flags.adjust set clear) rest
    .ok (opened, rest)

/-- The number of a group in a condition, which is written in digits or stands for a name, and the
numbers in conditions so far.
-/
def conditionGroup (state : ReaderState) (name : List Char) : Except Refusal (Nat × List Nat) :=
  if name.all Text.isAsciiDigit then
    let index := Text.valueIn 10 name
    if maxNumberDigits < name.length then .error (.longNumber name.length)
    else if index = 0 ∨ groupLimit ≤ index then .error .malformed
    else .ok (index, index :: state.references)
  else if Token.isName name then
    match state.names.lookup (String.ofList name) with
    | some index => .ok (index, state.references)
    | none => .error .malformed
  else .error .malformed

def openCapture (engine : Engine) (state : ReaderState) (name : Option String)
    (rest : List Token) : Except Refusal ReaderState :=
  let index := state.groupCount + 1
  match name with
  | none =>
    { state with groupCount := index }.openLevel engine (.capture index) state.level.flags rest
  | some name =>
    if (state.names.lookup name).isSome then .error .malformed
    else
      { state with groupCount := index, names := (name, index) :: state.names }.openLevel engine
        (.capture index) state.level.flags rest

def skipComment : List Token → Except Refusal (List Token)
  | .plain ')' :: rest => .ok rest
  | .broken :: _ => .error .malformed
  | _ :: rest => skipComment rest
  | [] => .error .malformed

def skipLine : List Token → List Token
  | .plain '\n' :: rest => rest
  | [.broken] => [.broken]
  | _ :: rest => skipLine rest
  | [] => []

/-- A group, behind its opening parenthesis. -/
def openGroup (engine : Engine) (state : ReaderState) (tokens : List Token)
    : Except Refusal (ReaderState × List Token) := do
  let flags := state.level.flags
  let opened (opening : Opening) (rest : List Token) := do
    let state ← state.openLevel engine opening flags rest
    .ok (state, rest)
  match tokens with
  | .plain '?' :: rest =>
    match rest with
    | .plain 'P' :: .plain '<' :: rest =>
      let (name, rest) ← Token.upTo '>' [] rest
      if !Token.isName name then .error .malformed
      let state ← openCapture engine state (some (String.ofList name)) rest
      .ok (state, rest)
    | .plain 'P' :: .plain '=' :: rest =>
      let (name, rest) ← Token.upTo ')' [] rest
      if !Token.isName name then .error .malformed
      match state.names.lookup (String.ofList name) with
      | none => .error .malformed
      | some index =>
        let state ← state.pushSame index
        .ok (state, rest)
    | .plain ':' :: rest => opened .plain rest
    | .plain '#' :: rest => do
      let rest ← skipComment rest
      .ok (state, rest)
    | .plain '=' :: rest => opened (.ahead false) rest
    | .plain '!' :: rest => opened (.ahead true) rest
    | .plain '<' :: .plain c :: rest =>
      if c ≠ '=' ∧ c ≠ '!' then .error .malformed
      let outermost := state.lookLimit.isNone
      let limit := if outermost then some state.groupCount else state.lookLimit
      let state ← { state with lookLimit := limit }.openLevel engine
        (.behind (c == '!') outermost) flags rest
      .ok (state, rest)
    | .plain '(' :: rest =>
      let (name, rest) ← Token.upTo ')' [] rest
      let (index, references) ← conditionGroup state name
      if !state.seesGroup index then .error .malformed
      let state ← { state with references }.openLevel engine (.ifGroup index) flags rest
      .ok (state, rest)
    | .plain '>' :: rest => opened .atomic rest
    | .plain c :: _ =>
      if c = '-' || flagLetters.contains c then flagGroup engine state rest else .error .malformed
    | _ => .error .malformed
  | _ => do
    let state ← openCapture engine state none tokens
    .ok (state, tokens)

/-- One part of a sequence that is neither an alternative's nor a group's end. -/
def readPart (engine : Engine) (state : ReaderState) (token : Token) (rest : List Token)
    : Except Refusal (ReaderState × List Token) :=
  let flags := state.level.flags
  match token with
  | .broken => .error .malformed
  | .escaped c => do
    let (meaning, rest) ← escape engine flags c rest
    match meaning with
    | .node node isAnchor => .ok (state.push node (if isAnchor then .anchor else .plain), rest)
    | .group index =>
      let state ← state.pushSame index
      .ok (state, rest)
  | .plain c =>
    if flags.verbose && (c == ' ' || (9 ≤ c.toNat && c.toNat ≤ 13)) then .ok (state, rest)
    else if flags.verbose && c == '#' then .ok (state, skipLine rest)
    else
      match c with
      | '[' => do
        let (cls, rest) ← charClass engine flags rest
        .ok (state.pushClass cls, rest)
      | '.' => .ok (state.pushClass (if flags.dotAll then .all else .notLineFeed), rest)
      | '^' =>
        let place : Anchor := if flags.multiline then .lineStart else .start
        .ok (state.push (.anchor place) .anchor, rest)
      | '$' =>
        let place : Anchor := if flags.multiline then .lineFinish else .finishOrLastLine
        .ok (state.push (.anchor place) .anchor, rest)
      | '(' => openGroup engine state rest
      | '?' => repeatLast state 0 (some 1) rest
      | '*' => repeatLast state 0 none rest
      | '+' => repeatLast state 1 none rest
      | '\x7b' => do
        match ← bounds? rest with
        | some (min, max, rest) => repeatLast state min max rest
        | none => .ok (state.pushChar c, rest)
      | c => .ok (state.pushChar c, rest)

/-- What is wrong with a pattern only as a whole, when its text has been read up to an
unexpected closing parenthesis or to its end.
-/
def finalCheck (state : ReaderState) (unbalanced : Bool) : Except Refusal ReaderState :=
  if state.globalAscii && state.globalUnicode then .error .flagsClash
  else if unbalanced || state.references.any (state.groupCount < ·) then .error .malformed
  else .ok state

/-- Reads the parts of a pattern; each step uses up at least one of them. -/
def readAll (engine : Engine) : Nat → ReaderState → List Token → Except Refusal ReaderState
  | 0, _, _ => .error .malformed
  | fuel + 1, state, tokens =>
    match tokens, state.outer with
    | [], [] => finalCheck state false
    | [], _ :: _ => .error .malformed
    | .plain ')' :: _, [] => finalCheck state true
    | .plain ')' :: rest, outer :: outers =>
      readAll engine fuel (closeLevel state outer outers) rest
    | .plain '|' :: rest, _ => do
      let state ← nextAlternative state
      readAll engine fuel state rest
    | token :: rest, _ => do
      let (state, rest) ← readPart engine state token rest
      readAll engine fuel state rest

end Pattern

/-- A pattern for texts: its source, its structure, and the number of its groups. -/
structure Pattern where
  source : String
  root : Pattern.Node
  groupCount : Nat
  deriving DecidableEq, Repr

namespace Pattern

/-- The pattern of a source that has been read to its end, unless it cannot be compiled. -/
def ofReader (engine : Engine) (source : String) (state : ReaderState) : Except Refusal Pattern :=
  if !engine.compiles source then .error .tooDeep
  else if state.badWidth || (state.globalTemplate && state.hasRepetition) then .error .malformed
  else .ok ⟨source, state.level.body, state.groupCount⟩

def parse (engine : Engine) (source : String) : Except Refusal Pattern := do
  let tokens := Token.ofChars source.toList
  let state ← readAll engine (tokens.length + 1) .start tokens
  ofReader engine source state

end Conductor.Pattern
