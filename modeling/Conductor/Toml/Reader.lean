import Conductor.Toml.Draft
import Conductor.Toml.Scalar

/-!
Reading of TOML documents, statement by statement. Lists and tables within a value are kept on a
stack while they are open; how deep they may stand within one another is left to the platform.
-/

namespace Conductor.Toml

/-- What opened a list or a table within a value. -/
inductive Bracket where
  | list
  | table
  deriving DecidableEq, Repr

/-- Whether the platform has room for a value: within brackets that are open, the innermost first,
and in front of a text, which starts with the value.
-/
abbrev Room := List Bracket → List Char → Bool

def skipBlanks (text : List Char) : List Char :=
  text.dropWhile isBlank

def skipComment : List Char → Except Refusal (List Char)
  | '#' :: rest =>
    let (line, rest) := rest.span (· != '\n')
    if line.any isControl then .error .malformed else .ok rest
  | text => .ok text

/-- A text without the blanks, line ends and comments at its start. -/
def skipLines (inComment : Bool) : List Char → Except Refusal (List Char)
  | [] => .ok []
  | c :: rest =>
    if c = '\n' then skipLines false rest
    else if inComment then if isControl c then .error .malformed else skipLines true rest
    else if isBlank c then skipLines false rest
    else if c = '#' then skipLines true rest
    else .ok (c :: rest)

/-- What the reader of a statement refuses, if anything. -/
def orMalformed {α : Type} (found : Option α) : Except Refusal α :=
  match found with
  | some a => .ok a
  | none => .error .malformed

-----------------------------------------------------------------------------------------
-- Keys
-----------------------------------------------------------------------------------------

/-- Characters of keys without quotes. -/
def isBare (c : Char) : Bool :=
  c.isAlphanum || c == '-' || c == '_'

def startsKey (c : Char) : Bool :=
  isBare c || c == '"' || c == '\''

def keyPart (text : List Char) : Except Refusal (String × List Char) :=
  match text with
  | '"' :: rest => do
    let (part, rest) ← basicString false .nothing [] rest
    .ok (String.ofList part, rest)
  | '\'' :: rest => literalString rest
  | text =>
    match text.span isBare with
    | ([], _) => .error .malformed
    | (part, rest) => .ok (String.ofList part, rest)

/-- Parts of a key with dots between them; each uses up at least one character. -/
def keyParts : Nat → Key → List Char → Except Refusal (Key × List Char)
  | 0, _, _ => .error .malformed
  | fuel + 1, done, text => do
    let (part, rest) ← keyPart text
    match skipBlanks rest with
    | '.' :: rest => keyParts fuel (part :: done) (skipBlanks rest)
    | rest => .ok ((part :: done).reverse, rest)

def readKey (text : List Char) : Except Refusal (Key × List Char) :=
  keyParts (text.length + 1) [] text

def boundKey (text : List Char) : Except Refusal (Key × List Char) := do
  match ← readKey text with
  | (key, '=' :: rest) => .ok (key, skipBlanks rest)
  | _ => .error .malformed

-----------------------------------------------------------------------------------------
-- Values
-----------------------------------------------------------------------------------------

/-- A list or table under way: its items in reverse, or its entries, the keys given whole values
so far, and the key whose value comes next.
-/
inductive Frame where
  | list (items : List (Value String))
  | table (entries : Table String) (complete : List Key) (key : Key)

def Frame.bracket : Frame → Bracket
  | .list _ => .list
  | .table _ _ _ => .table

/-- What the reader of a value has in hand: the text of a value, or a value and what follows it.
-/
inductive Stage where
  | value (text : List Char)
  | read (value : Value String) (rest : List Char)

/-- Reads a scalar or an empty list or table, or opens a list or table, where there is room. -/
def beginValue (room : Room) (stack : List Frame) (text : List Char)
    : Except Refusal (Stage × List Frame) :=
  if !room (stack.map Frame.bracket) text then .error .tooDeep
  else
    match text with
    | '[' :: rest => do
      match ← skipLines false rest with
      | ']' :: rest => .ok (.read (.list []) rest, stack)
      | rest => .ok (.value rest, .list [] :: stack)
    | '\x7b' :: rest =>
      match skipBlanks rest with
      | '\x7d' :: rest => .ok (.read (.table []) rest, stack)
      | rest => do
        let (key, rest) ← boundKey rest
        .ok (.value rest, .table [] [] key :: stack)
    | text => do
      let (value, rest) ← scalar text
      .ok (.read value rest, stack)

/-- A table with an entry more at a key with dots. -/
def addWithin (entries : Table String) (complete : List Key) (key : Key) (value : Value String)
    : Option (Table String) :=
  if within complete key then none
  else
    key.getLast?.bind fun last => changeAt false (addEntry last value) key.dropLast entries

/-- The list or table `frame` with a value more, and what follows the value. -/
def endValue (frame : Frame) (stack : List Frame) (value : Value String) (rest : List Char)
    : Except Refusal (Stage × List Frame) :=
  match frame with
  | .list items => do
    let items := value :: items
    match ← skipLines false rest with
    | ']' :: rest => .ok (.read (.list items.reverse) rest, stack)
    | ',' :: rest => do
      match ← skipLines false rest with
      | ']' :: rest => .ok (.read (.list items.reverse) rest, stack)
      | rest => .ok (.value rest, .list items :: stack)
    | _ => .error .malformed
  | .table entries complete key => do
    let entries ← orMalformed (addWithin entries complete key value)
    match skipBlanks rest with
    | '\x7d' :: rest => .ok (.read (.table entries) rest, stack)
    | ',' :: rest => do
      let complete := if isClosed value then key :: complete else complete
      let (key, rest) ← boundKey (skipBlanks rest)
      .ok (.value rest, .table entries complete key :: stack)
    | _ => .error .malformed

/-- Reads a value to its end; each step uses up at least one character. -/
def valueFrom (room : Room) : Nat → Stage → List Frame → Except Refusal (Value String × List Char)
  | 0, _, _ => .error .malformed
  | fuel + 1, stage, stack =>
    match stage, stack with
    | .value text, _ => do
      let (stage, stack) ← beginValue room stack text
      valueFrom room fuel stage stack
    | .read value rest, [] => .ok (value, rest)
    | .read value rest, frame :: stack => do
      let (stage, stack) ← endValue frame stack value rest
      valueFrom room fuel stage stack

def readValue (room : Room) (text : List Char) : Except Refusal (Value String × List Char) :=
  valueFrom room (2 * text.length + 2) (.value text) []

-----------------------------------------------------------------------------------------
-- Statements
-----------------------------------------------------------------------------------------

/-- A document under way, and the place of the table that keys are bound in. -/
structure Position where
  draft : Draft
  header : Key

/-- One statement: a header of a table or of an item of a list, or a key with its value. -/
def statement (room : Room) (position : Position) (text : List Char)
    : Except Refusal (Position × List Char) :=
  match text with
  | '[' :: '[' :: rest => do
    let (key, rest) ← readKey (skipBlanks rest)
    let draft ← orMalformed (position.draft.atHeader.openItem key)
    match rest with
    | ']' :: ']' :: rest => .ok (⟨draft, key⟩, rest)
    | _ => .error .malformed
  | '[' :: rest => do
    let (key, rest) ← readKey (skipBlanks rest)
    let draft ← orMalformed (position.draft.atHeader.openTable key)
    match rest with
    | ']' :: rest => .ok (⟨draft, key⟩, rest)
    | _ => .error .malformed
  | '#' :: _ => .ok (position, text)
  | c :: _ =>
    if startsKey c then do
      let (key, rest) ← boundKey text
      let (value, rest) ← readValue room rest
      let draft ← orMalformed (position.draft.bind position.header key value)
      .ok ({ position with draft }, rest)
    else .error .malformed
  | [] => .error .malformed

/-- Reads the lines of a document; each but the last uses up at least one character. -/
def linesFrom (room : Room) : Nat → Position → List Char → Except Refusal (Table String)
  | 0, _, _ => .error .malformed
  | fuel + 1, position, text =>
    match skipBlanks text with
    | [] => .ok position.draft.root
    | '\n' :: rest => linesFrom room fuel position rest
    | text => do
      let (position, rest) ← statement room position text
      match ← skipComment (skipBlanks rest) with
      | [] => .ok position.draft.root
      | '\n' :: rest => linesFrom room fuel position rest
      | _ => .error .malformed

/-- A text whose line ends are single line feeds. -/
def joinLineEnds (done : List Char) : List Char → List Char
  | [] => done.reverse
  | '\r' :: '\n' :: rest => joinLineEnds ('\n' :: done) rest
  | c :: rest => joinLineEnds (c :: done) rest

def read (room : Room) (text : List Char) : Except Refusal (Table String) :=
  let text := joinLineEnds [] text
  linesFrom room (text.length + 1) ⟨{}, []⟩ text

end Conductor.Toml
