import Conductor.Template.Format

/-!
Templates with fields in braces. A brace that is doubled stands for itself. A field has a name with
accesses behind it, a conversion behind an exclamation mark, and a format behind a colon, which may
hold fields itself. There is one name, that of the build; what the attributes of texts are is left
to the platform.
-/

namespace Conductor.Template

/-- A field as it is written. -/
structure Field where
  name : List Char
  conversion : Option Char
  format : List Char
  deriving DecidableEq, Repr

/-- A piece of a template. The template is not read beyond a broken piece. -/
inductive Piece where
  | literal (text : List Char)
  | field (field : Field)
  | broken (refusal : Refusal)
  deriving DecidableEq, Repr

/-- The name of a field up to the character that ends it, that character, and the text behind
it. Within brackets no character ends a name.
-/
def fieldName (inBrackets : Bool) (done : List Char)
    : List Char → Except Refusal (List Char × Char × List Char)
  | [] => .error .unclosed
  | c :: rest =>
    if inBrackets then fieldName (c != ']') (c :: done) rest
    else if c = '\x7b' then .error .openInName
    else if c = '\x7d' ∨ c = ':' ∨ c = '!' then .ok (done.reverse, c, rest)
    else fieldName (c == '[') (c :: done) rest

/-- The format of a field up to the brace that closes the field, and the text behind that. -/
def fieldFormat (depth : Nat) (done : List Char)
    : List Char → Except Refusal (List Char × List Char)
  | [] => .error .unmatchedOpen
  | c :: rest =>
    if c = '\x7b' then fieldFormat (depth + 1) (c :: done) rest
    else if c = '\x7d' then
      match depth with
      | 0 => .ok (done.reverse, rest)
      | depth + 1 => fieldFormat depth (c :: done) rest
    else fieldFormat depth (c :: done) rest

/-- A field behind its opening brace, and the text behind it. -/
def readField (text : List Char) : Except Refusal (Field × List Char) := do
  let (name, stop, rest) ← fieldName false [] text
  if stop = '\x7d' then .ok (⟨name, none, []⟩, rest)
  else if stop = ':' then do
    let (format, rest) ← fieldFormat 0 [] rest
    .ok (⟨name, none, format⟩, rest)
  else
    match rest with
    | [] => .error .noConversion
    | conversion :: '\x7d' :: rest => .ok (⟨name, some conversion, []⟩, rest)
    | conversion :: ':' :: rest => do
      let (format, rest) ← fieldFormat 0 [] rest
      .ok (⟨name, some conversion, format⟩, rest)
    | [_] => .error .unmatchedOpen
    | _ => .error .noColon

def isBrace (c : Char) : Bool :=
  c == '\x7b' || c == '\x7d'

/-- The pieces of a text; each but the last uses up at least one character. -/
def pieces : Nat → List Char → List Piece
  | 0, _ => []
  | fuel + 1, text =>
    let literal := text.takeWhile (!isBrace ·)
    match text.dropWhile (!isBrace ·) with
    | [] => [.literal literal]
    | ['\x7b'] => [.broken .singleOpen]
    | c :: d :: rest =>
      if c = d then .literal (literal ++ [c]) :: pieces fuel rest
      else if c = '\x7d' then [.broken .singleClose]
      else
        match readField (d :: rest) with
        | .ok (field, rest) => .literal literal :: .field field :: pieces fuel rest
        | .error refusal => [.broken refusal]
    | [_] => [.broken .singleClose]

/-- The number that a name is, none when it is another name or empty. -/
def numberName? (name : List Char) : Except Refusal (Option Nat) := do
  let (value, count, rest) ← leadingNumber 0 0 name
  .ok (if count = 0 ∨ !rest.isEmpty then none else some value)

-----------------------------------------------------------------------------------------
-- Values of fields
-----------------------------------------------------------------------------------------

/-- An access within the value of a field. -/
inductive Access where
  | attribute (name : String)
  | index (place : Nat)
  | key (name : String)
  deriving DecidableEq, Repr

/-- What accesses may lead to besides texts: how it is converted to a text, and how it is put into a
format.
-/
structure Thing where
  shown : Except Refusal (List Char)
  quoted : Except Refusal (List Char)
  quotedAscii : Except Refusal (List Char)
  formatted : List Char → Except Refusal (List Char)

/-- What accesses lead to. -/
inductive Found where
  | text (value : List Char)
  | thing (thing : Thing)

/-- What the platform finds behind accesses to a text, of which the first is to an attribute. -/
abbrev Attributes := List Char → List Access → Except Refusal Found

/-- The value of a field on the way through its accesses: a text, or a thing that the platform has
found behind accesses to a text.
-/
inductive Reached where
  | text (value : List Char)
  | thing (origin : List Char) (path : List Access) (thing : Thing)

namespace Reached

/-- What the platform finds, as a value on the way. -/
def follow (attributes : Attributes) (origin : List Char) (path : List Access)
    : Except Refusal Reached := do
  match ← attributes origin path with
  | .text value => .ok (.text value)
  | .thing other => .ok (.thing origin path other)

/-- The value behind one access more. A text has characters by their places, and attributes. -/
def step (attributes : Attributes) (access : Access) : Reached → Except Refusal Reached
  | .thing origin path _ => follow attributes origin (path ++ [access])
  | .text value =>
    match access with
    | .attribute _ => follow attributes value [access]
    | .key _ => .error .notIndex
    | .index place =>
      match value[place]? with
      | some c => .ok (.text [c])
      | none => .error .outOfRange

end Reached

/-- The value behind the accesses that a text holds; each uses up at least one character of it. -/
def access (attributes : Attributes) (value : Reached) : Nat → List Char → Except Refusal Reached
  | 0, _ => .ok value
  | _, [] => .ok value
  | fuel + 1, '.' :: rest => do
    let inName (c : Char) : Bool := c != '.' && c != '['
    let name := rest.takeWhile inName
    if name.isEmpty then .error .emptyName
    let value ← value.step attributes (.attribute (String.ofList name))
    access attributes value fuel (rest.dropWhile inName)
  | fuel + 1, '[' :: rest =>
    match rest.dropWhile (· != ']') with
    | [] => .error .missingBracket
    | _ :: after => do
      let name := rest.takeWhile (· != ']')
      let index ← numberName? name
      if name.isEmpty then .error .emptyName
      let value ← value.step attributes
        (match index with
        | some place => .index place
        | none => .key (String.ofList name))
      access attributes value fuel after
  | _ + 1, _ => .error .afterBracket

/-- The name of the field that stands for the build. -/
def buildField : String := "build_id"

/-- The value of a name with its accesses. -/
def lookUp (attributes : Attributes) (value : List Char) (name : List Char)
    : Except Refusal Reached := do
  let isAccess (c : Char) : Bool := c == '.' || c == '['
  let first := name.takeWhile (!isAccess ·)
  let number ← numberName? first
  match number with
  | some index => .error (.positional index)
  | none =>
    if first.isEmpty then .error (.positional 0)
    else if first ≠ buildField.toList then .error (.unknownField (String.ofList first))
    else access attributes (.text value) name.length (name.dropWhile (!isAccess ·))

/-- What a value is converted to: left alone, as a text, quoted, or in ASCII and quoted. -/
def convert (value : Reached) (conversion : Option Char) : Except Refusal Reached :=
  match conversion, value with
  | none, value => .ok value
  | some 's', .text text => .ok (.text text)
  | some 's', .thing _ _ thing => thing.shown.map .text
  | some 'r', .text text => .ok (.text (Text.quoted (String.ofList text)).toList)
  | some 'r', .thing _ _ thing => thing.quoted.map .text
  | some 'a', .text text => .ok (.text (Text.quotedAscii (String.ofList text)).toList)
  | some 'a', .thing _ _ thing => thing.quotedAscii.map .text
  | some c, _ => .error (.conversion c)

/-- A value in a format. -/
def formatValue (value : Reached) (format : List Char) : Except Refusal (List Char) :=
  match value with
  | .text text => formatText text format
  | .thing _ _ thing => thing.formatted format

/-- The text of a field, whose format is itself expanded by `expand` when it holds fields. -/
def fieldText (attributes : Attributes) (expand : List Char → Except Refusal (List Char))
    (value : List Char) (field : Field) : Except Refusal (List Char) := do
  let found ← lookUp attributes value field.name
  let converted ← convert found field.conversion
  let format ← if field.format.contains '\x7b' then expand field.format else .ok field.format
  formatValue converted format

/-- The text of a template; the first piece that is refused decides. `depth` bounds how deep
fields may stand in the formats of others.
-/
def expand (attributes : Attributes) (value : List Char)
    : Nat → List Char → Except Refusal (List Char)
  | 0, _ => .error .tooNested
  | depth + 1, text => do
    let parts ← (pieces (text.length + 1) text).mapM fun piece =>
      match piece with
      | .literal literal => .ok literal
      | .field field => fieldText attributes (expand attributes value depth) value field
      | .broken refusal => .error refusal
    .ok parts.flatten

/-- How deep fields may stand in a template, counting the outermost. -/
def maxDepth : Nat := 2

def render (attributes : Attributes) (template buildId : String) : Except Refusal String :=
  (expand attributes buildId.toList maxDepth template.toList).map String.ofList

end Conductor.Template
