import Conductor.Template.Refusal
import Conductor.Text.Digit

/-!
Formats of fields in templates: how wide a text is made, on which side it stands, and how much
of it is kept. A format may also say things that only make sense for numbers; those are refused,
in the order in which they are checked.
-/

namespace Conductor.Template

def maxNumber : Nat := Nat.pow 2 63 - 1

/-- The length that no text reaches. -/
def lengthLimit : Nat := Nat.pow 2 40

/-- Where a text stands within its width. `signed` puts the padding behind the sign of a number.
-/
inductive Align where
  | left
  | right
  | center
  | signed
  deriving DecidableEq, Repr

def Align.ofChar? (c : Char) : Option Align :=
  match c with
  | '<' => some .left
  | '>' => some .right
  | '^' => some .center
  | '=' => some .signed
  | _ => none

/-- A format as it is written. -/
structure Format where
  fill : Char
  align : Align
  sign : Option Char
  negativeZero : Bool
  alternate : Bool
  width : Option Nat
  separator : Option Char
  precision : Option Nat
  kind : Char
  deriving DecidableEq, Repr

/-- The number at the start of a text, with the count of its digits and the text behind it. -/
def leadingNumber (value count : Nat) : List Char → Except Refusal (Nat × Nat × List Char)
  | [] => .ok (value, count, [])
  | c :: rest =>
    match Text.digitValue? c with
    | none => .ok (value, count, c :: rest)
    | some digit =>
      if maxNumber < value * 10 + digit then .error .manyDigits
      else leadingNumber (value * 10 + digit) (count + 1) rest

/-- A text without its first character, if that is `c`, and whether it was. -/
def takeMark (c : Char) : List Char → Bool × List Char
  | d :: rest => if c = d then (true, rest) else (false, d :: rest)
  | [] => (false, [])

/-- The fill character and the alignment at the start of a format. -/
def fillAndAlign (spec : List Char) : Option Char × Align × List Char :=
  match spec with
  | fill :: mark :: rest =>
    match Align.ofChar? mark, Align.ofChar? fill with
    | some align, _ => (some fill, align, rest)
    | none, some align => (none, align, mark :: rest)
    | none, none => (none, .left, spec)
  | [mark] =>
    match Align.ofChar? mark with
    | some align => (none, align, [])
    | none => (none, .left, spec)
  | [] => (none, .left, [])

def readSeparator (spec : List Char) : Except Refusal (Option Char × List Char) :=
  let (comma, spec) := takeMark ',' spec
  let (low, spec) := takeMark '_' spec
  if comma && low then .error .bothSeparators
  else if low && spec.head? == some ',' then .error .bothSeparators
  else .ok (if comma then some ',' else if low then some '_' else none, spec)

def readPrecision (spec : List Char) : Except Refusal (Option Nat × List Char) :=
  match spec with
  | '.' :: rest => do
    let (value, count, rest) ← leadingNumber 0 0 rest
    if count = 0 then .error .noPrecision else .ok (some value, rest)
  | _ => .ok (none, spec)

def allowsSeparator (mark kind : Char) : Bool :=
  ['d', 'e', 'f', 'g', 'E', 'G', '%', 'F', '\x00'].contains kind
    || (mark == '_' && ['b', 'o', 'x', 'X'].contains kind)

def Format.parse (spec : List Char) : Except Refusal Format := do
  let (fill, align, rest) := fillAndAlign spec
  let (sign, rest) := match rest with
    | c :: after => if c = '+' ∨ c = '-' ∨ c = ' ' then (some c, after) else (none, rest)
    | [] => (none, [])
  let (negativeZero, rest) := takeMark 'z' rest
  let (alternate, rest) := takeMark '#' rest
  let (zero, rest) := if fill.isNone then takeMark '0' rest else (false, rest)
  let (width, count, rest) ← leadingNumber 0 0 rest
  let (separator, rest) ← readSeparator rest
  let (precision, rest) ← readPrecision rest
  let kind ← match rest with
    | [] => .ok 's'
    | [kind] => .ok kind
    | _ => .error (.badFormat (String.ofList spec))
  match separator with
  | some mark => if !allowsSeparator mark kind then .error (.separator mark kind)
  | none => .ok ()
  .ok {
    fill := fill.getD (if zero then '0' else ' ')
    align, sign, negativeZero, alternate
    width := if count = 0 then none else some width
    separator, precision, kind }

/-- What a format asks for that a text does not have. -/
def Format.misfit? (format : Format) : Option Refusal :=
  if format.kind ≠ 's' then some (.unknownKind format.kind)
  else if format.sign = some ' ' then some .space
  else if format.sign.isSome then some .sign
  else if format.negativeZero then some .negativeZero
  else if format.alternate then some .alternate
  else if format.align = .signed then some .signAlign
  else none

/-- A text cut to the precision of a format and padded to its width. -/
def Format.lay (format : Format) (text : List Char) : List Char :=
  let kept := match format.precision with
    | some precision => text.take precision
    | none => text
  let padding := (format.width.getD 0) - kept.length
  let left := match format.align with
    | .right => padding
    | .center => padding / 2
    | _ => 0
  List.replicate left format.fill ++ kept ++ List.replicate (padding - left) format.fill

/-- A text in a format that is given as text. The empty format changes nothing. -/
def formatText (text : List Char) (spec : List Char) : Except Refusal (List Char) :=
  if spec.isEmpty then .ok text
  else do
    let format ← Format.parse spec
    match format.misfit? with
    | some refusal => .error refusal
    | none =>
      if lengthLimit ≤ format.width.getD 0 then .error .tooLong
      else .ok (format.lay text)

end Conductor.Template
