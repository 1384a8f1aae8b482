import Conductor.Number.Binary64
import Conductor.Text.Digit
import Conductor.Value.Basic

/-!
Scalars of TOML documents: strings, numbers, dates and times. A reader takes the start of a text
and gives back what it stands for together with the text behind it.
-/

namespace Conductor.Toml

/-- Why a document is not read: it breaks the grammar, a whole number has too many digits, or
values are nested too deeply.
-/
inductive Refusal where
  | malformed
  | longNumber (digits : Nat)
  | tooDeep
  deriving DecidableEq, Repr

def maxDigits : Nat := 4300

/-- The blanks within a line. -/
def isBlank (c : Char) : Bool :=
  c == ' ' || c == '\t'

/-- Characters that may stand neither in a comment nor in a string of one line. -/
def isControl (c : Char) : Bool :=
  c != '\t' && (c.toNat < 0x20 || c.toNat == 0x7F)

/-- Characters that may not stand in a string. -/
def isIllegal (multiline : Bool) (c : Char) : Bool :=
  isControl c && !(multiline && c == '\n')

-----------------------------------------------------------------------------------------
-- Strings
-----------------------------------------------------------------------------------------

/-- A string without escapes, behind its opening apostrophe. -/
def literalString (text : List Char) : Except Refusal (String × List Char) :=
  match text.span (· != '\'') with
  | (body, _ :: rest) =>
    if body.any (isIllegal false) then .error .malformed else .ok (String.ofList body, rest)
  | (_, []) => .error .malformed

/-- The text up to three apostrophes, and the text behind them. -/
def literalLines (done : List Char) : List Char → Except Refusal (List Char × List Char)
  | '\'' :: '\'' :: '\'' :: rest => .ok (done.reverse, rest)
  | c :: rest => if isIllegal true c then .error .malformed else literalLines (c :: done) rest
  | [] => .error .malformed

/-- What a backslash at the end of a line leaves out: the blanks up to the line's end, and then
all blanks and line ends up to the next other character.
-/
inductive Skip where
  | nothing
  | lineRest
  | blanks
  deriving DecidableEq, Repr

def escaped? (c : Char) : Option Char :=
  match c with
  | 'b' => some '\x08'
  | 't' => some '\t'
  | 'n' => some '\n'
  | 'f' => some '\x0c'
  | 'r' => some '\r'
  | '"' => some '"'
  | '\\' => some '\\'
  | _ => none

/-- The character whose code point hexadecimal digits spell. -/
def numbered? (digits : List Char) : Option Char :=
  let code := Text.valueIn 16 digits
  if digits.all Text.isHexDigit ∧ code.isValidChar then some (Char.ofNat code) else none

/-- A string with escapes, up to its closing quotes. `done` is the string so far in reverse. -/
def basicString (multiline : Bool) (skip : Skip) (done : List Char)
    : List Char → Except Refusal (List Char × List Char)
  | [] => .error .malformed
  | c :: rest =>
    if skip = .lineRest then
      if c = '\n' then basicString multiline .blanks done rest
      else if isBlank c then basicString multiline .lineRest done rest
      else .error .malformed
    else if skip = .blanks ∧ (isBlank c ∨ c = '\n') then basicString multiline .blanks done rest
    else if c = '"' then
      if !multiline then .ok (done.reverse, rest)
      else
        match rest with
        | '"' :: '"' :: rest => .ok (done.reverse, rest)
        | rest => basicString multiline .nothing (c :: done) rest
    else if c = '\\' then
      match rest with
      | 'u' :: a :: b :: c :: d :: rest =>
        match numbered? [a, b, c, d] with
        | some char => basicString multiline .nothing (char :: done) rest
        | none => .error .malformed
      | 'U' :: a :: b :: c :: d :: e :: f :: g :: h :: rest =>
        match numbered? [a, b, c, d, e, f, g, h] with
        | some char => basicString multiline .nothing (char :: done) rest
        | none => .error .malformed
      | e :: rest =>
        if multiline && isBlank e then basicString multiline .lineRest done rest
        else if multiline && e == '\n' then basicString multiline .blanks done rest
        else
          match escaped? e with
          | some char => basicString multiline .nothing (char :: done) rest
          | none => .error .malformed
      | [] => .error .malformed
    else if isIllegal multiline c then .error .malformed
    else basicString multiline .nothing (c :: done) rest

/-- The text of a string of several lines. Up to two quotes more than the closing three belong to
the string.
-/
def withQuotes (quote : Char) (body : List Char) (rest : List Char) : String × List Char :=
  match rest with
  | c :: d :: after =>
    if c = quote ∧ d = quote then (String.ofList (body ++ [quote, quote]), after)
    else if c = quote then (String.ofList (body ++ [quote]), d :: after)
    else (String.ofList body, rest)
  | [c] => if c = quote then (String.ofList (body ++ [quote]), []) else (String.ofList body, rest)
  | [] => (String.ofList body, [])

/-- A text without a line end right at its start. -/
def afterLineEnd : List Char → List Char
  | '\n' :: rest => rest
  | text => text

/-- A string value; none when the text starts with another value. -/
def string? (text : List Char) : Except Refusal (Option (String × List Char)) :=
  match text with
  | '"' :: '"' :: '"' :: rest => do
    let (body, rest) ← basicString true .nothing [] (afterLineEnd rest)
    .ok (some (withQuotes '"' body rest))
  | '"' :: rest => do
    let (body, rest) ← basicString false .nothing [] rest
    .ok (some (String.ofList body, rest))
  | '\'' :: '\'' :: '\'' :: rest => do
    let (body, rest) ← literalLines [] (afterLineEnd rest)
    .ok (some (withQuotes '\'' body rest))
  | '\'' :: rest => (literalString rest).map some
  | _ => .ok none

-----------------------------------------------------------------------------------------
-- Dates and times
-----------------------------------------------------------------------------------------

/-- The number that ASCII digits spell, none with any other character. -/
def fixedNumber? (digits : List Char) : Option Nat :=
  if digits.all Text.isAsciiDigit then some (Text.valueIn 10 digits) else none

def twoDigits? (low high : Nat) (a b : Char) : Option Nat :=
  (fixedNumber? [a, b]).filter fun n => low ≤ n && n ≤ high

/-- A year, a month and a day, of which the calendar may know nothing. -/
def day? (text : List Char) : Option ((Nat × Nat × Nat) × List Char) :=
  match text with
  | a :: b :: c :: d :: '-' :: e :: f :: '-' :: g :: h :: rest => do
    let year ← fixedNumber? [a, b, c, d]
    let month ← twoDigits? 1 12 e f
    let day ← twoDigits? 1 31 g h
    some ((year, month, day), rest)
  | _ => none

/-- A time of day. Digits of the fraction beyond the sixth are left out. -/
def clock? (text : List Char) : Option (TimeOfDay × List Char) :=
  match text with
  | a :: b :: ':' :: c :: d :: ':' :: e :: f :: rest => do
    let hour ← twoDigits? 0 23 a b
    let minute ← twoDigits? 0 59 c d
    let second ← twoDigits? 0 59 e f
    match rest with
    | '.' :: after =>
      let digits := after.takeWhile Text.isAsciiDigit
      if digits.isEmpty then some (⟨hour, minute, second, 0⟩, rest)
      else
        let kept := digits.take 6
        let micro := Text.valueIn 10 kept * Nat.pow 10 (6 - kept.length)
        some (⟨hour, minute, second, micro⟩, after.drop digits.length)
    | rest => some (⟨hour, minute, second, 0⟩, rest)
  | _ => none

/-- The offset from universal time in minutes, if one follows. -/
def offset (text : List Char) : Option Int × List Char :=
  match text with
  | 'Z' :: rest => (some 0, rest)
  | 'z' :: rest => (some 0, rest)
  | sign :: a :: b :: ':' :: c :: d :: rest =>
    match twoDigits? 0 23 a b, twoDigits? 0 59 c d with
    | some hours, some minutes =>
      let total : Int := hours * 60 + minutes
      if sign = '+' then (some total, rest)
      else if sign = '-' then (some (-total), rest)
      else (none, text)
    | _, _ => (none, text)
  | _ => (none, text)

/-- A time of day behind a date, with the letter or blank that joins them. -/
def clockAfter? (text : List Char) : Option (TimeOfDay × List Char) :=
  match text with
  | c :: rest => if c = 'T' ∨ c = 't' ∨ c = ' ' then clock? rest else none
  | [] => none

/-- A date, a time, or both; none when the text starts with another value. -/
def moment? (text : List Char) : Except Refusal (Option (Moment × List Char)) :=
  match day? text with
  | none => .ok ((clock? text).map fun (clock, rest) => (.time clock, rest))
  | some ((year, month, day), rest) =>
    match Date.ofParts? year month day, clockAfter? rest with
    | none, _ => .error .malformed
    | some date, none => .ok (some (.date date, rest))
    | some date, some (clock, rest) =>
      let (shift, rest) := offset rest
      .ok (some (.dateTime date clock shift, rest))

-----------------------------------------------------------------------------------------
-- Numbers
-----------------------------------------------------------------------------------------

/-- Digits at the start of a text, between which single low lines may stand, without these. -/
def digitRun (isDigit : Char → Bool) (done : List Char) : List Char → List Char × List Char
  | [] => (done.reverse, [])
  | '_' :: d :: rest =>
    if !done.isEmpty && isDigit d then digitRun isDigit (d :: done) rest
    else (done.reverse, '_' :: d :: rest)
  | c :: rest =>
    if isDigit c then digitRun isDigit (c :: done) rest else (done.reverse, c :: rest)

/-- A number that names its base; none when the text starts otherwise. -/
def basedNumber? (text : List Char) : Option (Nat × List Char) :=
  let digits (base : Nat) (isDigit : Char → Bool) (rest : List Char) :=
    match digitRun isDigit [] rest with
    | ([], _) => none
    | (digits, rest) => some (Text.valueIn base digits, rest)
  match text with
  | '0' :: 'x' :: rest => digits 16 Text.isHexDigit rest
  | '0' :: 'o' :: rest => digits 8 (fun c => '0' ≤ c && c ≤ '7') rest
  | '0' :: 'b' :: rest => digits 2 (fun c => c == '0' || c == '1') rest
  | _ => none

/-- The digits of the whole part of a number, of which a zero stands alone. -/
def wholeDigits (text : List Char) : List Char × List Char :=
  match text with
  | '0' :: rest => (['0'], rest)
  | text => digitRun Text.isAsciiDigit [] text

/-- The digits of a fraction, none when no fraction follows. -/
def fractionDigits (text : List Char) : List Char × List Char :=
  match text with
  | '.' :: rest =>
    match digitRun Text.isAsciiDigit [] rest with
    | ([], _) => ([], text)
    | (digits, rest) => (digits, rest)
  | _ => ([], text)

/-- The power of ten that follows a number, if one does. -/
def power? (text : List Char) : Option (Int × List Char) :=
  let digits (sign : Int) (rest : List Char) :=
    match digitRun Text.isAsciiDigit [] rest with
    | ([], _) => none
    | (digits, rest) => some (sign * Text.valueIn 10 digits, rest)
  match text with
  | e :: rest =>
    if e = 'e' ∨ e = 'E' then
      match rest with
      | '-' :: rest => digits (-1) rest
      | '+' :: rest => digits 1 rest
      | rest => digits 1 rest
    else none
  | [] => none

/-- The sign of a number: whether it is negative, and the text behind it. -/
def signed (text : List Char) : Bool × List Char :=
  match text with
  | '-' :: rest => (true, rest)
  | '+' :: rest => (false, rest)
  | _ => (false, text)

/-- A number, none when the text starts with another value. Without fraction and power it is a
whole number.
-/
def number? (text : List Char) : Except Refusal (Option (Value String × List Char)) :=
  match basedNumber? text with
  | some (n, rest) => .ok (some (.int n, rest))
  | none =>
    let (negative, body) := signed text
    let (whole, rest) := wholeDigits body
    if whole.isEmpty then
      match body with
      | 'i' :: 'n' :: 'f' :: rest => .ok (some (.float (.infinite negative), rest))
      | 'n' :: 'a' :: 'n' :: rest => .ok (some (.float .nan, rest))
      | _ => .ok none
    else
      let (fraction, rest) := fractionDigits rest
      match power? rest, fraction with
      | none, [] =>
        if maxDigits < whole.length then .error (.longNumber whole.length)
        else
          let n : Int := Text.valueIn 10 whole
          .ok (some (.int (if negative then -n else n), rest))
      | power, fraction =>
        let (scale, rest) := power.getD (0, rest)
        let digits := Text.valueIn 10 (whole ++ fraction)
        .ok (some (.float (.ofDecimal negative digits (scale - fraction.length)), rest))

def scalar (text : List Char) : Except Refusal (Value String × List Char) := do
  match ← string? text with
  | some (s, rest) => .ok (.str s, rest)
  | none =>
    match text with
    | 't' :: 'r' :: 'u' :: 'e' :: rest => .ok (.bool true, rest)
    | 'f' :: 'a' :: 'l' :: 's' :: 'e' :: rest => .ok (.bool false, rest)
    | text =>
      match ← moment? text with
      | some (m, rest) => .ok (.moment m, rest)
      | none =>
        match ← number? text with
        | some found => .ok found
        | none => .error .malformed

end Conductor.Toml
