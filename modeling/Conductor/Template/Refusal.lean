import Conductor.Text.Quoted

/-! What can be wrong with a template, in words. -/

namespace Conductor.Template

/-- Why a template has no text for a value. The last is an error that the platform raised for an
attribute, of a kind and with a text of its own.
-/
inductive Refusal where
  | singleOpen
  | singleClose
  | openInName
  | unclosed
  | noConversion
  | noColon
  | unmatchedOpen
  | tooNested
  | positional (index : Nat)
  | manyDigits
  | unknownField (name : String)
  | noAttribute (name : String)
  | notIndex
  | outOfRange
  | emptyName
  | afterBracket
  | missingBracket
  | conversion (c : Char)
  | bothSeparators
  | noPrecision
  | badFormat (format : String)
  | separator (mark kind : Char)
  | unknownKind (kind : Char)
  | sign
  | space
  | negativeZero
  | alternate
  | signAlign
  | tooLong
  | raised (kind text : String)
  deriving DecidableEq, Repr

/-- A character as itself, or by its number outside of the printable part of ASCII, of which
`last` is the last character shown.
-/
def shownChar (last : Nat) (c : Char) : String :=
  if 32 < c.toNat ∧ c.toNat ≤ last then c.toString else "\\x" ++ Text.hexDigits 1 c.toNat

def Refusal.message : Refusal → String
  | .singleOpen => "Single '\x7b' encountered in format string"
  | .singleClose => "Single '\x7d' encountered in format string"
  | .openInName => "unexpected '\x7b' in field name"
  | .unclosed => "expected '\x7d' before end of string"
  | .noConversion => "end of string while looking for conversion specifier"
  | .noColon => "expected ':' after conversion specifier"
  | .unmatchedOpen => "unmatched '\x7b' in format spec"
  | .tooNested => "Max string recursion exceeded"
  | .positional index =>
    "Replacement index " ++ toString index ++ " out of range for positional args tuple"
  | .manyDigits => "Too many decimal digits in format string"
  | .unknownField name => Text.quoted name
  | .noAttribute name => "'str' object has no attribute '" ++ name ++ "'"
  | .notIndex => "string indices must be integers, not 'str'"
  | .outOfRange => "string index out of range"
  | .emptyName => "Empty attribute in format string"
  | .afterBracket => "Only '.' or '[' may follow ']' in format field specifier"
  | .missingBracket => "Missing ']' in format string"
  | .conversion c => "Unknown conversion specifier " ++ shownChar 126 c
  | .bothSeparators => "Cannot specify both ',' and '_'."
  | .noPrecision => "Format specifier missing precision"
  | .badFormat format => "Invalid format specifier '" ++ format ++ "' for object of type 'str'"
  | .separator mark kind =>
    "Cannot specify '" ++ mark.toString ++ "' with '" ++ shownChar 127 kind ++ "'."
  | .unknownKind kind =>
    "Unknown format code '" ++ shownChar 127 kind ++ "' for object of type 'str'"
  | .sign => "Sign not allowed in string format specifier"
  | .space => "Space not allowed in string format specifier"
  | .negativeZero => "Negative zero coercion (z) not allowed in string format specifier"
  | .alternate => "Alternate form (#) not allowed in string format specifier"
  | .signAlign => "'=' alignment not allowed in string format specifier"
  | .tooLong => ""
  | .raised _ text => text

end Conductor.Template
