import Conductor.Text.Digit
import Conductor.Text.NameCode

/-!
The smallest parts of a pattern's text: characters, and characters behind a backslash. Numbers
and names are read from runs of them.
-/

namespace Conductor.Pattern

/-- Why a text is not read as a pattern: it breaks the grammar, a repetition asks for more runs
than there may be, a number has too many digits, the flags for ASCII and for all scripts are
both set, or groups are nested too deeply.
-/
inductive Refusal where
  | malformed
  | longRepetition
  | longNumber (digits : Nat)
  | flagsClash
  | tooDeep
  deriving DecidableEq, Repr

/-- A part of a pattern's text. A backslash at the very end is broken. -/
inductive Token where
  | plain (c : Char)
  | escaped (c : Char)
  | broken
  deriving DecidableEq, Repr

namespace Token

def ofChars : List Char → List Token
  | [] => []
  | ['\\'] => [.broken]
  | '\\' :: c :: rest => .escaped c :: ofChars rest
  | c :: rest => .plain c :: ofChars rest

/-- The characters that satisfy `p` at the start of a list of parts, at most `limit` of them, and
the parts behind them.
-/
def takeChars (p : Char → Bool) : Nat → List Token → List Char × List Token
  | limit + 1, .plain c :: rest =>
    if p c then
      let (cs, rest) := takeChars p limit rest
      (c :: cs, rest)
    else ([], .plain c :: rest)
  | _, tokens => ([], tokens)

def isOctalDigit (c : Char) : Bool :=
  '0' ≤ c && c ≤ '7'

/-- The code point of exactly `count` hexadecimal digits, and the parts behind them. -/
def hexCode (count : Nat) (tokens : List Token) : Except Refusal (Nat × List Token) :=
  let (digits, rest) := takeChars Text.isHexDigit count tokens
  let code := Text.valueIn 16 digits
  if digits.length = count ∧ code < 0x110000 then .ok (code, rest) else .error .malformed

/-- The text up to a closing character, and the parts behind it. -/
def upTo (stop : Char) (done : List Char) : List Token → Except Refusal (List Char × List Token)
  | [] => .error .malformed
  | .broken :: _ => .error .malformed
  | .escaped c :: rest => upTo stop (c :: '\\' :: done) rest
  | .plain c :: rest =>
    if c ≠ stop then upTo stop (c :: done) rest
    else if done.isEmpty then .error .malformed
    else .ok (done.reverse, rest)

def isName : List Char → Bool
  | [] => false
  | c :: rest => Text.nameStart.has c && rest.all Text.nameContinue.has

end Token

end Conductor.Pattern
