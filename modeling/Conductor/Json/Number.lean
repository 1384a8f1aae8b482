import Conductor.Number.Binary64
import Conductor.Text.Digit
import Conductor.Text.Unit
import Conductor.Value.Basic

/-!
Numbers of the JSON grammar, read one character at a time. A number without fraction and power
is a whole number of any size up to a limit of digits; any other is rounded to double precision.
-/

namespace Conductor.Json

/-- Why a document is not read. -/
inductive Refusal where
  | malformed
  | longNumber (digits : Nat)
  | tooDeep
  deriving DecidableEq, Repr

/-- The most digits that a whole number may have. -/
def maxDigits : Nat := 4300

/-- How far a number has been read; the names say what was read last. -/
inductive NumberPart where
  | sign
  | zero
  | whole
  | point
  | fraction
  | power
  | powerSign
  | powerDigits
  deriving DecidableEq, Repr

/-- A number under way, its digits in reverse. -/
structure NumberState where
  part : NumberPart
  negative : Bool
  whole : List Char
  fraction : List Char
  powerNegative : Bool
  power : List Char
  deriving DecidableEq, Repr

namespace NumberState

def minus : NumberState := ⟨.sign, true, [], [], false, []⟩

def firstDigit (negative : Bool) (c : Char) : NumberState :=
  ⟨if c = '0' then .zero else .whole, negative, [c], [], false, []⟩

/-- The number with one more character, none when the character cannot belong to it. -/
def push? (n : NumberState) (c : Char) : Option NumberState :=
  let digit := Text.isAsciiDigit c
  let afterWhole : Option NumberState :=
    if c = '.' then some { n with part := .point }
    else if c = 'e' ∨ c = 'E' then some { n with part := .power }
    else none
  match n.part with
  | .sign => if digit then some (firstDigit n.negative c) else none
  | .zero => afterWhole
  | .whole => if digit then some { n with whole := c :: n.whole } else afterWhole
  | .point => if digit then some { n with part := .fraction, fraction := [c] } else none
  | .fraction =>
    if digit then some { n with fraction := c :: n.fraction }
    else if c = 'e' ∨ c = 'E' then some { n with part := .power }
    else none
  | .power =>
    if digit then some { n with part := .powerDigits, power := [c] }
    else if c = '+' ∨ c = '-' then some { n with part := .powerSign, powerNegative := c = '-' }
    else none
  | .powerSign | .powerDigits =>
    if digit then some { n with part := .powerDigits, power := c :: n.power } else none

def toFloat (n : NumberState) : Binary64 :=
  let power : Int := Text.digitsValue n.power.reverse
  let scale := (if n.powerNegative then -power else power) - n.fraction.length
  .ofDecimal n.negative (Text.digitsValue (n.fraction ++ n.whole).reverse) scale

/-- The value of a finished number. A whole number over the limit is refused, also where the
number breaks off behind it.
-/
def finish (n : NumberState) : Except Refusal (Value Text) :=
  match n.part with
  | .fraction | .powerDigits => .ok (.float n.toFloat)
  | part =>
    if n.fraction.isEmpty ∧ maxDigits < n.whole.length then
      .error (.longNumber n.whole.length)
    else if part = .zero ∨ part = .whole then
      let value : Int := Text.digitsValue n.whole.reverse
      .ok (.int (if n.negative then -value else value))
    else
      .error .malformed

end NumberState

end Conductor.Json
