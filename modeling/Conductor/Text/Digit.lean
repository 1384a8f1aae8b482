import Conductor.Text.DecimalDigit
import Conductor.Text.WordCode

/-! Digits of every script, their values, and the characters of words. -/

namespace Conductor.Text

/-- The value of a decimal digit of any script. -/
def digitValue? (c : Char) : Option Nat :=
  digitRuns.findSome? fun (first, count) =>
    if first ≤ c.toNat && c.toNat < first + count then some ((c.toNat - first) % 10) else none

def isAsciiDigit (c : Char) : Bool :=
  '0' ≤ c && c ≤ '9'

/-- The number that digits of any script spell, other characters left out. -/
def digitsValue (cs : List Char) : Nat :=
  cs.foldl (fun n c => match digitValue? c with | some d => 10 * n + d | none => n) 0

def hexValue? (c : Char) : Option Nat :=
  if '0' ≤ c ∧ c ≤ '9' then some (c.toNat - 48)
  else if 'a' ≤ c ∧ c ≤ 'f' then some (c.toNat - 87)
  else if 'A' ≤ c ∧ c ≤ 'F' then some (c.toNat - 55)
  else none

def isHexDigit (c : Char) : Bool :=
  (hexValue? c).isSome

/-- The number that digits spell in a base of at most sixteen. -/
def valueIn (base : Nat) (cs : List Char) : Nat :=
  cs.foldl (fun n c => n * base + (hexValue? c).getD 0) 0

/-- Whether a character can stand in a word: a letter or numeral of any script, or a low line. -/
def isWordChar (c : Char) : Bool :=
  c == '_' || alphanumeric.has c

/-- Whether a character is an ASCII letter, an ASCII digit or a low line. -/
def isAsciiWordChar (c : Char) : Bool :=
  c.isAlphanum || c == '_'

end Conductor.Text
