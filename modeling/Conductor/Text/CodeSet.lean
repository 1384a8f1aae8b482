/-! Sets of code points, written down by the places where membership changes. -/

namespace Conductor.Text

/-- A set of numbers given by an ascending list of boundaries: numbers below the first are
outside, and each boundary passed turns membership over.
-/
structure CodeSet where
  bounds : List Nat
  deriving DecidableEq, Repr

namespace CodeSet

/-- Whether `n` lies behind an odd number of the ascending boundaries. -/
def passed (n : Nat) : List Nat → Bool → Bool
  | [], inside => inside
  | bound :: rest, inside => if n < bound then inside else passed n rest (!inside)

/-- Membership of a number. -/
def contains (set : CodeSet) (n : Nat) : Bool :=
  passed n set.bounds false

/-- Membership of a character, by its code point. -/
def has (set : CodeSet) (c : Char) : Bool :=
  set.contains c.toNat

end CodeSet

end Conductor.Text
