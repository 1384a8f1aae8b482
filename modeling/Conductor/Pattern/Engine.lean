import Conductor.Pattern.Token

/-!
What the reading of patterns leaves to the platform: the names of characters, how deep its stack
lets groups stand within one another, and which patterns that have been read it can compile.
-/

namespace Conductor.Pattern

/-- What opened a group. -/
inductive Opening where
  | capture (index : Nat)
  | plain
  | atomic
  | ahead (negated : Bool)
  | behind (negated : Bool) (outermost : Bool)
  | ifGroup (index : Nat)
  deriving DecidableEq, Repr

/-- The part of the platform that patterns are left to. It is asked for room where a group opens, by
what opened the groups around it, the innermost first, and by the parts behind the opening. There is
always room for a few groups, and a short source can be compiled.
-/
structure Engine where
  named : String → Option Char
  room : List Opening → List Token → Bool
  compiles : String → Bool
  roomy : ∀ opened rest, opened.length ≤ 20 → room opened rest = true
  brief : ∀ source : String, source.length ≤ 100 → compiles source = true

/-- An engine without a limit, which knows no names. -/
def Engine.bare : Engine where
  named _ := none
  room _ _ := true
  compiles _ := true
  roomy _ _ _ := rfl
  brief _ _ := rfl

end Conductor.Pattern
