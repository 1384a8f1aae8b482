import Conductor.Failure

/-! How a unit of work ends. -/

namespace Conductor

/-- An error as the place that raised it describes it. -/
structure Trouble where
  kind : String
  text : String
  deriving DecidableEq, Repr

def Trouble.message (trouble : Trouble) : String :=
  trouble.kind ++ ": " ++ trouble.text

/-- What can break off a unit of work: an error, or the cancellation of all that is going on. -/
inductive Breakdown where
  | trouble (trouble : Trouble)
  | cancelled (text : String)
  deriving DecidableEq, Repr

/-- How a unit of work ends. -/
inductive Outcome where
  | passed
  | failed (failure : UnitFailure)
  | broken (breakdown : Breakdown)
  deriving DecidableEq, Repr

namespace Outcome

/-- The failure that an outcome counts as, for a unit of a name: an error counts as a failure of
the unit, with the error for its reason.
-/
def failure? (name : String) : Outcome → Option UnitFailure
  | .passed => none
  | .failed failure => some failure
  | .broken (.trouble trouble) => some ⟨name, trouble.message, none⟩
  | .broken (.cancelled _) => none

/-- The text of a cancellation. -/
def cancellation? : Outcome → Option String
  | .broken (.cancelled text) => some text
  | _ => none

/-- The outcome of a unit that has the given failure, if any. -/
def ofFailure? : Option UnitFailure → Outcome
  | none => .passed
  | some failure => .failed failure

end Outcome

end Conductor
