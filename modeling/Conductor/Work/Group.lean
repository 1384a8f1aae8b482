import Conductor.Fault
import Conductor.Work.Turns

/-!
Groups of units of work. A group that runs together runs every unit to its end and then tells all
failures in the order of submission; a group that runs in sequence stops at the first failure.
-/

namespace Conductor

variable {ε : Type}

/-- Runs one unit and gives its failure, if it fails. An error within the unit is a failure of
it; a cancellation is not, and breaks off the request.
-/
def settle (unit : UnitOfWork ε) : Attempt ε (Option UnitFailure) := do
  let outcome ← unit.run
  match outcome.cancellation? with
  | some text => throw (.cancelled text)
  | none => return outcome.failure? unit.name

namespace Group

/-- The failures among the outcomes of units, in the order of the units. -/
def failures (units : List (UnitOfWork ε)) (outcomes : List (Nat × Outcome)) : List UnitFailure :=
  units.zipIdx.filterMap fun (unit, place) =>
    (outcomes.lookup place).bind (Outcome.failure? unit.name)

/-- The message at the start of a group. -/
def opening (units : List (UnitOfWork ε)) : Message :=
  .dim ("running " ++ toString units.length ++ " job(s) concurrently: "
    ++ ", ".intercalate (units.map UnitOfWork.name))

/-- The messages on the failures of a group of `count` units. -/
def closing (count : Nat) (failures : List UnitFailure) : List Message :=
  failures.map (fun failure => .warning failure.message)
    ++ (if failures.isEmpty then []
      else [.error (toString failures.length ++ "/" ++ toString count ++ " job(s) failed")])

/-- What a group with the given failures comes to. -/
def verdict : List UnitFailure → Except Aggregate Unit
  | [] => .ok ()
  | first :: rest => .error (.ofFailures first rest)

/-- Runs units together. No failure keeps another unit from running to its end. -/
def runAll (schedule : Schedule) (units : List (UnitOfWork ε))
    : Attempt ε (Except Aggregate Unit) := do
  if units.isEmpty then return .ok ()
  Attempt.write [opening units]
  let progress ← runTogether schedule units
  match progress.cancelled with
  | some (text, _) => throw (.cancelled text)
  | none => do
    let failed := failures units progress.outcomes
    Attempt.write (closing units.length failed)
    return verdict failed

/-- The message before a unit of a sequence. -/
def stepLine (place count : Nat) (name : String) : Message :=
  .dim ("[" ++ toString place ++ "/" ++ toString count ++ "] " ++ name)

/-- Runs the rest of a sequence of `count` units, of which `done` have passed. -/
def runFrom (count done : Nat) : List (UnitOfWork ε) → Attempt ε (Except UnitFailure Unit)
  | [] => return .ok ()
  | unit :: rest => do
    Attempt.write [stepLine (done + 1) count unit.name]
    match ← settle unit with
    | none => runFrom count (done + 1) rest
    | some failure => do
      if !rest.isEmpty then
        Attempt.write [.warning (failure.job ++ " failed; skipping " ++ toString rest.length
          ++ " remaining")]
      return .error failure

/-- Runs units one after the other, up to the first that fails. -/
def runEach (units : List (UnitOfWork ε)) : Attempt ε (Except UnitFailure Unit) :=
  runFrom units.length 0 units

end Group

end Conductor
