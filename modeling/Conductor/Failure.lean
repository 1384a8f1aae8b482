import Conductor.Console
import Conductor.Datum
import Conductor.ExitStatus

/-!
Failures of jobs, of groups of jobs and of requests, with the words in which they are reported
and the exit status they lead to.
-/

namespace Conductor

/-- A unit of work that did not succeed. The reason is what the place it ran at had to say, and
the exit code is given when a process reported one.
-/
structure UnitFailure where
  job : String
  reason : String
  exitCode : Option Int := none
  deriving DecidableEq, Repr

namespace UnitFailure

/-- What failed, with the exit code or else the reason. -/
def message (failure : UnitFailure) : String :=
  match failure.exitCode with
  | some code => "job " ++ failure.job ++ " failed (exit " ++ toString code ++ ")"
  | none => "job " ++ failure.job ++ " failed: " ++ failure.reason

/-- The reason, where the message does not hold it. -/
def hint (failure : UnitFailure) : Option String :=
  if failure.exitCode.isSome && !failure.reason.isEmpty then some failure.reason else none

def datum (failure : UnitFailure) : Datum :=
  .record "UnitFailure" [
    ("job", .ofString failure.job),
    ("reason", .ofString failure.reason),
    ("returncode", .value ((failure.exitCode.map Value.int).getD .null))]

end UnitFailure

/-- The failure of a group: one failure stands for all. `place` is where it stands among
`failures`, none when it is a failure apart from them.
-/
structure Aggregate where
  first : UnitFailure
  place : Option Nat
  failures : List UnitFailure
  deriving DecidableEq, Repr

namespace Aggregate

/-- The failure of a group whose failures, in the order of submission, start with `first`. -/
def ofFailures (first : UnitFailure) (rest : List UnitFailure) : Aggregate :=
  ⟨first, some 0, first :: rest⟩

/-- The failures beside the one that stands for all. -/
def others (group : Aggregate) : List UnitFailure :=
  (group.failures.zipIdx.filter fun (_, index) => some index != group.place).map Prod.fst

/-- The names of the other failed jobs, or the hint of the only failure. -/
def hint (group : Aggregate) : Option String :=
  match group.others with
  | [] => group.first.hint
  | others => some ("also failed: " ++ ", ".intercalate (others.map UnitFailure.job))

/-- A failure of a group by its fields, over the data of its members. -/
def datumOf (first : Datum) (failures : List Datum) : Datum :=
  .record "AggregateFailure" [("first", first), ("failures", .tuple failures)]

end Aggregate

/-- Why a run did not succeed: a condition that did not hold before it started, a check that
nobody knows, a failed unit, or a group with failed units.
-/
inductive Failure where
  | invalid (message : String) (missing : List String) (hint : Option String)
  | unknownCheck (name : Text) (available : List String)
  | unit (failure : UnitFailure)
  | group (failure : Aggregate)
  deriving DecidableEq, Repr

namespace Failure

def message : Failure → String
  | .invalid message _ _ => message
  | .unknownCheck name _ => "No check found with name: " ++ name.shown
  | .unit failure => failure.message
  | .group failure => failure.first.message

def hint : Failure → Option String
  | .invalid _ _ hint => hint
  | .unknownCheck _ available =>
    if available.isEmpty then none else some ("available: " ++ ", ".intercalate available)
  | .unit failure => failure.hint
  | .group failure => failure.hint

def datum : Failure → Datum
  | .invalid message missing hint =>
    .record "ValidationError" [
      ("message", .ofString message), ("missing", .ofStrings missing), ("hint", .ofString? hint)]
  | .unknownCheck name available =>
    .record "NotFoundError" [("name", .units name), ("available", .ofStrings available)]
  | .unit failure => failure.datum
  | .group failure => Aggregate.datumOf failure.first.datum (failure.failures.map UnitFailure.datum)

/-- The exit status of a run that ends with a failure. -/
def exitStatus : Failure → ExitStatus
  | .invalid _ _ _ => .environmentError
  | .unknownCheck _ _ => .userError
  | .unit _ => .buildError
  | .group _ => .buildError

/-- The message for a hint, none when the hint is absent or empty. -/
def hintMessages (hint : Option String) (label : String) : List Message :=
  match hint with
  | some text => if text.isEmpty then [] else [.dim (label ++ text)]
  | none => []

/-- The messages that tell a user of a failure. -/
def report (failure : Failure) : List Message :=
  match failure with
  | .invalid message missing hint =>
    .error message
      :: (if missing.isEmpty then [] else [.dim ("missing: " ++ ", ".intercalate missing)])
      ++ hintMessages hint "hint: "
  | .unknownCheck _ _ => .error failure.message :: hintMessages failure.hint ""
  | .unit _ => .error failure.message :: hintMessages failure.hint ""
  | .group aggregate =>
    .error (toString aggregate.failures.length ++ " job(s) failed; first: " ++ failure.message)
      :: aggregate.failures.map fun member => .dim ("- " ++ member.job)

end Failure

end Conductor
