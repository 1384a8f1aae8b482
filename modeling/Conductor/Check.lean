import Conductor.Job.Executor

/-!
Checks: units of work whose conclusion is reported to the host, whatever it is. A check ends as
its job does, unless the report breaks down.
-/

namespace Conductor

/-- What takes reports, one at a time or while others are under way. All it does besides is to write
messages and to call programs.
-/
abbrev Reporter (ε : Type) := StatusReport → Async Deed ε (Except Breakdown Unit)

def Reporter.console {ε : Type} : Reporter ε := fun report => do
  Async.say report.messages
  return .ok ()

/-- A unit of work, and what the host is told beside its conclusion. -/
structure Check (ε : Type) where
  job : UnitOfWork ε
  repoName : String
  buildId : String
  detailsUrl : String

namespace Check

variable {ε : Type}

/-- The report on a check whose job has the given failure, if any. -/
def report (check : Check ε) (failure : Option UnitFailure) : StatusReport where
  repoName := check.repoName
  buildId := check.buildId
  check := check.job.name
  status := if failure.isNone then .success else .failure
  detailsUrl := check.detailsUrl
  summary := failure.map UnitFailure.message

/-- Reports how the job of a check ended, and waits for the delivery. A job that was cancelled is
not reported.
-/
def conclude (reporter : Reporter ε) (check : Check ε) (outcome : Outcome) : Async Act ε Outcome :=
  match outcome.cancellation? with
  | some text => return .broken (.cancelled text)
  | none => do
    let failure := outcome.failure? check.job.name
    let report := check.report failure
    Async.act (.reported report)
    match ← (reporter report).mapActs .did with
    | .error breakdown => do
      Async.act (.delivered report (some breakdown))
      return .broken breakdown
    | .ok () => do
      Async.act (.delivered report none)
      return .ofFailure? failure

def unit (reporter : Reporter ε) (check : Check ε) : UnitOfWork ε where
  name := check.job.name
  work := do
    let outcome ← check.job.work
    check.conclude reporter outcome

end Check

end Conductor
