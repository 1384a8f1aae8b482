import Conductor.Job.Docker
import Conductor.Work.Unit

/-!
Executors: what runs jobs. A dry run shows each job and lets it pass; docker runs each job in a
container.
-/

namespace Conductor

/-- What runs jobs. All it does besides is to write messages and to call programs. -/
abbrev Executor (ε : Type) := JobSpec → Async Deed ε Outcome

def JobSpec.unit {ε : Type} (executor : Executor ε) (spec : JobSpec) : UnitOfWork ε where
  name := spec.name
  work := do
    Async.act (.started spec)
    let outcome ← (executor spec).mapActs .did
    Async.act (.ended spec outcome)
    return outcome

namespace Executor

variable {ε : Type}

def dryRun : Executor ε := fun spec => do
  Async.say spec.plan
  return .passed

/-- What becomes of the call of a program. -/
abbrev Launcher (ε : Type) := ChildProcess.Call → ε → ChildProcess.Ending × ε

/-- Where docker jobs find the sources, how long they may take, and the environment of the docker
client.
-/
structure DockerSettings where
  sourceRoot : String
  timeout : Option Seconds := none
  baseEnv : Assoc String String := []
  deriving Repr

def DockerSettings.call (settings : DockerSettings) (spec : JobSpec) : ChildProcess.Call where
  command := Docker.command spec settings.sourceRoot
  directory := settings.sourceRoot
  env := some (Docker.environment settings.baseEnv spec)
  timeout := settings.timeout

/-- The failure of a job whose call failed: the last lines that it wrote are the reason. -/
def callFailure (spec : JobSpec) (failure : ChildProcess.Failure) : UnitFailure where
  job := spec.name
  reason := failure.tail ChildProcess.Failure.tailLength
  exitCode := some failure.exitCode

/-- Runs jobs in containers. A job gives up control once before the call, so that jobs that run
together announce themselves first.
-/
def docker (settings : DockerSettings) (launch : Launcher ε) : Executor ε := fun spec => do
  Async.say [.dim (spec.name ++ ": docker run " ++ spec.image)]
  Async.pause
  let call := settings.call spec
  Async.act (.called call)
  let ending ← Async.ofRun (Run.change (launch call))
  match ChildProcess.outcome call ending with
  | .error failure => return .failed (callFailure spec failure)
  | .ok _ => do
    Async.say [.success spec.name]
    return .passed

end Executor

end Conductor
