import Conductor.Assoc
import Conductor.Console

/-! Descriptions of jobs: what runs, where, and with which environment. -/

namespace Conductor

/-- A job: shell tasks that run in order in a container of an image. -/
structure JobSpec where
  name : String
  image : String
  env : List (String × String) := []
  tasks : List String := []
  workDir : Option String := none
  privileged : Bool := false
  shell : String := "/bin/sh"
  deriving DecidableEq, Repr

namespace JobSpec

/-- The environment of a job with one value for each key. -/
def envTable (spec : JobSpec) : Assoc String String :=
  Assoc.ofBindings spec.env

/-- The tasks as one script that stops at the first task that fails. -/
def script (spec : JobSpec) : String :=
  "\n".intercalate ("set -e" :: spec.tasks)

/-- The working directory, unless it is absent or empty. -/
def workDir? (spec : JobSpec) : Option String :=
  spec.workDir.filter (!·.isEmpty)

/-- The messages that show a job instead of running it. Values of the environment are left out. -/
def plan (spec : JobSpec) : List Message :=
  let flags := if spec.privileged then " (privileged)" else ""
  .print .default (spec.name ++ ": " ++ spec.image ++ flags)
    :: (if spec.env.isEmpty then []
      else [.dim ("  env: " ++ ", ".intercalate (spec.env.map Prod.fst))])
    ++ (spec.workDir?.map fun dir => Message.dim ("  workdir: " ++ dir)).toList
    ++ spec.tasks.map fun task => .dim ("  $ " ++ task)

end JobSpec

end Conductor
