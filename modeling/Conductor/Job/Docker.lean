import Conductor.Job.Spec
import Conductor.ChildProcess

/-! Jobs as calls of docker: each runs in a container of its own with the sources mounted. -/

namespace Conductor.Docker

/-- Where the sources are mounted in jobs that name no working directory. -/
def defaultMount : String := "/src"

def mount (spec : JobSpec) : String :=
  spec.workDir?.getD defaultMount

/-- The command line of a job. It holds the names of environment variables and no values: those
travel in the environment of the docker client.
-/
def command (spec : JobSpec) (sourceRoot : String) : List String :=
  ["docker", "run", "--rm"]
    ++ (if spec.privileged then ["--privileged"] else [])
    ++ spec.env.flatMap (fun (key, _) => ["-e", key])
    ++ ["-v", sourceRoot ++ ":" ++ mount spec, "-w", mount spec]
    ++ [spec.image, spec.shell, "-c", spec.script]

/-- The environment of the docker client: a base environment overridden by that of the job. -/
def environment (base : Assoc String String) (spec : JobSpec) : Assoc String String :=
  Assoc.insertAll base spec.envTable

end Conductor.Docker
