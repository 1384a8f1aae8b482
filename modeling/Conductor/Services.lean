import Conductor.Check
import Conductor.Job.Catalog
import Conductor.ReleaseTag
import Conductor.Work.Group

/-!
What requests are answered with: the configuration, what runs jobs, what takes reports, the order in
which what waits goes on, and the platform.
-/

namespace Conductor

/-- The parts that answer requests, chosen once for all requests. -/
structure Services (ε : Type) where
  platform : Platform
  schedule : Schedule
  config : Config
  executor : Executor ε
  reporter : Reporter ε
  tags : TagMatcher

namespace Services

variable {ε : Type}

/-- The services of a configuration. The pattern of release tags has to be readable. -/
def ofConfig (platform : Platform) (schedule : Schedule) (config : Config)
    (executor : Executor ε) (reporter : Reporter ε) : Except Fault (Services ε) := do
  let tags ← TagMatcher.ofSource platform.patterns config.tagPattern
  return { platform, schedule, config, executor, reporter, tags }

/-- The address at which a build is shown. -/
def detailsUrl (services : Services ε) (buildId : String) : Except Template.Refusal String :=
  services.config.detailsUrl services.platform.attributes buildId

def unit (services : Services ε) (spec : JobSpec) : UnitOfWork ε :=
  spec.unit services.executor

def stage (services : Services ε) : Catalog.Stage → UnitOfWork ε
  | .job spec => services.unit spec
  | .idle name => .idle name

end Services

end Conductor
