import Conductor.Event
import Conductor.Services

/-!
The check suite. Each check reports its own conclusion, so that every job of the suite runs to its
end. A suite that passed on the mainline is followed by the publishing of images, whose failure is
only noted.
-/

namespace Conductor

variable {ε : Type}

/-- What builds the unit of work of a check, or breaks down. Building does nothing else. -/
structure Factory (ε : Type) where
  key : String
  build : ε → Except Breakdown (UnitOfWork ε) × ε

namespace Factory

def ofUnit (key : String) (unit : UnitOfWork ε) : Factory ε :=
  ⟨key, fun state => (.ok unit, state)⟩

def run (factory : Factory ε) : Attempt ε (UnitOfWork ε) := do
  Attempt.ofRun (Run.act (.built factory.key))
  match ← Attempt.ofRun (Run.change factory.build) with
  | .ok unit => return unit
  | .error breakdown => throw (.broken breakdown)

end Factory

namespace Suite

/-- The factories of the suite's jobs, each under the name of its job. -/
def factories (services : Services ε) : List (Factory ε) :=
  (Catalog.suite services.config).map fun spec => .ofUnit spec.name (services.unit spec)

def isMainline (config : Config) (event : Event) : Bool :=
  event.branch? == some config.sources.mainline

/-- Runs checks together and has each reported. Nothing starts before all of them are built. -/
def runChecks (services : Services ε) (factories : List (Factory ε)) (event : Event)
    (project : Project) : Attempt ε (Except Aggregate Unit) := do
  match services.detailsUrl event.buildId with
  | .error refusal => throw (.template refusal)
  | .ok detailsUrl => do
    let jobs ← factories.mapM Factory.run
    let checks := jobs.map fun job =>
      ({ job, repoName := project.repoName, buildId := event.buildId, detailsUrl } : Check ε)
    Group.runAll services.schedule (checks.map (Check.unit services.reporter))

/-- Publishes the images of the mainline. -/
def publishEdge (services : Services ε) (project : Project) : Attempt ε Unit := do
  Attempt.write [.dim "mainline build: publishing edge images"]
  let spec := Catalog.publishImages services.config project ""
  match ← settle (services.unit spec) with
  | none => return ()
  | some failure =>
    Attempt.write [.warning ("edge image publish failed: " ++ failure.message)]

def refText (ref : String) : String :=
  if ref.isEmpty then "no ref" else ref

def run (services : Services ε) (event : Event) (project : Project)
    : Attempt ε (Except Aggregate Unit) := do
  let heading := "check suite for " ++ project.repoName ++ " (" ++ refText event.ref ++ ")"
  Attempt.write [.header heading]
  match ← runChecks services (factories services) event project with
  | .error failure => return .error failure
  | .ok () => do
    if isMainline services.config event then publishEdge services project
    return .ok ()

def runTests (services : Services ε) : Attempt ε (Except Aggregate Unit) :=
  Group.runAll services.schedule ((Catalog.suite services.config).map services.unit)

end Suite

end Conductor
