import Conductor.Services
import Conductor.Text.Casing

/-!
Releases of official tags: images, the upload, and a notification, strictly in this order. No stage
starts unless all required secrets are there.
-/

namespace Conductor.Release

variable {ε : Type}

/-- The secrets that a release needs, by their configured names. -/
def requiredSecrets (config : Config) : List String :=
  [config.secrets.registryUsername, config.secrets.registryPassword, config.secrets.releaseToken]

/-- The required secrets that a project lacks. -/
def missingSecrets (config : Config) (project : Project) : List String :=
  (requiredSecrets config).filter fun key => (project.secret? key).isNone

/-- The failure for a project without some required secrets, if there are such. -/
def validate (config : Config) (project : Project) : Except Failure Unit :=
  match missingSecrets config project with
  | [] => .ok ()
  | missing =>
    let names := ", ".intercalate (missing.map ("secrets." ++ ·))
    .error (.invalid ("Project must have " ++ names ++ " set") missing
      (some "No release stage was started."))

/-- The stages of a release, and what is written about them. -/
def stages (config : Config) (project : Project) (version : String)
    : List Catalog.Stage × List Message :=
  let title := Text.capitalize config.sources.name ++ " Release"
  let message :=
    version ++ " release now on GitHub! <" ++ Catalog.releaseUrl project version ++ ">"
  let (notify, messages) := Catalog.notify config project title message
  ([.job (Catalog.publishImages config project version),
    .job (Catalog.release config project version), notify], messages)

/-- Releases a version. The first stage that fails ends the release. -/
def run (services : Services ε) (project : Project) (version : String)
    : Attempt ε (Except Failure Unit) := do
  match validate services.config project with
  | .error failure => return .error failure
  | .ok () => do
    Attempt.write [.header ("release " ++ version ++ " of " ++ project.repoName)]
    let (stages, messages) := stages services.config project version
    Attempt.write messages
    match ← Group.runEach (stages.map services.stage) with
    | .error failure => return .error (.unit failure)
    | .ok () => do
      Attempt.write [.success ("released " ++ version)]
      return .ok ()

end Conductor.Release
