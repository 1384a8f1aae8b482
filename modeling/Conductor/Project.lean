import Conductor.Text.Affix
import Conductor.Text.Blank

/-! The project an event is about, and its secrets. -/

namespace Conductor

/-- A repository by its full name, with the secrets that its jobs may use. -/
structure Project where
  repoName : String
  secrets : List (String × String) := []
  deriving DecidableEq, Repr

namespace Project

/-- The value of a secret; a blank value counts as absent. -/
def secret? (project : Project) (key : String) : Option String :=
  match project.secrets.lookup key with
  | some value => if (Text.strip value).isEmpty then none else some value
  | none => none

/-- The organisation: the repository name up to its first slash. -/
def org (project : Project) : String :=
  (Text.cutAt '/' project.repoName).1

/-- The name within the organisation, or the whole name when it has no slash. -/
def name (project : Project) : String :=
  match Text.cutAt '/' project.repoName with
  | (_, some name) => name
  | (whole, none) => whole

end Project

end Conductor
