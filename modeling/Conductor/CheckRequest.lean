import Conductor.Suite

/-! Requests to run one check again, by its name or by a payload that names it. -/

namespace Conductor.CheckRequest

variable {ε : Type}

/-- The place of the check's name in a payload. -/
def namePath : List String := ["body", "check_run", "name"]

/-- The text at a path of a payload. -/
def textAt? (table : Table Text) (path : List String) : Option Text :=
  ((Value.table table).atPath? (path.map Text.ofString)).bind Value.str?

/-- The name of a check in a payload, without the blanks at its ends; none when there is no name
or nothing of it is left.
-/
def nameOf (platform : Platform) (payload : Bytes) : Except Fault (Option Text) :=
  match Json.readTableBytes platform.jsonDepth payload with
  | .error fault => .error (.ofJson fault)
  | .ok none => .ok none
  | .ok (some table) =>
    .ok (((textAt? table namePath).map Text.stripUnits).filter (!·.isEmpty))

def unnamed : Failure :=
  .invalid "check_run payload does not name a check" [".".intercalate namePath] none

def factory? (factories : List (Factory ε)) (name : Text) : Option (Factory ε) :=
  factories.find? fun factory => Text.ofString factory.key == name

/-- Runs the check of a name as a suite of its own. -/
def run (services : Services ε) (factories : List (Factory ε)) (name : Text) (event : Event)
    (project : Project) : Attempt ε (Except Failure Unit) :=
  match factory? factories name with
  | none => return .error (.unknownCheck name (factories.map Factory.key))
  | some factory => do
    Attempt.write [.info ("Check requested: " ++ factory.key)]
    let result ← Suite.runChecks services [factory] event project
    return result.mapError Failure.group

/-- Runs the check that an event names in its payload. -/
def runEvent (services : Services ε) (factories : List (Factory ε)) (event : Event)
    (project : Project) : Attempt ε (Except Failure Unit) := do
  match ← (nameOf services.platform event.payload : Except Fault _) with
  | none => return .error unnamed
  | some name => run services factories name event project

end Conductor.CheckRequest
