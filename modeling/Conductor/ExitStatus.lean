/-! Exit statuses of the program. -/

namespace Conductor

/-- What a process exit says about a run: success, a mistake of the user, an unusable
environment, or a failed build.
-/
inductive ExitStatus where
  | ok
  | userError
  | environmentError
  | buildError
  deriving DecidableEq, Repr

namespace ExitStatus

def code : ExitStatus → Nat
  | ok => 0
  | userError => 1
  | environmentError => 2
  | buildError => 3

/-- All statuses, by their codes. -/
def all : List ExitStatus := [ok, userError, environmentError, buildError]

def name : ExitStatus → String
  | ok => "OK"
  | userError => "USER_ERROR"
  | environmentError => "ENV_ERROR"
  | buildError => "BUILD_ERROR"

def text : ExitStatus → String
  | ok => "ok"
  | userError => "user error"
  | environmentError => "env error"
  | buildError => "build error"

def isSuccess (status : ExitStatus) : Bool :=
  status == ok

def ofCode? (code : Int) : Option ExitStatus :=
  all.find? fun status => (status.code : Int) == code

end ExitStatus

end Conductor
