import Conductor.Work.Act

/-!
Units of work: what has a name and, once started, gives up control any number of times and then ends
with an outcome.
-/

namespace Conductor

/-- A unit of work. -/
structure UnitOfWork (ε : Type) where
  name : String
  work : Async Act ε Outcome

namespace UnitOfWork

variable {ε : Type}

/-- Runs a unit with nothing beside it. -/
def run (unit : UnitOfWork ε) : Run Act ε Outcome :=
  unit.work.alone

def idle (name : String) : UnitOfWork ε :=
  ⟨name, pure .passed⟩

/-- The name of idle units that are given none. -/
def idleName : String := "noop"

end UnitOfWork

/-- What a unit of work does when nothing is known of it but how it gives up control and ends. -/
structure Behaviour where
  pauses : Nat
  outcome : Outcome
  deriving DecidableEq, Repr

/-- A unit with a behaviour, which marks its start and its end. -/
def UnitOfWork.ofBehaviour {ε : Type} (name : String) (behaviour : Behaviour) : UnitOfWork ε where
  name := name
  work := do
    Async.act (.did (.marked ("start:" ++ name)))
    Async.pauses behaviour.pauses
    Async.act (.did (.marked ("end:" ++ name)))
    return behaviour.outcome

end Conductor
