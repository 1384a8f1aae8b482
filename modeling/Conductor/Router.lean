import Conductor.Event
import Conductor.Project
import Conductor.Value.Display
import Conductor.Work.Group

/-!
The table from kinds of events to their handlers. A kind has one handler, the first that was
registered; events without a handler are passed over.
-/

namespace Conductor

/-- What answers an event. -/
abbrev Handler (ε : Type) := Event → Project → Attempt ε (Except Failure Unit)

/-- A table of handlers, in the order of registration. -/
structure Router (ε : Type) where
  handlers : List (EventKind × Handler ε) := []

/-- What a handler is registered for: a kind of event, or a value that is none. -/
inductive RouteKey where
  | kind (kind : EventKind)
  | other (value : Value Text)

/-- A mistake in the table: a key that is no kind, a kind with a handler already, or kinds without
one.
-/
inductive RouteError where
  | notKind (value : Value Text)
  | taken (kind : EventKind)
  | unhandled (kinds : List EventKind)

def RouteError.message : RouteError → String
  | .notKind value => "not an event kind: " ++ value.shownUnits
  | .taken kind => "handler already registered for " ++ kind.text
  | .unhandled kinds => "no handler registered for: " ++ ", ".intercalate (kinds.map EventKind.text)

namespace Router

variable {ε : Type}

def kinds (router : Router ε) : List EventKind :=
  router.handlers.map Prod.fst

def handler? (router : Router ε) (kind : EventKind) : Option (Handler ε) :=
  router.handlers.lookup kind

def register (router : Router ε) (key : RouteKey) (handler : Handler ε)
    : Except RouteError (Router ε) :=
  match key with
  | .other value => .error (.notKind value)
  | .kind kind =>
    match router.handler? kind with
    | some _ => .error (.taken kind)
    | none => .ok ⟨router.handlers ++ [(kind, handler)]⟩

def validate (router : Router ε) (required : List EventKind) : Except RouteError Unit :=
  match required.filter fun kind => (router.handler? kind).isNone with
  | [] => .ok ()
  | missing => .error (.unhandled missing)

def ignored (event : Event) : Message :=
  .dim ("ignoring event " ++ Text.quoted event.kind ++ ": no handler")

def dispatch (router : Router ε) : Handler ε := fun event project =>
  match (EventKind.ofText? event.kind).bind router.handler? with
  | some handler => handler event project
  | none => do
    Attempt.write [ignored event]
    return .ok ()

end Router

end Conductor
