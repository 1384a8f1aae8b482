import Conductor.CheckRequest
import Conductor.Release
import Conductor.Router
import Conductor.Suite

/-! The handlers of all kinds of events. -/

namespace Conductor.Handlers

variable {ε : Type}

/-- A handler whose failures are those of a group. -/
def ofGroup (result : Attempt ε (Except Aggregate Unit)) : Attempt ε (Except Failure Unit) := do
  let result ← result
  return result.mapError Failure.group

def checkSuite (services : Services ε) : Handler ε := fun event project =>
  ofGroup (Suite.run services event project)

def nothingToDo (event : Event) : Message :=
  .dim ("push to " ++ (if event.ref.isEmpty then "?" else event.ref) ++ ": nothing to do")

/-- Runs the suite for the mainline and for release tags, and releases the version of such a tag
once the suite has passed.
-/
def push (services : Services ε) : Handler ε := fun event project => do
  let (version, messages) ← (services.tags.version? event.ref : Except Fault _)
  Attempt.write messages
  if version.isNone && !Suite.isMainline services.config event then
    if !event.isTag then Attempt.write [nothingToDo event]
    return .ok ()
  match ← checkSuite services event project with
  | .error failure => return .error failure
  | .ok () =>
    match version with
    | none => return .ok ()
    | some version => Release.run services project version

def checkRun (services : Services ε) : Handler ε := fun event project =>
  CheckRequest.runEvent services (Suite.factories services) event project

/-- Runs the tests of the suite without reports. -/
def exec (services : Services ε) : Handler ε := fun _ _ =>
  ofGroup (Suite.runTests services)

/-- Runs the test of the whole alone. -/
def e2e (services : Services ε) : Handler ε := fun _ _ => do
  match ← settle (services.unit (Catalog.e2e services.config)) with
  | some failure => return .error (.unit failure)
  | none => return .ok ()

-----------------------------------------------------------------------------------------
-- Comments
-----------------------------------------------------------------------------------------

/-- How authors are associated with the project who may ask for builds. -/
def trusted : List String := ["OWNER", "MEMBER", "COLLABORATOR"]

/-- What a comment on an issue comes to: it does not ask for a build, its author may not ask for
one, or it starts the suite.
-/
inductive CommentVerdict where
  | unrelated
  | untrusted (association : Value Text)
  | accepted

/-- The value at a place in the comment of a payload, null when there is none. -/
def commentField (payload : Table Text) (name : String) : Value Text :=
  ((Value.table payload).atPath? (["body", "comment", name].map Text.ofString)).getD .null

/-- Whether an association is one of those trusted. Lists and tables cannot be looked up. -/
def isTrusted : Value Text → Except Fault Bool
  | .list _ => .error (.unhashable false)
  | .table _ => .error (.unhashable true)
  | .str association => .ok (trusted.any fun name => Text.ofString name == association)
  | _ => .ok false

/-- What the comment of a payload comes to. Its text has to be the trigger, and nothing else but
blanks around it.
-/
def judge (config : Config) (payload : Table Text) : Except Fault CommentVerdict :=
  match commentField payload "body" with
  | .str body =>
    if Text.stripUnits body == Text.ofString config.commentTrigger then do
      let association := commentField payload "author_association"
      if ← isTrusted association then return .accepted else return .untrusted association
    else .ok .unrelated
  | _ => .ok .unrelated

/-- The verdict on the comment of an event; a payload that is no table holds no comment. -/
def verdict (platform : Platform) (config : Config) (event : Event)
    : Except Fault CommentVerdict :=
  match Json.readTableBytes platform.jsonDepth event.payload with
  | .error fault => .error (.ofJson fault)
  | .ok payload => judge config (payload.getD [])

/-- Runs the suite when a trusted author comments with the trigger. -/
def issueComment (services : Services ε) : Handler ε := fun event project => do
  match ← (verdict services.platform services.config event : Except Fault _) with
  | .unrelated => do
    Attempt.write [.dim "comment does not request a build; ignoring"]
    return .ok ()
  | .untrusted association => do
    Attempt.write [.info ("comment author association " ++ association.shownUnits
      ++ " may not trigger builds")]
    return .ok ()
  | .accepted => checkSuite services event project

-----------------------------------------------------------------------------------------
-- The table
-----------------------------------------------------------------------------------------

def handler (services : Services ε) : EventKind → Handler ε
  | .push => push services
  | .exec => exec services
  | .e2e => e2e services
  | .checkSuiteRequested => checkSuite services
  | .checkSuiteRerequested => checkSuite services
  | .checkRunRerequested => checkRun services
  | .issueCommentCreated => issueComment services
  | .issueCommentEdited => issueComment services

def router (services : Services ε) : Router ε :=
  ⟨EventKind.all.map fun kind => (kind, handler services kind)⟩

/-- The handler of each kind is in the table, by cases on the kind. -/
theorem router_handler? (services : Services ε) (kind : EventKind)
    : (router services).handler? kind = some (handler services kind) := by
  cases kind <;> rfl

/-- An event goes to the handler of the kind that it names, or is passed over if it names none. -/
theorem dispatch_eq (services : Services ε) (event : Event) (project : Project)
    : (router services).dispatch event project
      = match EventKind.ofText? event.kind with
        | some kind => handler services kind event project
        | none => do
          Attempt.write [Router.ignored event]
          return .ok () := by
  unfold Router.dispatch
  cases EventKind.ofText? event.kind with
  | none => rfl
  | some kind => rw [Option.bind_some, router_handler?]

theorem router_dispatch (services : Services ε) {event : Event} {kind : EventKind}
    (named : event.kind = kind.text) (project : Project)
    : (router services).dispatch event project = handler services kind event project := by
  rw [dispatch_eq, named, EventKind.ofText?_text]

end Conductor.Handlers
