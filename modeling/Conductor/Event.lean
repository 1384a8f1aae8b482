import Conductor.Text.Affix
import Conductor.Text.Utf8

/-! Events as the host delivers them, their kinds, and what their refs name. -/

namespace Conductor

/-- The kinds of event that have a handler. -/
inductive EventKind where
  | push
  | exec
  | e2e
  | checkSuiteRequested
  | checkSuiteRerequested
  | checkRunRerequested
  | issueCommentCreated
  | issueCommentEdited
  deriving DecidableEq, Repr

namespace EventKind

/-- All kinds, in the order in which they are listed to users. -/
def all : List EventKind :=
  [push, exec, e2e, checkSuiteRequested, checkSuiteRerequested, checkRunRerequested,
    issueCommentCreated, issueCommentEdited]

/-- The name by which the host calls a kind. -/
def text : EventKind → String
  | push => "push"
  | exec => "exec"
  | e2e => "e2e"
  | checkSuiteRequested => "check_suite:requested"
  | checkSuiteRerequested => "check_suite:rerequested"
  | checkRunRerequested => "check_run:rerequested"
  | issueCommentCreated => "issue_comment:created"
  | issueCommentEdited => "issue_comment:edited"

def ofText? (name : String) : Option EventKind :=
  all.find? (·.text == name)

/-- The kind of a name has that name. -/
theorem text_of_ofText? {name : String} {kind : EventKind}
    (known : ofText? name = some kind)
    : kind.text = name := by
  have same := List.find?_some known
  exact eq_of_beq same

/-- A kind is found by its name, by cases on the kind. -/
theorem ofText?_text (kind : EventKind) : ofText? kind.text = some kind := by
  cases kind <;> decide

end EventKind

namespace Ref

/-- What the refs of tags begin with. -/
def tagStart : String := "refs/tags/"

/-- What the refs of branches begin with. -/
def branchStart : String := "refs/heads/"

/-- What every full ref begins with. -/
def fullStart : String := "refs/"

def isTag (ref : String) : Bool :=
  Text.beginsWith tagStart ref

/-- The branch of a ref: what follows the start of branch refs, or all of a bare name. -/
def branch? (ref : String) : Option String :=
  match Text.restAfter? branchStart ref with
  | some branch => some branch
  | none => if ref.isEmpty || Text.beginsWith fullStart ref then none else some ref

end Ref

/-- One event. The kind is kept as delivered, known or not. -/
structure Event where
  kind : String
  ref : String := ""
  buildId : String := ""
  payload : Bytes := []
  deriving DecidableEq, Repr

def Event.isTag (event : Event) : Bool :=
  Ref.isTag event.ref

def Event.branch? (event : Event) : Option String :=
  Ref.branch? event.ref

end Conductor
