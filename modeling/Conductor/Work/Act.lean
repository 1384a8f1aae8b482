import Conductor.ChildProcess
import Conductor.Job.Spec
import Conductor.Report
import Conductor.Suspension
import Conductor.Work.Outcome

/-! The acts of runs. -/

namespace Conductor

/-- What is done within a job or on the way of a report: a message written, a program called, or
a mark left by a unit of work.
-/
inductive Deed where
  | wrote (message : Message)
  | called (call : ChildProcess.Call)
  | marked (text : String)
  deriving DecidableEq, Repr

/-- What is done in a run: a deed, the building of the check under a key, the start and the end of
a job, or a report handed over and the end of its delivery, with what broke it off.
-/
inductive Act where
  | did (deed : Deed)
  | built (key : String)
  | started (spec : JobSpec)
  | ended (spec : JobSpec) (outcome : Outcome)
  | reported (report : StatusReport)
  | delivered (report : StatusReport) (breakdown : Option Breakdown)
  deriving DecidableEq, Repr

namespace Act

def message? : Act → Option Message
  | .did (.wrote message) => some message
  | _ => none

def call? : Act → Option ChildProcess.Call
  | .did (.called call) => some call
  | _ => none

def mark? : Act → Option String
  | .did (.marked text) => some text
  | _ => none

def start? : Act → Option JobSpec
  | .started spec => some spec
  | _ => none

/-- The job that an act ended, and how it ended. -/
def end? : Act → Option (JobSpec × Outcome)
  | .ended spec outcome => some (spec, outcome)
  | _ => none

/-- The job that an act started or, with an outcome, ended. -/
def job? : Act → Option (JobSpec × Option Outcome)
  | .started spec => some (spec, none)
  | .ended spec outcome => some (spec, some outcome)
  | _ => none

def report? : Act → Option StatusReport
  | .reported report => some report
  | _ => none

/-- The report whose delivery an act ended, and what broke the delivery off, if anything did. -/
def delivery? : Act → Option (StatusReport × Option Breakdown)
  | .delivered report breakdown => some (report, breakdown)
  | _ => none

def build? : Act → Option String
  | .built key => some key
  | _ => none

/-- The records on the console that acts have written. -/
def console (acts : List Act) : Console :=
  (acts.filterMap message?).map Message.record

/-- A view that shows no deeds shows none of them in a row. -/
theorem filterMap_did {α : Type} {view : Act → Option α} (blind : ∀ deed, view (.did deed) = none)
    (deeds : List Deed)
    : (deeds.map Act.did).filterMap view = [] := by
  rw [List.filterMap_map]
  exact List.filterMap_eq_nil_iff.mpr fun deed _ => blind deed

/-- A view that shows no deeds shows no messages. -/
theorem filterMap_wrote {α : Type} {view : Act → Option α}
    (blind : ∀ deed, view (.did deed) = none) (messages : List Message)
    : (messages.map fun message => Act.did (.wrote message)).filterMap view = [] := by
  rw [List.filterMap_map]
  exact List.filterMap_eq_nil_iff.mpr fun message _ => blind (.wrote message)

end Act

namespace Run

variable {ε : Type}

def write (messages : List Message) : Run Act ε Unit :=
  acts (messages.map fun message => .did (.wrote message))

/-- Writes messages in a row, within a job or a report. -/
def say (messages : List Message) : Run Deed ε Unit :=
  acts (messages.map .wrote)

@[simp]
theorem mapActs_say (messages : List Message)
    : (say messages : Run Deed ε Unit).mapActs Act.did = write messages :=
  congrArg acts List.map_map

end Run

abbrev Async.say {ε : Type} (messages : List Message) : Async Deed ε Unit :=
  ofRun (Run.say messages)

end Conductor
