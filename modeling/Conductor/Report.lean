import Conductor.Console

/-! Reports of how a check ended, and the messages that show them. -/

namespace Conductor

/-- How a check ended. -/
inductive CheckStatus where
  | success
  | failure
  deriving DecidableEq, Repr

def CheckStatus.text : CheckStatus → String
  | success => "success"
  | failure => "failure"

/-- What the host is told of a check. -/
structure StatusReport where
  repoName : String
  buildId : String
  check : String
  status : CheckStatus
  detailsUrl : String
  summary : Option String := none
  deriving DecidableEq, Repr

namespace StatusReport

/-- The summary, unless it is absent or empty. -/
def summary? (report : StatusReport) : Option String :=
  report.summary.filter (!·.isEmpty)

/-- The messages that show a report. The summary is shown for failures. -/
def messages (report : StatusReport) : List Message :=
  let line := "check " ++ report.check ++ " on " ++ report.repoName ++ ": " ++ report.status.text
  let details := Message.dim ("details: " ++ report.detailsUrl)
  match report.status with
  | .success => [.success line, details]
  | .failure => .error line :: (report.summary?.map Message.dim).toList ++ [details]

end StatusReport

end Conductor
