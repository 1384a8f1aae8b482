import Conductor.Number.Shortest
import Conductor.Text.Blank
import Conductor.Text.Lines

/-! Processes: how they are called, how a call ends, and what is kept of one that failed. -/

namespace Conductor

/-- A number of seconds, whole or not. -/
inductive Seconds where
  | whole (n : Int)
  | fraction (x : Binary64)
  deriving DecidableEq, Repr

def Seconds.text : Seconds → String
  | .whole n => toString n
  | .fraction x => x.text

namespace ChildProcess

/-- A call of a program. Without an environment it has that of the caller. -/
structure Call where
  command : List String
  directory : String
  env : Option (List (String × String))
  timeout : Option Seconds
  deriving DecidableEq, Repr

/-- How a call ends: with an exit code and output, without having started, or stopped for its
time, in which case its output so far is known only if it was read as text.
-/
inductive Ending where
  | exited (code : Int) (stdout stderr : String)
  | notStarted (reason : String)
  | timedOut (stdout : Option String)
  deriving DecidableEq, Repr

/-- What is kept of a call that failed. -/
structure Failure where
  command : List String
  exitCode : Int
  stdout : String
  stderr : String
  deriving DecidableEq, Repr

/-- The exit code written down for a call that did not exit. -/
def noExitCode : Int := -1

/-- The text of an absent time limit. -/
def noLimitText : String := "None"

/-- What a call amounts to: the output of a successful process, or its failure. -/
def outcome (call : Call) : Ending → Except Failure String
  | .exited code stdout stderr =>
    if code = 0 then .ok stdout else .error ⟨call.command, code, stdout, stderr⟩
  | .notStarted reason => .error ⟨call.command, noExitCode, "", reason⟩
  | .timedOut stdout =>
    let limit := (call.timeout.map Seconds.text).getD noLimitText
    .error ⟨call.command, noExitCode, stdout.getD "", "Command timed out after " ++ limit ++ "s"⟩

namespace Failure

/-- One sentence on a failure, with the first three words of the command. -/
def message (failure : Failure) : String :=
  let words := " ".intercalate (failure.command.take 3)
  let more := if 3 < failure.command.length then " ..." else ""
  words ++ more ++ " failed (exit " ++ toString failure.exitCode ++ ")"

/-- The number of lines that are kept as the reason of a failure. -/
def tailLength : Int := 20

/-- The last `count` items of a list; all of them for zero, and all but the first `-count` for a
negative number.
-/
def lastItems {α : Type} (items : List α) (count : Int) : List α :=
  if 0 < count then items.drop (items.length - count.toNat) else items.drop count.natAbs

/-- The text that tells why a process failed: its error output, or its output if that is blank. -/
def reasonText (failure : Failure) : String :=
  let stderr := Text.strip failure.stderr
  if stderr.isEmpty then Text.strip failure.stdout else stderr

/-- The last lines of the reason. -/
def tail (failure : Failure) (count : Int) : String :=
  "\n".intercalate (lastItems (Text.lines failure.reasonText) count)

end Failure

end ChildProcess

end Conductor
