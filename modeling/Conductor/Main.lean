import Conductor.CommandLine.Reply

/-!
The program. It reads the files that its command line names, answers the command line, prints the
answer and exits. It has no way to start other programs, so that jobs can be shown but not run.
-/

namespace Conductor.Main

def namedFiles : CommandLine.Request → List String
  | .version => []
  | .help => []
  | .emit emission => [emission.config, emission.payloadFile, emission.secretsFile].filterMap id
  | .matchTag _ config => config.toList
  | .checks config => config.toList

/-- The number of an error of the system, whose code may have either sign. -/
def errorNumber (code : UInt32) : Nat :=
  Nat.min code.toNat (UInt32.size - code.toNat)

/-- What an error of the system means for the reading of a file. That a name holds a zero is the
only thing wrong with a whole argument; all that is not told apart is an error of input and output.
-/
def readError (error : IO.Error) : ReadError :=
  match error with
  | .noFileOrDirectory _ code words => .system (errorNumber code) words
  | .permissionDenied _ code words => .system (errorNumber code) words
  | .inappropriateType _ code words => .system (errorNumber code) words
  | .invalidArgument _ 22 _ => .zeroInName
  | .invalidArgument _ code words => .system (errorNumber code) words
  | _ => .system 5 (toString error)

def readFile (path : String) : IO (Except ReadError Bytes) := do
  match ← (IO.FS.readBinFile ⟨path⟩).toBaseIO with
  | .ok content => return .ok content.toList
  | .error error => return .error (readError error)

/-- Files that have been read, by their paths. -/
def filesOf (contents : List (String × Except ReadError Bytes)) : Files := fun path =>
  (contents.lookup path).getD (.error ReadError.missing)

def cannotLaunch : Executor.Launcher Unit := fun call state =>
  (.notStarted ("[Errno 38] Function not implemented: " ++ Text.quoted (call.command.headD "")),
    state)

def faultText : Fault → String
  | .broken (.trouble trouble) => trouble.message
  | .broken (.cancelled text) => "cancelled: " ++ text
  | .template refusal => "details_url_template: " ++ refusal.message
  | .pattern _ => "release_tag_pattern cannot be read"
  | .noGroup => "release_tag_pattern has no group"
  | .longNumber digits => "a number has " ++ toString digits ++ " digits"
  | .tooDeep => "values are nested too deeply"
  | .unreadable path error => error.message path
  | .unhashable _ => "the comment's author association is neither a string nor a plain value"
  | .noHome => "the home directory is not known"
  | .unresolved trouble => trouble.message

def faultCode : UInt32 := 1

/-- Prints what a command line was answered with and gives the exit code. -/
def deliver (trace : Trace Act Unit CommandLine.Reply) : IO UInt32 := do
  IO.print (String.join ((trace.acts.filterMap Act.message?).map Message.terminalText))
  let reply := trace.value
  IO.print reply.stdout
  IO.eprint reply.stderr
  match reply.ending with
  | .exit code => return code.toUInt32
  | .usage => do
    IO.eprintln "usage: conductor [--version] (emit KIND | match-tag REF | checks) [OPTIONS]"
    return CommandLine.usageCode.toUInt32
  | .broken fault => do
    IO.eprintln (faultText fault)
    return faultCode

end Conductor.Main

open Conductor in
def main (args : List String) : IO UInt32 := do
  let named := ((CommandLine.request? args).map Main.namedFiles).getD []
  let contents ← named.mapM fun path => do
    let path := Path.normal path
    return (path, ← Main.readFile path)
  let own ← IO.getEnv "HOME"
  let directory := (← IO.currentDir).toString
  let host : CommandLine.Host Unit := {
    platform := .plain
    schedule := .fair
    files := Main.filesOf contents
    home := fun user => if user.isEmpty then own else none
    resolve := fun path => .ok (Path.resolved directory path)
    env := []
    launch := Main.cannotLaunch }
  Main.deliver (CommandLine.run host args ())
