import Conductor.CommandLine.Request
import Conductor.Config.Load
import Conductor.Handlers
import Conductor.Version

/-!
Answers to command lines. All that a command reads is read and found usable before an event is
delivered.
-/

namespace Conductor.CommandLine

/-- How a command ends: with an exit code, refused as not understood, or broken off. -/
inductive Ending where
  | exit (code : Nat)
  | usage
  | broken (fault : Fault)
  deriving DecidableEq, Repr

/-- How a command ends, and what it prints besides the messages on the console. -/
structure Reply where
  ending : Ending
  stdout : String := ""
  stderr : String := ""
  deriving DecidableEq, Repr

namespace Reply

def ofStatus (status : ExitStatus) : Reply :=
  { ending := .exit status.code }

def ofConfigError (error : Config.Error) : Reply where
  ending := .exit ExitStatus.environmentError.code
  stderr := "error: " ++ error.message ++ "\n"

def ofFault (fault : Fault) : Reply :=
  { ending := .broken fault }

def ofLines (lines : List String) : Reply where
  ending := .exit ExitStatus.ok.code
  stdout := String.join (lines.map (· ++ "\n"))

end Reply

def usageCode : Nat := 2

/-- The surroundings of a command: the platform, files, the home directories of users, of which
one's own goes by no name, paths from the root of all paths with the links on the way followed, the
environment, how programs are called, and the order in which what waits goes on.
-/
structure Host (ε : Type) where
  platform : Platform
  schedule : Schedule
  files : Files
  home : String → Option String
  resolve : String → Except Trouble String
  env : Assoc String String
  launch : Executor.Launcher ε

/-- A command that may end early. -/
abbrev Command (ε α : Type) := ExceptT Reply (Run Act ε) α

namespace Command

variable {ε α : Type}

/-- Goes on with a value, or ends with a fault. -/
def orBroken (value : Except Fault α) : Command ε α :=
  match value with
  | .ok value => return value
  | .error fault => throw (.ofFault fault)

/-- Goes on with what a file holds, or ends. -/
def orRefused (value : Except Fault (Except Config.Error α)) : Command ε α := do
  match ← orBroken value with
  | .ok value => return value
  | .error error => throw (.ofConfigError error)

def write (messages : List Message) : Command ε Unit :=
  ExceptT.lift (Run.write messages)

end Command

variable {ε : Type}

-----------------------------------------------------------------------------------------
-- Looking things up
-----------------------------------------------------------------------------------------

def matchTag (host : Host ε) (ref : String) (config : Option String) : Command ε Reply := do
  let config ← Command.orRefused (Config.load host.platform host.files config)
  let matcher ← Command.orBroken (TagMatcher.ofSource host.platform.patterns config.tagPattern)
  let (version, messages) ← Command.orBroken (matcher.version? ref)
  Command.write messages
  match version with
  | none => return .ofStatus .userError
  | some version => return .ofLines [version]

def checks (host : Host ε) (config : Option String) : Command ε Reply := do
  let config ← Command.orRefused (Config.load host.platform host.files config)
  return .ofLines ((Catalog.suite config).map fun spec => spec.name ++ "\t" ++ spec.image)

-----------------------------------------------------------------------------------------
-- Delivering an event
-----------------------------------------------------------------------------------------

def checkKind (kind : String) : Command ε Unit :=
  match EventKind.ofText? kind with
  | some _ => return ()
  | none => do
    Command.write [.error ("unknown event kind: " ++ kind),
      .dim ("known: " ++ ", ".intercalate (EventKind.all.map EventKind.text))]
    throw (.ofStatus .userError)

/-- The payload in a file, or an empty one. -/
def readPayload (files : Files) (path : Option String) : Command ε Bytes :=
  match path with
  | none => return []
  | some path => do
    let path := Path.normal path
    match files path with
    | .ok bytes => return bytes
    | .error .zeroInName => throw (.ofFault (.unreadable path .zeroInName))
    | .error error => do
      Command.write [.error ("cannot read payload: " ++ error.message path)]
      throw (.ofStatus .userError)

/-- The strings in the table of secrets of a file, or none without a file. -/
def readSecrets (platform : Platform) (files : Files) (path : Option String)
    : Command ε (List (String × String)) :=
  match path with
  | none => return []
  | some path => do
    let table ← Command.orRefused (Config.parseFile platform files path)
    return ((Table.inner? table "secrets").map Table.strings).getD []

/-- What runs the jobs of a delivery. -/
def executor (host : Host ε) (emission : Emission) : Command ε (Executor ε) :=
  if emission.execute then
    match Path.expanded? host.home (Path.normal emission.source) with
    | none => throw (.ofFault .noHome)
    | some source => do
      let sourceRoot ← Command.orBroken ((host.resolve source).mapError Fault.unresolved)
      let settings : Executor.DockerSettings := {
        sourceRoot
        timeout := emission.timeout.map .fraction
        baseEnv := host.env }
      return .docker settings host.launch
  else return .dryRun

/-- The repository that an event is about: the given one, or that of the configuration. -/
def repoName (config : Config) (repo : Option String) : String :=
  match repo.filter (!·.isEmpty) with
  | some repo => repo
  | none => config.sources.org ++ "/" ++ config.sources.name

def conclude (answer : Except Fault (Except Failure Unit)) : Command ε Reply := do
  match ← Command.orBroken answer with
  | .ok () => return .ofStatus .ok
  | .error failure => do
    Command.write failure.report
    return .ofStatus failure.exitStatus

def emit (host : Host ε) (emission : Emission) : Command ε Reply := do
  let config ← Command.orRefused (Config.load host.platform host.files emission.config)
  checkKind emission.kind
  let payload ← readPayload host.files emission.payloadFile
  let executor ← executor host emission
  let services ← Command.orBroken
    (Services.ofConfig host.platform host.schedule config executor .console)
  let secrets ← readSecrets host.platform host.files emission.secretsFile
  let project : Project := { repoName := repoName config emission.repo, secrets }
  let event : Event := ⟨emission.kind, emission.ref, emission.buildId, payload⟩
  let answer ← ExceptT.lift ((Handlers.router services).dispatch event project).run
  conclude answer

-----------------------------------------------------------------------------------------
-- All commands
-----------------------------------------------------------------------------------------

def answer (host : Host ε) : Request → Command ε Reply
  | .version => return .ofLines [version]
  | .help => return .ofStatus .ok
  | .emit emission => emit host emission
  | .matchTag ref config => matchTag host ref config
  | .checks config => checks host config

def run (host : Host ε) (args : List String) : Run Act ε Reply :=
  match request? args with
  | none => return { ending := .usage }
  | some request => do
    match ← (answer host request).run with
    | .ok reply => return reply
    | .error reply => return reply

end Conductor.CommandLine
