import Conductor.Config.Basic
import Conductor.Fault

/-!
Loading of configuration files. A file that cannot be used is an error with the file's path; what
the reader of the file does not answer is a fault.
-/

namespace Conductor.Config

/-- What is wrong with a configuration file. The platform has words for how a document or a pattern
breaks the grammar.
-/
inductive Problem where
  | missing
  | denied
  | notText (refusal : Utf8.Refusal)
  | malformed (flaw : String)
  | tagPattern (flaw : String)
  | noGroup
  deriving DecidableEq, Repr

/-- A configuration file that cannot be used. -/
structure Error where
  problem : Problem
  path : String
  deriving DecidableEq, Repr

def flawText : Utf8.Flaw → String
  | .start => "invalid start byte"
  | .continuation => "invalid continuation byte"
  | .truncated => "unexpected end of data"

/-- The sentence on bytes that are not text: the byte, or the places of several. -/
def refusalText (refusal : Utf8.Refusal) : String :=
  let place :=
    if refusal.length = 1 then
      "byte 0x" ++ Text.hexDigits 2 refusal.byte.toNat ++ " in position "
        ++ toString refusal.position
    else
      "bytes in position " ++ toString refusal.position ++ "-"
        ++ toString (refusal.position + refusal.length - 1)
  "'utf-8' codec can't decode " ++ place ++ ": " ++ flawText refusal.flaw

/-- What is wrong, in words. -/
def Problem.message (problem : Problem) (path : String) : String :=
  match problem with
  | .missing => "Config file not found: " ++ path
  | .denied => "Permission denied reading: " ++ path
  | .notText refusal => "Error reading config: " ++ refusalText refusal
  | .malformed flaw => "Invalid TOML syntax: " ++ flaw
  | .tagPattern flaw => "Invalid release_tag_pattern: " ++ flaw
  | .noGroup => "release_tag_pattern must capture the version in a group"

/-- What is wrong with a file, in words. -/
def Error.message (error : Error) : String :=
  error.problem.message error.path

/-- The root table of a text. -/
def parseText (platform : Platform) (text : List Char)
    : Except Fault (Except Problem (Table String)) :=
  match Toml.read platform.tomlRoom text with
  | .ok table => .ok (.ok table)
  | .error .malformed => .ok (.error (.malformed (platform.tomlFlaw text)))
  | .error (.longNumber digits) => .error (.longNumber digits)
  | .error .tooDeep => .error .tooDeep

/-- The root table of the file at a path in its normal text. -/
def parseAt (platform : Platform) (files : Files) (path : String)
    : Except Fault (Except Problem (Table String)) :=
  match files path with
  | .error error =>
    if error.isMissing then .ok (.error .missing)
    else if error.isDenied then .ok (.error .denied)
    else .error (.unreadable path error)
  | .ok bytes =>
    match Utf8.decode bytes with
    | .error refusal => .ok (.error (.notText refusal))
    | .ok text => parseText platform text

/-- The root table of a file. -/
def parseFile (platform : Platform) (files : Files) (path : String)
    : Except Fault (Except Error (Table String)) :=
  let path := Path.normal path
  (parseAt platform files path).map fun parsed => parsed.mapError (⟨·, path⟩)

/-- Why a pattern cannot match release tags, none if it can. -/
def tagProblem? (platform : Platform) (pattern : String) : Except Fault (Option Problem) :=
  match Pattern.parse platform.patterns pattern with
  | .ok parsed => .ok (if parsed.groupCount = 0 then some .noGroup else none)
  | .error .malformed => .ok (some (.tagPattern (platform.patternFlaw pattern)))
  | .error refusal => .error (.pattern refusal)

/-- The configuration of a file, or the default one. -/
def load (platform : Platform) (files : Files) (path : Option String)
    : Except Fault (Except Error Config) :=
  match path with
  | none => .ok (.ok {})
  | some path => do
    match ← parseFile platform files path with
    | .error error => .ok (.error error)
    | .ok table =>
      let config := Config.ofTable table
      match ← tagProblem? platform config.tagPattern with
      | some problem => .ok (.error ⟨problem, Path.normal path⟩)
      | none => .ok (.ok config)

end Conductor.Config
