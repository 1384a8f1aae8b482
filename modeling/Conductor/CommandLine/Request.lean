import Conductor.Number.Reading
import Conductor.Text.Affix

/-!
Command lines. Options have long names; the value of an option follows in the same word behind an
equals sign, or is the next word, whatever it is. Of an option that is given twice the last counts.
-/

namespace Conductor.CommandLine

/-- The words of a command line read as options with their values and as arguments. -/
structure Words where
  options : List (String × String)
  arguments : List String
  deriving DecidableEq, Repr

/-- Whether a word is an option: a hyphen, and more. -/
def isOption (word : String) : Bool :=
  match word.toList with
  | '-' :: _ :: _ => true
  | _ => false

/-- Options by their names, and whether each takes a value. -/
abbrev Options := List (String × Bool)

/-- Reads words. Unless options may follow arguments, all words behind the first argument are
arguments. Two hyphens end the options. None when an option is unknown, lacks its value, or has
one that it does not take.
-/
def readWords (known : Options) (mixed : Bool) (options : List (String × String))
    (arguments : List String) : List String → Option Words
  | [] => some ⟨options.reverse, arguments.reverse⟩
  | word :: rest =>
    if word = "--" then some ⟨options.reverse, arguments.reverse ++ rest⟩
    else if !isOption word then
      if mixed then readWords known mixed options (word :: arguments) rest
      else some ⟨options.reverse, arguments.reverse ++ word :: rest⟩
    else
      match Text.cutAt '=' word with
      | (name, some value) =>
        if known.lookup name = some true then
          readWords known mixed ((name, value) :: options) arguments rest
        else none
      | (name, none) =>
        match known.lookup name, rest with
        | some false, rest => readWords known mixed ((name, "") :: options) arguments rest
        | some true, value :: rest =>
          readWords known mixed ((name, value) :: options) arguments rest
        | some true, [] => none
        | none, _ => none

def Words.value? (words : Words) (name : String) : Option String :=
  words.options.reverse.lookup name

/-- What to deliver to the orchestrator, and how. -/
structure Emission where
  kind : String
  ref : String := ""
  buildId : String := "local"
  repo : Option String := none
  payloadFile : Option String := none
  secretsFile : Option String := none
  config : Option String := none
  execute : Bool := false
  source : String := "."
  timeout : Option Binary64 := none
  deriving DecidableEq, Repr

/-- What a command line asks for. -/
inductive Request where
  | version
  | help
  | emit (emission : Emission)
  | matchTag (ref : String) (config : Option String)
  | checks (config : Option String)
  deriving DecidableEq, Repr

def helpOption : String := "--help"

def versionOption : String := "--version"

def programOptions : Options := [(versionOption, false), (helpOption, false)]

def lookUpOptions : Options := [("--config", true), (helpOption, false)]

def emitOptions : Options := [
  ("--ref", true), ("--build-id", true), ("--repo", true), ("--payload-file", true),
  ("--secrets-file", true), ("--config", true), ("--execute", false), ("--dry-run", false),
  ("--source", true), ("--timeout", true), (helpOption, false)]

/-- Whether jobs are to be run: the last of the two options on this counts. -/
def Words.execute (words : Words) : Bool :=
  let given := words.options.reverse.map Prod.fst
  given.find? (fun name => name == "--execute" || name == "--dry-run") == some "--execute"

/-- What the options of a delivery ask for; none when the time limit is no number. -/
def Words.emission? (words : Words) (kind : String) : Option Emission := do
  let timeout ← match words.value? "--timeout" with
    | none => some none
    | some text => (Binary64.ofText? text).map some
  some {
    kind
    ref := (words.value? "--ref").getD ""
    buildId := (words.value? "--build-id").getD "local"
    repo := words.value? "--repo"
    payloadFile := words.value? "--payload-file"
    secretsFile := words.value? "--secrets-file"
    config := words.value? "--config"
    execute := words.execute
    source := (words.value? "--source").getD "."
    timeout }

def requestOf? (known : Options) (args : List String) (request : Words → Option Request)
    : Option Request := do
  let words ← readWords known true [] [] args
  if (words.value? helpOption).isSome then some .help else request words

def commandOf? (name : String) (args : List String) : Option Request :=
  match name with
  | "emit" => requestOf? emitOptions args fun words =>
    match words.arguments with
    | [kind] => (words.emission? kind).map .emit
    | _ => none
  | "match-tag" => requestOf? lookUpOptions args fun words =>
    match words.arguments with
    | [ref] => some (.matchTag ref (words.value? "--config"))
    | _ => none
  | "checks" => requestOf? lookUpOptions args fun words =>
    match words.arguments with
    | [] => some (.checks (words.value? "--config"))
    | _ => none
  | _ => none

/-- What a command line asks for; none when it is not understood. -/
def request? (args : List String) : Option Request := do
  let words ← readWords programOptions false [] [] args
  match words.options, words.arguments with
  | (name, _) :: _, _ => some (if name = versionOption then .version else .help)
  | [], command :: args => commandOf? command args
  | [], [] => none

end Conductor.CommandLine
