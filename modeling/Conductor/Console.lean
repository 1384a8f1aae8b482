import Conductor.Text.Affix

/-! Console output: styled records, queries on them, and their plain text on a terminal. -/

namespace Conductor

/-- The styles of console output. -/
inductive Style where
  | default
  | success
  | error
  | warning
  | info
  | dim
  | header
  deriving DecidableEq, Repr

namespace Style

def all : List Style := [default, success, error, warning, info, dim, header]

def text : Style → String
  | default => "default"
  | success => "success"
  | error => "error"
  | warning => "warning"
  | info => "info"
  | dim => "dim"
  | header => "header"

def ofText? (name : String) : Option Style :=
  all.find? (·.text == name)

end Style

/-- One message written to a console. -/
structure Record where
  style : Style
  message : String
  deriving DecidableEq, Repr

/-- A message handed to a console, by the kind of the message. -/
inductive Message where
  | print (style : Style) (text : String)
  | success (text : String)
  | error (text : String)
  | warning (text : String)
  | info (text : String)
  | header (text : String)
  deriving DecidableEq, Repr

namespace Message

/-- A message of small weight. -/
def dim (text : String) : Message := .print .dim text

/-- What a console keeps of a message: kinds with a label carry it in their text. -/
def record : Message → Record
  | .print style text => ⟨style, text⟩
  | .success text => ⟨.success, "OK " ++ text⟩
  | .error text => ⟨.error, "error: " ++ text⟩
  | .warning text => ⟨.warning, "warning: " ++ text⟩
  | .info text => ⟨.info, "info: " ++ text⟩
  | .header text => ⟨.header, text⟩

/-- What a terminal without colours shows for a message: its record on a line of its own, and an
empty line before a header.
-/
def terminalText (message : Message) : String :=
  let line := message.record.message ++ "\n"
  match message with
  | .header _ => "\n" ++ line
  | _ => line

end Message

/-- The records written to a console, in order. -/
abbrev Console := List Record

namespace Console

def messages (console : Console) : List String :=
  console.map Record.message

/-- All messages, one to a line. -/
def text (console : Console) : String :=
  "\n".intercalate console.messages

/-- The records whose message holds `part`. -/
def find (console : Console) (part : String) : List Record :=
  console.filter fun record => Text.occursIn part.toList record.message.toList

def count (console : Console) (style : Style) : Nat :=
  (console.filter (·.style == style)).length

end Console

end Conductor
