import Conductor.Json.Number
import Conductor.Text.Transport

/-!
Reading of JSON documents. The reader is a machine that takes one unit of text at a time and keeps
the open lists and tables on a stack, so that each document is read by one fold. Besides the
standard grammar it knows the words `NaN`, `Infinity` and `-Infinity`. How many lists and tables may
be open at once is left to the platform.
-/

namespace Conductor.Json

/-- A list or table under way: its items in reverse, or its entries and the key read last. -/
inductive Frame where
  | list (items : List (Value Text))
  | table (entries : Table Text) (key : Text)

/-- Where a string stands: between units, after a backslash, or in a number escape with the
count of hexadecimal digits read and their value.
-/
inductive Escape where
  | none
  | open
  | number (digits : Nat) (code : Nat)
  deriving DecidableEq, Repr

/-- A string under way, in reverse. `joinable` holds right after the escape of a high half. -/
structure StringState where
  units : Text
  escape : Escape
  joinable : Bool

/-- What the machine expects. -/
inductive Mode where
  | value
  | firstItem
  | firstKey
  | nextKey
  | colon
  | string (isKey : Bool) (s : StringState)
  | number (n : NumberState)
  | word (rest : List Char) (meaning : Value Text)
  | next
  | done (root : Value Text)

/-- The machine between two units. -/
structure State where
  stack : List Frame
  mode : Mode

def State.start : State := ⟨[], .value⟩

def deliver (value : Value Text) : List Frame → State
  | [] => ⟨[], .done value⟩
  | .list items :: rest => ⟨.list (value :: items) :: rest, .next⟩
  | .table entries key :: rest => ⟨.table (entries.insert key value) [] :: rest, .next⟩

def deliverKey (key : Text) : List Frame → Except Refusal State
  | .table entries _ :: rest => .ok ⟨.table entries key :: rest, .colon⟩
  | _ => .error .malformed

/-- Opens a list or table, unless `depth` are open. -/
def openFrame (depth : Nat) (frame : Frame) (mode : Mode) (stack : List Frame)
    : Except Refusal State :=
  if depth ≤ stack.length then .error .tooDeep else .ok ⟨frame :: stack, mode⟩

/-- Closes the innermost list or table with the bracket `c`. -/
def close (c : Char) : List Frame → Except Refusal State
  | .list items :: rest =>
    if c = ']' then .ok (deliver (.list items.reverse) rest) else .error .malformed
  | .table entries _ :: rest =>
    if c = '\x7d' then .ok (deliver (.table entries) rest) else .error .malformed
  | [] => .error .malformed

/-- The four blanks of the grammar. -/
def isBlank (c : Char) : Bool :=
  c == ' ' || c == '\t' || c == '\n' || c == '\r'

def StringState.start : StringState := ⟨[], .none, false⟩

def beginValue (depth : Nat) (c : Char) (stack : List Frame) : Except Refusal State :=
  if c = '"' then .ok ⟨stack, .string false .start⟩
  else if c = '[' then openFrame depth (.list []) .firstItem stack
  else if c = '\x7b' then openFrame depth (.table [] []) .firstKey stack
  else if c = '-' then .ok ⟨stack, .number .minus⟩
  else if Text.isAsciiDigit c then .ok ⟨stack, .number (.firstDigit false c)⟩
  else if c = 't' then .ok ⟨stack, .word "rue".toList (.bool true)⟩
  else if c = 'f' then .ok ⟨stack, .word "alse".toList (.bool false)⟩
  else if c = 'n' then .ok ⟨stack, .word "ull".toList .null⟩
  else if c = 'N' then .ok ⟨stack, .word "aN".toList (.float .nan)⟩
  else if c = 'I' then .ok ⟨stack, .word "nfinity".toList (.float (.infinite false))⟩
  else .error .malformed

/-- The character of a one-letter escape. -/
def escaped? (c : Char) : Option Char :=
  match c with
  | '"' => some '"'
  | '\\' => some '\\'
  | '/' => some '/'
  | 'b' => some '\x08'
  | 'f' => some '\x0c'
  | 'n' => some '\n'
  | 'r' => some '\r'
  | 't' => some '\t'
  | _ => none

/-- The string after a number escape: the escape of a low half right after that of a high one
makes one character with it.
-/
def StringState.pushEscape (s : StringState) (code : Nat) : StringState :=
  match TextUnit.ofCode? code, s.units with
  | some (.half low), .half high :: before =>
    if s.joinable ∧ 1024 ≤ low.val then ⟨.char (TextUnit.join high low) :: before, .none, false⟩
    else ⟨.half low :: s.units, .none, low.val < 1024⟩
  | some unit, _ => ⟨unit :: s.units, .none, unit.isHighHalf⟩
  | none, _ => ⟨s.units, .none, false⟩

/-- One unit inside of a string; none at the closing quote. -/
def StringState.push (s : StringState) (unit : TextUnit) : Except Refusal (Option StringState) :=
  match s.escape with
  | .none =>
    if unit = .char '"' then .ok none
    else if unit = .char '\\' then .ok (some { s with escape := .open })
    else if unit.code < 0x20 then .error .malformed
    else .ok (some ⟨unit :: s.units, .none, false⟩)
  | .open =>
    match unit with
    | .char 'u' => .ok (some { s with escape := .number 0 0 })
    | .char c =>
      match escaped? c with
      | some e => .ok (some ⟨.char e :: s.units, .none, false⟩)
      | none => .error .malformed
    | .half _ => .error .malformed
  | .number digits code =>
    match unit.char?.bind Text.hexValue? with
    | none => .error .malformed
    | some d =>
      if digits = 3 then .ok (some (s.pushEscape (code * 16 + d)))
      else .ok (some { s with escape := .number (digits + 1) (code * 16 + d) })

/-- One unit in any mode but that of a number. -/
def stepPlain (depth : Nat) (state : State) (unit : TextUnit) : Except Refusal State :=
  match state.mode with
  | .string isKey s => do
    match ← s.push unit with
    | some s => .ok ⟨state.stack, .string isKey s⟩
    | none =>
      if isKey then deliverKey s.units.reverse state.stack
      else .ok (deliver (.str s.units.reverse) state.stack)
  | .word rest meaning =>
    match rest with
    | [] => .error .malformed
    | c :: rest =>
      if unit ≠ .char c then .error .malformed
      else if rest.isEmpty then .ok (deliver meaning state.stack)
      else .ok ⟨state.stack, .word rest meaning⟩
  | mode =>
    match unit with
    | .half _ => .error .malformed
    | .char c =>
      if isBlank c then .ok state
      else
        match mode with
        | .value => beginValue depth c state.stack
        | .firstItem => if c = ']' then close c state.stack else beginValue depth c state.stack
        | .firstKey =>
          if c = '\x7d' then close c state.stack
          else if c = '"' then .ok ⟨state.stack, .string true .start⟩
          else .error .malformed
        | .nextKey =>
          if c = '"' then .ok ⟨state.stack, .string true .start⟩ else .error .malformed
        | .colon => if c = ':' then .ok ⟨state.stack, .value⟩ else .error .malformed
        | .next =>
          if c = ',' then
            match state.stack with
            | .list _ :: _ => .ok ⟨state.stack, .value⟩
            | _ => .ok ⟨state.stack, .nextKey⟩
          else close c state.stack
        | _ => .error .malformed

/-- One unit. A number ends at the first unit that cannot belong to it. -/
def step (depth : Nat) (state : State) (unit : TextUnit) : Except Refusal State :=
  match state.mode with
  | .number n =>
    if n.part = .sign ∧ unit = .char 'I' then
      .ok ⟨state.stack, .word "nfinity".toList (.float (.infinite true))⟩
    else
      match unit.char?.bind n.push? with
      | some n => .ok ⟨state.stack, .number n⟩
      | none => do
        let value ← n.finish
        stepPlain depth (deliver value state.stack) unit
  | _ => stepPlain depth state unit

def State.finish (state : State) : Except Refusal (Value Text) :=
  match state.mode with
  | .done root => .ok root
  | .number n => do
    let value ← n.finish
    match (deliver value state.stack).mode with
    | .done root => .ok root
    | _ => .error .malformed
  | _ => .error .malformed

def read (depth : Nat) (text : Text) : Except Refusal (Value Text) := do
  let state ← text.foldlM (step depth) .start
  state.finish

/-- What keeps a document from being answered at all, not even as unreadable. -/
inductive Fault where
  | longNumber (digits : Nat)
  | tooDeep
  deriving DecidableEq, Repr

/-- The table at the root of a text: none when it is malformed or its root is another value. -/
def readTable (depth : Nat) (text : Text) : Except Fault (Option (Table Text)) :=
  match read depth text with
  | .ok root => .ok root.table?
  | .error .malformed => .ok none
  | .error (.longNumber digits) => .error (.longNumber digits)
  | .error .tooDeep => .error .tooDeep

def readTableBytes (depth : Nat) (bytes : Bytes) : Except Fault (Option (Table Text)) :=
  match Transport.decode? bytes with
  | none => .ok none
  | some text => readTable depth text

end Conductor.Json
