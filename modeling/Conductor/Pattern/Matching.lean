import Conductor.Pattern.Node

/-!
Matching of patterns by backtracking. A pattern is run at a place in the subject with a
continuation that says whether the rest can match from a place; the first place, in the order of
preference of the pattern, at which the continuation succeeds decides the result.
-/

namespace Conductor.Pattern

/-- What a group has matched: the start of a text, and how long it is. -/
structure Capture where
  text : List Char
  length : Nat
  deriving DecidableEq, Repr

/-- A place in a subject: the characters before it in reverse, those after it, their number
before it, and what the groups have matched, the latest first.
-/
structure Place where
  before : List Char
  after : List Char
  position : Nat
  groups : List (Nat × Capture)
  deriving DecidableEq, Repr

def Place.start (subject : List Char) : Place := ⟨[], subject, 0, []⟩

def Place.group? (place : Place) (index : Nat) : Option (List Char) :=
  (place.groups.lookup index).map fun capture => capture.text.take capture.length

/-- The place behind the next character, if a class holds it. -/
def Place.take? (cls : CharClass) (place : Place) : Option Place :=
  match place.after with
  | [] => none
  | c :: rest =>
    if cls.has c then some { place with
      before := c :: place.before, after := rest, position := place.position + 1 }
    else none

def Place.back (place : Place) : Place :=
  match place.before with
  | [] => place
  | c :: rest => { place with
      before := rest, after := c :: place.after, position := place.position - 1 }

def Place.backBy : Nat → Place → Place
  | 0, place => place
  | n + 1, place => backBy n place.back

/-- What is left of a bound after one use, and whether any was left. -/
def more : Option Nat → Option (Option Nat)
  | none => some none
  | some 0 => none
  | some (n + 1) => some (some n)

/-- A way to go on from a place. -/
abbrev Continuation := Place → Option Place

/-- The number of characters of a class ahead, up to a bound, and the place behind them. -/
def takeRun (cls : CharClass) (count : Nat) (place : Place) : List Char → Option Nat → Nat × Place
  | [], _ => (count, place)
  | _ :: rest, bound =>
    match more bound, place.take? cls with
    | some bound, some next => takeRun cls (count + 1) next rest bound
    | _, _ => (count, place)

/-- Goes on from a place or, failing that, from up to `count` characters before it. -/
def giveBack (k : Continuation) : Nat → Place → Option Place
  | 0, place => k place
  | n + 1, place =>
    match k place with
    | some result => some result
    | none => giveBack k n place.back

/-- Goes on from a place or, failing that, from behind further characters of a class. The list
is the text ahead of the place.
-/
def takeMore (cls : CharClass) (k : Continuation) (place : Place)
    : List Char → Option Nat → Option Place
  | [], _ => k place
  | _ :: rest, bound =>
    match k place with
    | some result => some result
    | none =>
      match more bound, place.take? cls with
      | some bound, some next => takeMore cls k next rest bound
      | _, _ => none

/-- Runs of characters of a class, in the order of preference. -/
def runChars (cls : CharClass) (min : Nat) (max : Option Nat) (greed : Greed) (k : Continuation)
    (place : Place) : Option Place :=
  match greed with
  | .lazy =>
    let (count, next) := takeRun cls 0 place place.after (some min)
    if count < min then none
    else takeMore cls k next next.after (max.map (· - min))
  | greed =>
    let (count, next) := takeRun cls 0 place place.after max
    if count < min then none
    else if greed = .possessive then k next
    else giveBack k (count - min) next

/-- A fixed number of runs of a body. -/
def times (body : Continuation → Continuation) : Nat → Continuation → Continuation
  | 0, k => k
  | n + 1, k => body (times body n k)

/-- The number of runs that a loop can need: those that its bound allows or, without a bound, one
for each character ahead and an empty one.
-/
def loopFuel (bound : Option Nat) (place : Place) : Nat :=
  bound.getD (place.after.length + 1)

/-- Further runs of a body, in the order of preference. A run that starts where the one before
it started is not tried, so that no more than `fuel` runs are needed.
-/
def optional (body : Continuation → Continuation) (lazy : Bool) (k : Continuation)
    : Nat → Option Nat → Option Nat → Continuation
  | 0, _, _, place => k place
  | fuel + 1, bound, last, place =>
    match more bound with
    | none => k place
    | some bound =>
      if last = some place.position then k place
      else
        let again := body (optional body lazy k fuel bound (some place.position))
        if lazy then
          match k place with
          | some result => some result
          | none => again place
        else
          match again place with
          | some result => some result
          | none => k place

/-- Runs of a body, each final once it has succeeded, up to a bound. -/
def finalRuns (body : Continuation → Continuation) : Nat → Option Nat → Place → Place
  | 0, _, place => place
  | fuel + 1, bound, place =>
    match more bound, body some place with
    | some bound, some next =>
      if next.position = place.position then next else finalRuns body fuel bound next
    | _, _ => place

/-- A fixed number of runs of a body, each final once it has succeeded. -/
def finalTimes (body : Continuation → Continuation) : Nat → Continuation
  | 0, place => some place
  | n + 1, place =>
    match body some place with
    | some next => finalTimes body n next
    | none => none

def runLoop (body : Continuation → Continuation) (min : Nat) (max : Option Nat) (greed : Greed)
    (k : Continuation) (place : Place) : Option Place :=
  let rest := max.map (· - min)
  match greed with
  | .possessive =>
    match finalTimes body min place with
    | some next => k (finalRuns body (loopFuel rest next) rest next)
    | none => none
  | greed =>
    times body min
      (fun next => optional body (greed == .lazy) k (loopFuel rest next) rest none next) place

def Anchor.holds (anchor : Anchor) (place : Place) : Bool :=
  match anchor with
  | .start => place.before.isEmpty
  | .lineStart => place.before.isEmpty || place.before.head? == some '\n'
  | .finish => place.after.isEmpty
  | .finishOrLastLine => place.after.isEmpty || place.after == ['\n']
  | .lineFinish => place.after.isEmpty || place.after.head? == some '\n'
  | .wordEdge negated asciiOnly =>
    let isWord (c : Option Char) : Bool := (c.map (Category.word.has asciiOnly)).getD false
    !(place.before.isEmpty && place.after.isEmpty)
      && (isWord place.before.head? != isWord place.after.head?) != negated

/-- The place behind a text that is the same as `text` to a rule. -/
def takeSame (rule : CaseRule) (place : Place) : List Char → Option Place
  | [] => some place
  | c :: text =>
    match place.after with
    | [] => none
    | d :: rest =>
      if rule.fold c.toNat = rule.fold d.toNat then
        takeSame rule
          { place with before := d :: place.before, after := rest, position := place.position + 1 }
          text
      else none

/-- The groups that a part of a pattern stands in, each with the position at which it was opened. -/
abbrev Opened := List (Nat × Nat)

/-- The position behind what a group has matched in the subject of a place. -/
def Place.endOf (place : Place) (capture : Capture) : Nat :=
  place.position + place.after.length - capture.text.length + capture.length

/-- Whether a condition on a group is fulfilled: the group has matched and, if it is open again, no
further ahead than where it was opened.
-/
def Place.fulfils (opened : Opened) (index : Nat) (place : Place) : Bool :=
  (place.groups.lookup index).any fun capture =>
    (opened.lookup index).all (· ≤ place.endOf capture)

def run (opened : Opened) : Node → Continuation → Continuation
  | .empty, k, place => k place
  | .chars cls min max greed, k, place => runChars cls min max greed k place
  | .seq a b, k, place => run opened a (run opened b k) place
  | .alt a b, k, place =>
    match run opened a k place with
    | some result => some result
    | none => run opened b k place
  | .group index body, k, place =>
    run ((index, place.position) :: opened) body
      (fun next =>
        let capture : Capture := ⟨place.after, next.position - place.position⟩
        k { next with groups := (index, capture) :: next.groups })
      place
  | .loop body min max greed, k, place => runLoop (run opened body) min max greed k place
  | .atomic body, k, place =>
    match run opened body some place with
    | some next => k next
    | none => none
  | .ahead negated body, k, place =>
    match run opened body some place, negated with
    | some next, false => k { place with groups := next.groups }
    | none, true => k place
    | _, _ => none
  | .behind negated width body, k, place =>
    let found :=
      if place.position < width then none else run opened body some (place.backBy width)
    match found, negated with
    | some next, false => k { place with groups := next.groups }
    | none, true => k place
    | _, _ => none
  | .same index rule, k, place =>
    match place.group? index with
    | some text =>
      match takeSame rule place text with
      | some next => k next
      | none => none
    | none => none
  | .ifGroup index yes no, k, place =>
    if place.fulfils opened index then run opened yes k place else run opened no k place
  | .anchor anchor, k, place => if anchor.holds place then k place else none

/-- The end of a match of the whole of a subject. -/
def Node.fullMatch? (node : Node) (subject : List Char) : Option Place :=
  run [] node (fun place => if place.after.isEmpty then some place else none) (.start subject)

end Conductor.Pattern
