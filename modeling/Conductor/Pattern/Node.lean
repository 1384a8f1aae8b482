import Conductor.Pattern.CharClass

/-! The structure of patterns, and the least and greatest length of what they match. -/

namespace Conductor.Pattern

/-- Places that a pattern can ask for without taking a character. -/
inductive Anchor where
  | start
  | lineStart
  | finish
  | finishOrLastLine
  | lineFinish
  | wordEdge (negated asciiOnly : Bool)
  deriving DecidableEq, Repr

/-- How a repetition chooses between more and less: more first, less first, or more without ever
taking it back.
-/
inductive Greed where
  | greedy
  | lazy
  | possessive
  deriving DecidableEq, Repr

/-- A pattern. The upper bound of a repetition may be absent. -/
inductive Node where
  | empty
  | chars (cls : CharClass) (min : Nat) (max : Option Nat) (greed : Greed)
  | seq (first second : Node)
  | alt (first second : Node)
  | group (index : Nat) (body : Node)
  | loop (body : Node) (min : Nat) (max : Option Nat) (greed : Greed)
  | atomic (body : Node)
  | ahead (negated : Bool) (body : Node)
  | behind (negated : Bool) (width : Nat) (body : Node)
  | same (index : Nat) (rule : CaseRule)
  | ifGroup (index : Nat) (yes no : Node)
  | anchor (place : Anchor)
  deriving DecidableEq, Repr

namespace Node

def char (cls : CharClass) : Node :=
  .chars cls 1 (some 1) .greedy

def ofList : List Node → Node
  | [] => .empty
  | [node] => node
  | node :: rest => .seq node (ofList rest)

def ofAlternatives : List Node → Node
  | [] => .empty
  | [node] => node
  | node :: rest => .alt node (ofAlternatives rest)

/-- A repetition; that of a single character takes all its characters at once. -/
def repeated (body : Node) (min : Nat) (max : Option Nat) (greed : Greed) : Node :=
  match body with
  | .chars cls 1 (some 1) _ => .chars cls min max greed
  | body => .loop body min max greed

/-- The bound above which lengths are not told apart. -/
def widthLimit : Nat := Nat.pow 2 64

/-- A bound multiplied by the upper bound of a repetition. -/
def widthTimes (width : Nat) : Option Nat → Nat
  | some max => width * max
  | none => if width = 0 then 0 else widthLimit

/-- The least and the greatest length of a match, up to the limit. `groups` holds the lengths of
the groups that the pattern refers back to.
-/
def width (groups : List (Nat × Nat × Nat)) : Node → Nat × Nat
  | .empty => (0, 0)
  | .chars _ min max _ => (Nat.min min widthLimit, Nat.min (widthTimes 1 max) widthLimit)
  | .seq a b =>
    let (la, ha) := a.width groups
    let (lb, hb) := b.width groups
    (Nat.min (la + lb) widthLimit, Nat.min (ha + hb) widthLimit)
  | .alt a b =>
    let (la, ha) := a.width groups
    let (lb, hb) := b.width groups
    (Nat.min la lb, Nat.max ha hb)
  | .group _ body => body.width groups
  | .loop body min max _ =>
    let (l, h) := body.width groups
    (Nat.min (l * min) widthLimit, Nat.min (widthTimes h max) widthLimit)
  | .atomic body => body.width groups
  | .ahead _ _ => (0, 0)
  | .behind _ _ _ => (0, 0)
  | .same index _ => (groups.lookup index).getD (0, 0)
  | .ifGroup _ yes no =>
    let (ly, hy) := yes.width groups
    let (ln, hn) := no.width groups
    (Nat.min ly ln, Nat.max hy hn)
  | .anchor _ => (0, 0)

end Node

end Conductor.Pattern
