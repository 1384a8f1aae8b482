import Conductor.Pattern.Engine
import Conductor.Pattern.Node

/-! Escapes in patterns: characters by letter or number, kinds of characters, and places. -/

namespace Conductor.Pattern

/-- The options that change how the rest of a pattern is read. -/
structure Flags where
  ignoreCase : Bool := false
  multiline : Bool := false
  dotAll : Bool := false
  verbose : Bool := false
  asciiOnly : Bool := false
  deriving DecidableEq, Repr

/-- How letters are compared. -/
def Flags.rule (flags : Flags) : CaseRule :=
  if !flags.ignoreCase then .exact else if flags.asciiOnly then .ascii else .unicode

/-- The code point of a letter escape that stands for a control character. -/
def controlEscape? (c : Char) : Option Nat :=
  match c with
  | 'a' => some 7
  | 'f' => some 12
  | 'n' => some 10
  | 'r' => some 13
  | 't' => some 9
  | 'v' => some 11
  | '\\' => some 92
  | _ => none

/-- The kind of characters of a letter escape, and whether its complement is meant. -/
def categoryEscape? (c : Char) : Option (Category × Bool) :=
  match c with
  | 'd' => some (.digit, false)
  | 'D' => some (.digit, true)
  | 's' => some (.space, false)
  | 'S' => some (.space, true)
  | 'w' => some (.word, false)
  | 'W' => some (.word, true)
  | _ => none

def anchorEscape? (flags : Flags) (c : Char) : Option Anchor :=
  match c with
  | 'A' => some .start
  | 'Z' => some .finish
  | 'b' => some (.wordEdge false flags.asciiOnly)
  | 'B' => some (.wordEdge true flags.asciiOnly)
  | _ => none

/-- The code point of the character whose name stands in braces. -/
def nameEscape (engine : Engine) (rest : List Token) : Except Refusal (Nat × List Token) :=
  match rest with
  | .plain '\x7b' :: rest => do
    let (name, rest) ← Token.upTo '\x7d' [] rest
    match engine.named (String.ofList name) with
    | some c => .ok (c.toNat, rest)
    | none => .error .malformed
  | _ => .error .malformed

/-- The code point of an escape by number or name, or of a character that needs no escape. -/
def codeEscape (engine : Engine) (c : Char) (rest : List Token)
    : Except Refusal (Nat × List Token) :=
  match c with
  | 'x' => Token.hexCode 2 rest
  | 'u' => Token.hexCode 4 rest
  | 'U' => Token.hexCode 8 rest
  | 'N' => nameEscape engine rest
  | c =>
    if c.isAlpha || Text.isAsciiDigit c then .error .malformed else .ok (c.toNat, rest)

/-- The greatest code point of an octal escape. -/
def maxOctal : Nat := 255

/-- A part of a class: one code point, or a kind of characters. -/
inductive ClassPart where
  | point (value : Nat)
  | kind (item : ClassItem)
  deriving DecidableEq, Repr

def ClassPart.item : ClassPart → ClassItem
  | .point value => .range value value
  | .kind item => item

/-- An escape within a class, where octal escapes have up to three digits. -/
def classEscape (engine : Engine) (flags : Flags) (c : Char) (rest : List Token)
    : Except Refusal (ClassPart × List Token) :=
  match controlEscape? c, categoryEscape? c with
  | some code, _ => .ok (.point code, rest)
  | _, some (kind, negated) => .ok (.kind (.category kind negated flags.asciiOnly), rest)
  | _, _ =>
    if c = 'b' then .ok (.point 8, rest)
    else if Token.isOctalDigit c then
      let (digits, rest) := Token.takeChars Token.isOctalDigit 2 rest
      let code := Text.valueIn 8 (c :: digits)
      if maxOctal < code then .error .malformed else .ok (.point code, rest)
    else do
      let (code, rest) ← codeEscape engine c rest
      .ok (.point code, rest)

/-- What an escape outside of a class means: a node, or the number of a group. -/
inductive Escape where
  | node (node : Node) (isAnchor : Bool)
  | group (index : Nat)
  deriving DecidableEq, Repr

/-- An escape that starts with a digit other than zero: three octal digits are a code point, one
or two digits the number of a group.
-/
def digitEscape (flags : Flags) (c : Char) (rest : List Token)
    : Except Refusal (Escape × List Token) :=
  let literal (code : Nat) : Escape := .node (.char (.single code flags.rule)) false
  match Token.takeChars Text.isAsciiDigit 1 rest with
  | ([d], rest) =>
    let octal := Token.isOctalDigit c && Token.isOctalDigit d
    match octal, Token.takeChars Token.isOctalDigit 1 rest with
    | true, ([e], rest) =>
      let code := Text.valueIn 8 [c, d, e]
      if maxOctal < code then .error .malformed else .ok (literal code, rest)
    | _, _ => .ok (.group (Text.valueIn 10 [c, d]), rest)
  | (_, rest) => .ok (.group (Text.valueIn 10 [c]), rest)

/-- An escape outside of a class. -/
def escape (engine : Engine) (flags : Flags) (c : Char) (rest : List Token)
    : Except Refusal (Escape × List Token) :=
  let literal (code : Nat) : Escape := .node (.char (.single code flags.rule)) false
  match anchorEscape? flags c, categoryEscape? c, controlEscape? c with
  | some anchor, _, _ => .ok (.node (.anchor anchor) true, rest)
  | _, some (kind, negated), _ =>
    .ok (.node (.char ⟨false, [.category kind negated flags.asciiOnly], flags.rule⟩) false, rest)
  | _, _, some code => .ok (literal code, rest)
  | _, _, _ =>
    if c = '0' then
      let (digits, rest) := Token.takeChars Token.isOctalDigit 2 rest
      .ok (literal (Text.valueIn 8 digits), rest)
    else if Text.isAsciiDigit c then digitEscape flags c rest
    else do
      let (code, rest) ← codeEscape engine c rest
      .ok (literal code, rest)

/-- The items of a class up to its closing bracket, which counts as a character in the first
place. `done` holds the items so far in reverse, and `fuel` bounds the number of items.
-/
def classItems (engine : Engine) (flags : Flags) (done : List ClassItem)
    : Nat → List Token → Except Refusal (List ClassItem × List Token)
  | 0, _ => .error .malformed
  | fuel + 1, tokens => do
    let readPart (tokens : List Token) : Except Refusal (ClassPart × List Token) :=
      match tokens with
      | .plain c :: rest => .ok (.point c.toNat, rest)
      | .escaped c :: rest => classEscape engine flags c rest
      | _ => .error .malformed
    match tokens with
    | .plain ']' :: rest =>
      if done.isEmpty then go readPart fuel tokens else .ok (done.reverse, rest)
    | _ => go readPart fuel tokens
where
  /-- One part or range, then the items behind it. -/
  go (readPart : List Token → Except Refusal (ClassPart × List Token)) (fuel : Nat)
      (tokens : List Token) : Except Refusal (List ClassItem × List Token) := do
    let (first, rest) ← readPart tokens
    match rest with
    | .plain '-' :: .plain ']' :: rest =>
      .ok ((.range 45 45 :: first.item :: done).reverse, rest)
    | .plain '-' :: rest =>
      let (last, rest) ← readPart rest
      match first, last with
      | .point low, .point high =>
        if high < low then .error .malformed
        else classItems engine flags (.range low high :: done) fuel rest
      | _, _ => .error .malformed
    | _ => classItems engine flags (first.item :: done) fuel rest

/-- A class behind its opening bracket. -/
def charClass (engine : Engine) (flags : Flags) (tokens : List Token)
    : Except Refusal (CharClass × List Token) :=
  let (negated, tokens) := match tokens with
    | .plain '^' :: rest => (true, rest)
    | _ => (false, tokens)
  do
    let (items, rest) ← classItems engine flags [] (tokens.length + 1) tokens
    .ok (⟨negated, items, flags.rule⟩, rest)

end Conductor.Pattern
