import Conductor.Text.Blank
import Conductor.Text.Casing
import Conductor.Text.Digit

/-! Classes of characters in patterns, compared with or without regard to case. -/

namespace Conductor.Pattern

/-- How the case of letters counts: as it is, not at all in ASCII, or not at all. -/
inductive CaseRule where
  | exact
  | ascii
  | unicode
  deriving DecidableEq, Repr

/-- The named kinds of characters. -/
inductive Category where
  | digit
  | space
  | word
  deriving DecidableEq, Repr

/-- One part of a class: a range of code points, or a named kind or its complement, of ASCII
alone or of all scripts.
-/
inductive ClassItem where
  | range (first last : Nat)
  | category (kind : Category) (negated : Bool) (asciiOnly : Bool)
  deriving DecidableEq, Repr

/-- A class of characters: those that an item holds, or all others. -/
structure CharClass where
  negated : Bool
  items : List ClassItem
  rule : CaseRule
  deriving DecidableEq, Repr

def Category.has (kind : Category) (asciiOnly : Bool) (c : Char) : Bool :=
  match kind, asciiOnly with
  | .digit, true => Text.isAsciiDigit c
  | .digit, false => (Text.digitValue? c).isSome
  | .space, true => c == ' ' || (9 ≤ c.toNat && c.toNat ≤ 13)
  | .space, false => Text.isBlank c
  | .word, true => Text.isAsciiWordChar c
  | .word, false => Text.isWordChar c

/-- Groups of lower case letters that share one upper case letter. -/
def sharedCapitals : List (List Nat) := [
  [0x69, 0x131], [0x73, 0x17F], [0xB5, 0x3BC], [0x345, 0x3B9, 0x1FBE], [0x390, 0x1FD3],
  [0x3B0, 0x1FE3], [0x3B2, 0x3D0], [0x3B5, 0x3F5], [0x3B8, 0x3D1], [0x3BA, 0x3F0],
  [0x3C0, 0x3D6], [0x3C1, 0x3F1], [0x3C2, 0x3C3], [0x3C6, 0x3D5], [0x432, 0x1C80],
  [0x434, 0x1C81], [0x43E, 0x1C82], [0x441, 0x1C83], [0x442, 0x1C84, 0x1C85],
  [0x44A, 0x1C86], [0x463, 0x1C87], [0x1C88, 0xA64B], [0x1E61, 0x1E9B], [0xFB05, 0xFB06]]

namespace CaseRule

/-- The code point that stands for all that are the same to a rule. -/
def fold (rule : CaseRule) (code : Nat) : Nat :=
  match rule with
  | exact => code
  | ascii => if 65 ≤ code ∧ code ≤ 90 then code + 32 else code
  | unicode => Text.simpleLower code

/-- The code points whose simple lower case form is `code`. -/
def lowerSources (code : Nat) : List Nat :=
  let same := if Text.simpleLower code = code then [code] else []
  let shifted := Text.lowerRuns.filterMap fun run =>
    let source := (code - run.shift : Int).toNat
    if run.image? source = some code then some source else none
  let special := Text.lowerSpecial.filterMap fun (source, form) =>
    if form.head? = some code then some source else none
  same ++ shifted ++ special

/-- The code points that `fold` sends to `code`, and those that it sends to a letter with the
same capital.
-/
def sources (rule : CaseRule) (code : Nat) : List Nat :=
  match rule with
  | exact => [code]
  | ascii =>
    if 97 ≤ code ∧ code ≤ 122 then [code, code - 32]
    else if 65 ≤ code ∧ code ≤ 90 then [] else [code]
  | unicode =>
    match sharedCapitals.find? (·.contains code) with
    | some group => group.flatMap lowerSources
    | none => lowerSources code

end CaseRule

/-- Whether an item holds a character, given by its folded code point and by all code points
that are the same under the rule of the class.
-/
def ClassItem.has (item : ClassItem) (folded : Nat) (sources : List Nat) : Bool :=
  match item with
  | .range first last => sources.any fun code => first ≤ code && code ≤ last
  | .category kind negated asciiOnly => kind.has asciiOnly (Char.ofNat folded) != negated

def CharClass.has (cls : CharClass) (c : Char) : Bool :=
  let folded := cls.rule.fold c.toNat
  let sources := cls.rule.sources folded
  cls.items.any (·.has folded sources) != cls.negated

def CharClass.single (code : Nat) (rule : CaseRule) : CharClass :=
  ⟨false, [.range code code], rule⟩

def CharClass.all : CharClass := ⟨true, [], .exact⟩

/-- The class of all characters but the line feed. -/
def CharClass.notLineFeed : CharClass := ⟨true, [.range 10 10], .exact⟩

end Conductor.Pattern
