import Conductor.Text.CasingTable

/-!
Case mappings of text. Full mappings may change the number of characters; simple mappings send
one character to one character and serve comparison without regard to case.
-/

namespace Conductor.Text

/-- The code point that a run sends `code` to, none when `code` is not in the run. -/
def CaseRun.image? (run : CaseRun) (code : Nat) : Option Nat :=
  if run.first ≤ code && code ≤ run.last && (code - run.first) % run.step == 0 then
    some (code + run.shift).toNat
  else
    none

/-- The image of `code` under the first run that holds it, or `code` itself. -/
def shifted (runs : List CaseRun) (code : Nat) : Nat :=
  (runs.findSome? (CaseRun.image? · code)).getD code

/-- The full mapping of one code point: its special form, or else its image under the runs. -/
def fullForm (special : List (Nat × List Nat)) (runs : List CaseRun) (code : Nat) : List Nat :=
  (special.lookup code).getD [shifted runs code]

def upperForm (code : Nat) : List Nat :=
  fullForm upperSpecial upperRuns code

/-- The full title case form of a code point, its upper case form with few exceptions. -/
def titleForm (code : Nat) : List Nat :=
  (titleSpecial.lookup code).getD (upperForm code)

/-- The full lower case form of a code point outside of its context. -/
def lowerForm (code : Nat) : List Nat :=
  fullForm lowerSpecial lowerRuns code

/-- The capital sigma, the one letter whose lower case form depends on its neighbours. -/
def capitalSigma : Nat := 0x3A3

/-- Whether the nearest code point that is not ignorable is a cased letter. -/
def nextToCased : List Nat → Bool
  | [] => false
  | code :: rest => if caseIgnorable.contains code then nextToCased rest else cased.contains code

/-- The lower case form of a code point between the code points before it, nearest first, and
those after it: a capital sigma that ends a word becomes a final sigma.
-/
def lowerFormAt (before : List Nat) (code : Nat) (after : List Nat) : List Nat :=
  if code == capitalSigma then
    if nextToCased before && !nextToCased after then [0x3C2] else [0x3C3]
  else
    lowerForm code

/-- The lower case forms of the code points `after`, which follow those in `before`; the result
so far is kept in reverse.
-/
def lowerFrom (done : List Nat) (before : List Nat) : List Nat → List Nat
  | [] => done.reverse
  | code :: rest =>
    lowerFrom ((lowerFormAt before code rest).reverse ++ done) (code :: before) rest

def codes (s : String) : List Nat :=
  s.toList.map Char.toNat

def ofCodes (cs : List Nat) : String :=
  String.ofList (cs.map Char.ofNat)

def upper (s : String) : String :=
  ofCodes ((codes s).flatMap upperForm)

def lower (s : String) : String :=
  ofCodes (lowerFrom [] [] (codes s))

/-- A string with its first character in title case and all others in lower case. -/
def capitalize (s : String) : String :=
  match codes s with
  | [] => ""
  | first :: rest => ofCodes (titleForm first ++ lowerFrom [] [first] rest)

def simpleLower (code : Nat) : Nat :=
  match lowerForm code with
  | [] => code
  | first :: _ => first

/-- The simple upper case form of a code point: its full form where that is one code point. -/
def simpleUpper (code : Nat) : Nat :=
  match upperForm code, titleForm code with
  | [upper], _ => upper
  | _, [title] => title
  | _, _ => code

end Conductor.Text
