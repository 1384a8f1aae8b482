import Conductor.Text.Unit

/-! Blank characters, and text with the blanks at its ends removed. -/

namespace Conductor.Text

/-- Blank code points: the ASCII blanks and information separators, the next line control, and
the space separators of Unicode.
-/
def isBlankCode (code : Nat) : Bool :=
  9 ≤ code && code ≤ 13 || 0x1C ≤ code && code ≤ 0x20 || code == 0x85 || code == 0xA0
    || code == 0x1680 || 0x2000 ≤ code && code ≤ 0x200A || code == 0x2028 || code == 0x2029
    || code == 0x202F || code == 0x205F || code == 0x3000

def isBlank (c : Char) : Bool :=
  isBlankCode c.toNat

/-- Whether a character may stand before or behind a number: a blank other than the information
separators.
-/
def isNumberBlank (c : Char) : Bool :=
  isBlank c && (c.toNat < 0x1C || 0x20 ≤ c.toNat)

/-- Whether a unit is a blank character; a half never is. -/
def isBlankUnit (unit : TextUnit) : Bool :=
  isBlankCode unit.code

/-- A list without its longest leading and trailing runs of elements that satisfy `p`. -/
def trimmed {α : Type} (p : α → Bool) (items : List α) : List α :=
  ((items.dropWhile p).reverse.dropWhile p).reverse

def strip (s : String) : String :=
  String.ofList (trimmed isBlank s.toList)

def stripUnits (text : Text) : Text :=
  trimmed isBlankUnit text

/-- A stripped string, none when nothing is left of it. -/
def nonBlank? (s : String) : Option String :=
  let kept := strip s
  if kept.isEmpty then none else some kept

end Conductor.Text
