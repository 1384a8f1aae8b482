/-!
Text that may hold halves of surrogate pairs. Documents in a Unicode transport can spell a half
that has no partner; such a half is kept as a unit of its own and never joined with a neighbour.
-/

namespace Conductor

/-- One unit of text: a character, or a surrogate half counted from the first high half. -/
inductive TextUnit where
  | char (c : Char)
  | half (index : Fin 2048)
  deriving DecidableEq, Repr, Inhabited

namespace TextUnit

/-- The code point of a unit; halves have theirs between the two runs of characters. -/
def code : TextUnit → Nat
  | .char c => c.toNat
  | .half index => 0xD800 + index.val

/-- The unit of a code point, none above the last one. -/
def ofCode? (code : Nat) : Option TextUnit :=
  if half : 0xD800 ≤ code ∧ code < 0xE000 then
    some (.half ⟨code - 0xD800, by omega⟩)
  else if code < 0x110000 then
    some (.char (Char.ofNat code))
  else
    none

/-- The character of a unit, none for a half. -/
def char? : TextUnit → Option Char
  | .char c => some c
  | .half _ => none

/-- A half that starts a pair. -/
def isHighHalf : TextUnit → Bool
  | .char _ => false
  | .half index => index.val < 1024

/-- A half that ends a pair. -/
def isLowHalf : TextUnit → Bool
  | .char _ => false
  | .half index => 1024 ≤ index.val

def join (high low : Fin 2048) : Char :=
  Char.ofNat (0x10000 + high.val % 1024 * 1024 + low.val % 1024)

end TextUnit

/-- Text as a list of units. -/
abbrev Text := List TextUnit

namespace Text

/-- A string as text; it has no halves. -/
def ofString (s : String) : Text :=
  s.toList.map .char

/-- The string of a text without halves. -/
def toString? (text : Text) : Option String :=
  (text.mapM TextUnit.char?).map String.ofList

/-- The text for a reader, with the replacement character in the place of each half. -/
def shown (text : Text) : String :=
  String.ofList (text.map fun unit => unit.char?.getD '\uFFFD')

end Text

end Conductor
