import Conductor.Text.Unit
import Conductor.Text.Unprintable

/-!
Quoted text. A text is written between apostrophes, or between quotation marks when it holds
apostrophes and no quotation mark. The quote in use and the backslash are escaped, and so is
each unit that does not print as itself.
-/

namespace Conductor.Text

/-- The digits of `n` in base sixteen, at least `width` of them. -/
def hexDigits (width : Nat) (n : Nat) : String :=
  let digits := Nat.toDigits 16 n
  String.ofList (List.replicate (width - digits.length) '0' ++ digits)

/-- A unit written by its number, in the shortest of the three forms that holds it. -/
def numberEscape (code : Nat) : String :=
  if code < 0x100 then "\\x" ++ hexDigits 2 code
  else if code < 0x10000 then "\\u" ++ hexDigits 4 code
  else "\\U" ++ hexDigits 8 code

/-- Whether a unit stands for itself inside quotes. With `asciiOnly`, only ASCII does. -/
def printsAsItself (asciiOnly : Bool) (unit : TextUnit) : Bool :=
  match unit with
  | .half _ => false
  | .char c => if asciiOnly && c.toNat ≥ 0x80 then false else !unprintable.has c

def escapeUnit (asciiOnly : Bool) (quote : Char) (unit : TextUnit) : String :=
  if unit = .char quote || unit = .char '\\' then "\\" ++ (unit.char?.getD quote).toString
  else if unit = .char '\n' then "\\n"
  else if unit = .char '\r' then "\\r"
  else if unit = .char '\t' then "\\t"
  else if printsAsItself asciiOnly unit then (unit.char?.getD quote).toString
  else numberEscape unit.code

/-- The quote that a text is written with. -/
def quoteFor (text : Text) : Char :=
  if text.contains (.char '\'') && !text.contains (.char '"') then '"' else '\''

def quotedUnits (text : Text) (asciiOnly : Bool) : String :=
  let quote := quoteFor text
  quote.toString ++ String.join (text.map (escapeUnit asciiOnly quote)) ++ quote.toString

def quoted (s : String) : String :=
  quotedUnits (Text.ofString s) false

/-- A string between quotes, in ASCII. -/
def quotedAscii (s : String) : String :=
  quotedUnits (Text.ofString s) true

end Conductor.Text
