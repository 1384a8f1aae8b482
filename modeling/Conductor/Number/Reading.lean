import Conductor.Number.Binary64
import Conductor.Text.Blank
import Conductor.Text.Digit

/-!
Double precision numbers read from what a person writes: digits of any script with single low
lines between them, a point, a power of ten, or a word for infinity or for no number.
-/

namespace Conductor.Binary64

/-- A character with digits of other scripts replaced by the ASCII ones. -/
def plainDigit (c : Char) : Char :=
  match Text.digitValue? c with
  | some digit => Char.ofNat ('0'.toNat + digit)
  | none => c

/-- A text without the low lines between its digits; none when a low line stands elsewhere. -/
def joinDigits? (afterDigit : Bool) : List Char → Option (List Char)
  | [] => some []
  | '_' :: d :: rest =>
    if afterDigit && Text.isAsciiDigit d then (joinDigits? true rest).map (d :: ·) else none
  | ['_'] => none
  | c :: rest => (joinDigits? (Text.isAsciiDigit c) rest).map (c :: ·)

/-- The sign of a text, whether it is negative, and the text behind it. -/
def readSign : List Char → Bool × List Char
  | '-' :: rest => (true, rest)
  | '+' :: rest => (false, rest)
  | text => (false, text)

/-- The power of ten that a text consists of; none for an empty text is zero. -/
def readPower? : List Char → Option Int
  | [] => some 0
  | e :: rest =>
    if e = 'e' ∨ e = 'E' then
      let (negative, digits) := readSign rest
      if digits.isEmpty || !digits.all Text.isAsciiDigit then none
      else
        let power : Int := Text.valueIn 10 digits
        some (if negative then -power else power)
    else none

/-- A number without sign that is written in digits. -/
def readDigits? (negative : Bool) (text : List Char) : Option Binary64 := do
  let whole := text.takeWhile Text.isAsciiDigit
  let rest := text.dropWhile Text.isAsciiDigit
  let (fraction, rest) := match rest with
    | '.' :: rest => (rest.takeWhile Text.isAsciiDigit, rest.dropWhile Text.isAsciiDigit)
    | rest => ([], rest)
  if whole.isEmpty && fraction.isEmpty then none
  let power ← readPower? rest
  some (.ofDecimal negative (Text.valueIn 10 (whole ++ fraction)) (power - fraction.length))

def ofText? (s : String) : Option Binary64 := do
  let text ← joinDigits? false ((Text.trimmed Text.isNumberBlank s.toList).map plainDigit)
  let (negative, body) := readSign text
  let word := String.ofList (body.map Char.toLower)
  if word = "inf" ∨ word = "infinity" then some (.infinite negative)
  else if word = "nan" then some .nan
  else readDigits? negative body

end Conductor.Binary64
