import Conductor.Number.Binary64

/-!
Decimal text of double precision numbers. A finite number is written with the fewest digits that
read back as the same number, and among those the nearest to it.
-/

namespace Conductor.Binary64

/-- The number of digits before the point of the positive `num / den`: the least `p` from
`guess` upward with `num / den < 10 ^ p`, tried a few times.
-/
def magnitude (num den : Nat) (guess : Int) : Nat → Int
  | 0 => guess
  | tries + 1 =>
    let (up, down) := powRatio 10 guess
    if num * down < den * up then guess else magnitude num den (guess + 1) tries

/-- The interval of fractions that round to a finite number, and the number itself, in quarters
of its last place: the place is halved below the numbers that start a power of two.
-/
def quarters (mantissa : Nat) (exponent : Int) : Nat × Nat × Nat :=
  let low :=
    if mantissa = Nat.pow 2 52 ∧ minExponent < exponent then 4 * mantissa - 1 else 4 * mantissa - 2
  (low, 4 * mantissa, 4 * mantissa + 2)

/-- The digits of a grid that read back as `mantissa * 2 ^ exponent`: of the two neighbours on
the grid that do, the nearer one, a tie to the even digit.
-/
def gridDigits? (mantissa : Nat) (exponent : Int) (scale : Int) : Option Nat :=
  let (low, here, high) := quarters mantissa exponent
  let (up, down) := powRatio 2 (exponent - 2)
  let (gridUp, gridDown) := powRatio 10 scale
  let unit := up * gridDown
  let step := down * gridUp
  let below := here * unit / step
  let closed := mantissa % 2 == 0
  let lowHit := if closed then low * unit ≤ below * step else low * unit < below * step
  let highHit :=
    if closed then (below + 1) * step ≤ high * unit else (below + 1) * step < high * unit
  if lowHit && highHit then
    let twice := 2 * here * unit
    let middle := (2 * below + 1) * step
    if twice < middle then some below
    else if middle < twice then some (below + 1)
    else some (below + below % 2)
  else if lowHit then some below
  else if highHit then some (below + 1)
  else none

/-- A digit list and its scale without trailing zeros. -/
def dropZeros : List Char → Int → List Char × Int
  | '0' :: rest, scale => dropZeros rest (scale + 1)
  | reversed, scale => (reversed.reverse, scale)

/-- The shortest digits of a positive finite number, with the place of the point counted from
their start.
-/
def shortestDigits (mantissa : Nat) (exponent : Int) : List Char × Int :=
  let size : Int := (Nat.log2 mantissa : Int) + exponent
  let (up, down) := powRatio 2 exponent
  let place := magnitude (mantissa * up) down (size * 30103 / 100000 - 1) 5
  let found := (List.range 17).findSome? fun count =>
    let scale := place - (count + 1 : Nat)
    (gridDigits? mantissa exponent scale).map fun digits => (digits, scale)
  let (digits, scale) := found.getD (0, 0)
  let (kept, scale) := dropZeros (Nat.toDigits 10 digits).reverse scale
  (kept, kept.length + scale)

/-- The exponents of ten, from the first to before the second, that are written with a point in
place; all others are written with an exponent.
-/
def pointExponents : Int × Int := (-4, 16)

/-- Digits with the point at the given place. -/
def positional (digits : List Char) (point : Int) : String :=
  if point ≤ 0 then
    String.ofList ("0.".toList ++ List.replicate point.natAbs '0' ++ digits)
  else if digits.length ≤ point then
    String.ofList (digits ++ List.replicate (point.toNat - digits.length) '0' ++ ".0".toList)
  else
    String.ofList (digits.take point.toNat ++ '.' :: digits.drop point.toNat)

/-- Digits with the point after the first one and an exponent of at least two digits. -/
def scientific (digits : List Char) (exponent : Int) : String :=
  let tail := if digits.length ≤ 1 then [] else '.' :: digits.drop 1
  let power := Nat.toDigits 10 exponent.natAbs
  let padded := List.replicate (2 - power.length) '0' ++ power
  let sign := if exponent < 0 then '-' else '+'
  String.ofList (digits.take 1 ++ tail ++ 'e' :: sign :: padded)

def text : Binary64 → String
  | .nan => "nan"
  | .infinite negative => if negative then "-inf" else "inf"
  | .finite negative mantissa exponent =>
    let sign := if negative then "-" else ""
    if mantissa = 0 then sign ++ "0.0"
    else
      let (digits, point) := shortestDigits mantissa exponent
      let power := point - 1
      if pointExponents.1 ≤ power && power < pointExponents.2 then
        sign ++ positional digits point
      else
        sign ++ scientific digits power

end Conductor.Binary64
