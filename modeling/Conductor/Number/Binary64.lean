/-!
Double precision numbers as exact values. A finite number is a mantissa times a power of two; a
decimal is rounded to the nearest one, a tie to the even mantissa.
-/

namespace Conductor

/-- A binary floating point number with 53 bits of precision. Finite numbers are kept with a
mantissa below `2 ^ 53` and an exponent from -1074 to 971, the mantissa as large as these allow.
-/
inductive Binary64 where
  | nan
  | infinite (negative : Bool)
  | finite (negative : Bool) (mantissa : Nat) (exponent : Int)
  deriving DecidableEq, Repr, Inhabited

namespace Binary64

def minExponent : Int := -1074

def maxExponent : Int := 971

def zero (negative : Bool) : Binary64 :=
  .finite negative 0 minExponent

/-- A power of a base as the pair of a numerator and a denominator. -/
def powRatio (base : Nat) (exponent : Int) : Nat × Nat :=
  if exponent < 0 then (1, Nat.pow base exponent.natAbs) else (Nat.pow base exponent.natAbs, 1)

/-- The quotient of two numbers rounded to the nearest whole number, a tie to the even one. -/
def divNearest (num den : Nat) : Nat :=
  let q := num / den
  let r := num % den
  if 2 * r < den then q
  else if den < 2 * r then q + 1
  else q + q % 2

/-- The finite number or infinity for a mantissa of at most `2 ^ 53`. -/
def ofRounded (negative : Bool) (mantissa : Nat) (exponent : Int) : Binary64 :=
  let (mantissa, exponent) :=
    if mantissa = Nat.pow 2 53 then (Nat.pow 2 52, exponent + 1) else (mantissa, exponent)
  if maxExponent < exponent then .infinite negative else .finite negative mantissa exponent

/-- The number nearest to the positive fraction `num / den`. -/
def ofRatio (negative : Bool) (num den : Nat) : Binary64 :=
  let size : Int := (Nat.log2 num : Int) - (Nat.log2 den : Int)
  let scaled (exponent : Int) : Nat × Nat :=
    let (up, down) := powRatio 2 exponent
    (num * down, den * up)
  let low := max minExponent (size - 53)
  let (n, d) := scaled low
  let exponent := if n / d < Nat.pow 2 53 then low else low + 1
  let (n, d) := scaled exponent
  ofRounded negative (divNearest n d) exponent

/-- The number nearest to `digits * 10 ^ scale`. Scales far outside the range of finite numbers
are decided without computing the power.
-/
def ofDecimal (negative : Bool) (digits : Nat) (scale : Int) : Binary64 :=
  if digits = 0 then zero negative
  else if 400 < scale then .infinite negative
  else if scale + (Nat.log2 digits / 3 + 2 : Nat) < -400 then zero negative
  else
    let (num, den) := powRatio 10 scale
    ofRatio negative (digits * num) den

def equalsInt (x : Binary64) (n : Int) : Bool :=
  match x with
  | .finite negative mantissa exponent =>
    let (num, den) := powRatio 2 exponent
    let signed : Int := if negative then -(mantissa : Int) else mantissa
    signed * num == n * den
  | _ => false

/-- Numeric equality: the zeros are equal, and no NaN equals anything. -/
def equals : Binary64 → Binary64 → Bool
  | .nan, _ => false
  | _, .nan => false
  | .finite _ 0 _, .finite _ 0 _ => true
  | x, y => x == y

end Binary64

end Conductor
