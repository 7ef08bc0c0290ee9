/-!
Floating-point numbers of 64 bits, as exact values. Rounding a quotient gives the nearest number,
and of two nearest ones the one with an even mantissa (`Binary64.ofRatio`).
-/

namespace Perimeter

/-- A floating-point number of 64 bits. -/
inductive Binary64 where
  | nan
  | infinite (negative : Bool)
  /-- The number `mantissa * 2 ^ exponent`, with its sign. -/
  | finite (negative : Bool) (mantissa : Nat) (exponent : Int)
deriving DecidableEq, Repr

namespace Binary64

/-- The exponent of the numbers nearest to zero. -/
def minExponent : Int := -1074

/-- The exponent of the largest numbers. -/
def maxExponent : Int := 971

/-- The least mantissa of 53 bits. -/
def leastFull : Nat := 0x10000000000000

/-- Zero with a sign. -/
def zero (negative : Bool) : Binary64 := finite negative 0 minExponent

/-- The quotient of two numbers, rounded to the nearest whole number, and to the even one of two
nearest. -/
def roundEven (num den : Nat) : Nat :=
  let q := num / den
  let r := num % den
  if den < 2 * r || (2 * r == den && q % 2 == 1) then q + 1 else q

/-- The quotient `num / den`, divided by a power of two, as a quotient. -/
def scale (num den : Nat) (exponent : Int) : Nat × Nat :=
  if exponent < 0 then (num <<< exponent.natAbs, den) else (num, den <<< exponent.natAbs)

/-- The exponent at which a quotient has a mantissa of 53 bits, or the least one if that is too
small. -/
def exponentFor (num den : Nat) : Int :=
  let guess := max minExponent ((Nat.log2 num : Int) - Nat.log2 den - 53)
  let (n, d) := scale num den guess
  if n / d < 2 * leastFull then guess else guess + 1

/-- The number nearest to `num / den`; `den` is not zero. -/
def ofRatio (negative : Bool) (num den : Nat) : Binary64 :=
  if num = 0 then zero negative
  else
    let exponent := exponentFor num den
    let (n, d) := scale num den exponent
    let mantissa := roundEven n d
    let (mantissa, exponent) :=
      if mantissa = 2 * leastFull then (leastFull, exponent + 1) else (mantissa, exponent)
    if maxExponent < exponent then infinite negative else finite negative mantissa exponent

/-- The number nearest to a whole number. -/
def ofNat (n : Nat) : Binary64 := ofRatio false n 1

/-- The number nearest to `digits * 10 ^ exponent`. Numbers far outside the range are settled by
the number of digits alone. -/
def ofDecimal (negative : Bool) (digits : Nat) (exponent : Int) : Binary64 :=
  if digits = 0 then zero negative
  else
    let magnitude := exponent + (Nat.toDigits 10 digits).length
    if 400 < magnitude then infinite negative
    else if magnitude < -400 then zero negative
    else if exponent < 0 then ofRatio negative digits (Nat.pow 10 exponent.natAbs)
    else ofRatio negative (digits * Nat.pow 10 exponent.natAbs) 1

/-- The number with the opposite sign. -/
def neg : Binary64 → Binary64
  | nan => nan
  | infinite s => infinite (!s)
  | finite s m e => finite (!s) m e

/-- Whether a number is a zero of either sign. -/
def isZero : Binary64 → Bool
  | finite _ m _ => m == 0
  | _ => false

/-- The magnitude of a finite number as a quotient. -/
def magnitude (mantissa : Nat) (exponent : Int) : Nat × Nat :=
  if exponent < 0 then (mantissa, 1 <<< exponent.natAbs) else (mantissa <<< exponent.natAbs, 1)

/-- The product of a finite number with another one, rounded. -/
def scaleUp (x : Binary64) (num den : Nat) : Binary64 :=
  match x with
  | finite s m e =>
    let (n, d) := magnitude m e
    ofRatio s (n * num) (d * den)
  | x => x

/-- The quotient of a finite number and another one that is not zero, rounded. -/
def scaleDown (x : Binary64) (num den : Nat) : Binary64 := scaleUp x den num

/-- The nearest whole number of magnitude, a half going up. -/
def roundMagnitude (mantissa : Nat) (exponent : Int) : Nat :=
  let (n, d) := magnitude mantissa exponent
  (2 * n + d) / (2 * d)

/-- The nearest whole number from zero to a bound, a half going up. What is not a number counts as
zero. -/
def clampRound (bound : Nat) : Binary64 → Nat
  | nan => 0
  | infinite true => 0
  | infinite false => bound
  | finite true _ _ => 0
  | finite false m e => min bound (roundMagnitude m e)

end Binary64

end Perimeter
