import Perimeter.Decimal.Binary64

/-!
The shortest decimal text of a floating-point number: the fewest digits that read back as the
number, of these the nearest to it, and no exponent however long the text becomes.
-/

namespace Perimeter.Binary64

/-- A decimal number `digits * 10 ^ exponent`. -/
structure Decimal where
  digits : Nat
  exponent : Int
deriving DecidableEq, Repr

/-- The interval of the values that round to a number, over a common denominator, and whether its
ends belong to it. -/
structure Interval where
  low : Nat
  value : Nat
  high : Nat
  den : Nat
  closed : Bool

/-- The values that round to `mantissa * 2 ^ exponent`. Below a power of two the neighbour is half
as far away. -/
def interval (mantissa : Nat) (exponent : Int) : Interval :=
  let below := if mantissa = leastFull ∧ minExponent < exponent then 1 else 2
  let (up, den) := magnitude 1 (exponent - 2)
  ⟨(4 * mantissa - below) * up, 4 * mantissa * up, (4 * mantissa + 2) * up, den,
    mantissa % 2 == 0⟩

/-- The number of digits of a quotient before the point; for a quotient below one, minus the number
of zeros behind it. -/
def pointPosition (num den : Nat) : Int :=
  if den ≤ num then (Nat.toDigits 10 (num / den)).length
  else
    -- `10 ^ zeros * num < den`, and one more factor of ten reaches `den`
    let zeros := (Nat.toDigits 10 ((den - 1) / num)).length - 1
    (-zeros : Int)

/-- Whether a decimal number lies in an interval. -/
def Interval.holds (i : Interval) (d : Decimal) : Bool :=
  let (n, m) := if d.exponent < 0 then (d.digits, Nat.pow 10 d.exponent.natAbs)
    else (d.digits * Nat.pow 10 d.exponent.natAbs, 1)
  let x := n * i.den
  if i.closed then i.low * m ≤ x && x ≤ i.high * m else i.low * m < x && x < i.high * m

/-- The neighbours of an interval's value on the grid of the multiples of `10 ^ exponent` that lie
in the interval, the nearer one first. -/
def Interval.candidates (i : Interval) (exponent : Int) : List Decimal :=
  let (n, m) := if exponent < 0 then (i.value * Nat.pow 10 exponent.natAbs, i.den)
    else (i.value, i.den * Nat.pow 10 exponent.natAbs)
  let below : Decimal := ⟨n / m, exponent⟩
  let above : Decimal := ⟨n / m + 1, exponent⟩
  let order := if 2 * (n % m) ≤ m then [below, above] else [above, below]
  order.filter i.holds

/-- The first candidate on ever finer grids. -/
def Interval.shortest (i : Interval) (exponent : Int) : Nat → Decimal
  | 0 => ⟨0, 0⟩
  | n + 1 =>
    match i.candidates exponent with
    | d :: _ => d
    | [] => i.shortest (exponent - 1) n

/-- The shortest decimal number that reads back as `mantissa * 2 ^ exponent`, which is not zero.
Seventeen digits always do. -/
def shortest (mantissa : Nat) (exponent : Int) : Decimal :=
  let i := interval mantissa exponent
  i.shortest (pointPosition i.value i.den - 1) 18

/-- The text of a decimal number, with a point only if there is a fraction. -/
def Decimal.text (d : Decimal) : List Char :=
  let ds := Nat.toDigits 10 d.digits
  if 0 ≤ d.exponent then ds ++ List.replicate d.exponent.natAbs '0'
  else
    let places := d.exponent.natAbs
    let padded := List.replicate (places + 1 - ds.length) '0' ++ ds
    let whole := padded.take (padded.length - places)
    let fraction := (padded.drop (padded.length - places)).reverse.dropWhile (· == '0')
    if fraction.isEmpty then whole else whole ++ '.' :: fraction.reverse

/-- The text of a number. -/
def text : Binary64 → String
  | nan => "NaN"
  | infinite false => "inf"
  | infinite true => "-inf"
  | finite s m e =>
    let digits := if m = 0 then ['0'] else (shortest m e).text
    String.ofList (if s then '-' :: digits else digits)

/-- The text of a number with a point, also where there is no fraction. -/
def pointed (x : Binary64) : String :=
  if x.text.toList.contains '.' then x.text else x.text ++ ".0"

end Perimeter.Binary64
