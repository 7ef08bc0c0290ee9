import Perimeter.Decimal.Binary64
import Perimeter.Text.Case

/-!
Reading whole and decimal numbers from texts. A decimal number has a sign, digits with at most one
point among or next to them, and an exponent; the words for infinity and for what is not a number
are read in any case.
-/

namespace Perimeter.Decimal

/-- The value of a digit. -/
def digit? (c : Char) : Option Nat :=
  if '0' ≤ c ∧ c ≤ '9' then some (c.toNat - '0'.toNat) else none

/-- The value of a digit to a base of up to sixteen. -/
def digitOf? (base : Nat) (c : Char) : Option Nat :=
  let n :=
    if '0' ≤ c ∧ c ≤ '9' then c.toNat - '0'.toNat
    else if 'a' ≤ c ∧ c ≤ 'f' then c.toNat - 'a'.toNat + 10
    else if 'A' ≤ c ∧ c ≤ 'F' then c.toNat - 'A'.toNat + 10
    else base
  if n < base then some n else none

/-- The number that a text of digits to a base stands for; there is at least one digit. -/
def natural? (base : Nat) (cs : List Char) : Option Nat :=
  if cs.isEmpty then none
  else cs.foldlM (fun n c => (digitOf? base c).map fun d => n * base + d) 0

/-- A sign, if there is one, and the rest. -/
def sign (cs : List Char) : Bool × List Char :=
  match cs with
  | '-' :: rest => (true, rest)
  | '+' :: rest => (false, rest)
  | _ => (false, cs)

/-- A whole number to a base with an optional sign, between two bounds. -/
def integer? (base : Nat) (low high : Int) (cs : List Char) : Option Int := do
  let (negative, rest) := sign cs
  let n ← natural? base rest
  let n : Int := if negative then -n else n
  if low ≤ n ∧ n ≤ high then some n else none

/-- A whole number of 64 bits with a sign. -/
def int64? (cs : List Char) : Option Int := integer? 10 (-0x8000000000000000) 0x7FFFFFFFFFFFFFFF cs

/-- A whole number of 64 bits, which may carry a plus. -/
def nat64? (cs : List Char) : Option UInt64 := do
  let rest := match cs with
    | '+' :: rest => rest
    | _ => cs
  let n ← natural? 10 rest
  if n < 0x10000000000000000 then some (UInt64.ofNat n) else none

/-- The exponent behind the digits: nothing, or a letter, an optional sign and digits. -/
def exponent? (cs : List Char) : Option Int :=
  match cs with
  | [] => some 0
  | c :: rest =>
    if c = 'e' ∨ c = 'E' then do
      let (negative, digits) := sign rest
      let n ← natural? 10 digits
      return if negative then -n else n
    else none

/-- An unsigned decimal number: its digits, and the power of ten that they are multiplied with. -/
def unsigned? (cs : List Char) : Option (Nat × Int) := do
  let isDigit : Char → Bool := fun c => (digit? c).isSome
  let whole := cs.takeWhile isDigit
  let rest := cs.dropWhile isDigit
  let (fraction, rest) := match rest with
    | '.' :: rest => (rest.takeWhile isDigit, rest.dropWhile isDigit)
    | _ => ([], rest)
  let digits ← natural? 10 (whole ++ fraction)
  let exponent ← exponent? rest
  return (digits, exponent - fraction.length)

/-- A floating-point number. -/
def float? (cs : List Char) : Option Binary64 :=
  let (negative, rest) := sign cs
  match String.ofList (rest.map Char.toLower) with
  | "inf" => some (.infinite negative)
  | "infinity" => some (.infinite negative)
  | "nan" => some .nan
  | _ => (unsigned? rest).map fun (digits, exponent) => .ofDecimal negative digits exponent

end Perimeter.Decimal
