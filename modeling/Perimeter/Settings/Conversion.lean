import Perimeter.Decimal.Reader
import Perimeter.Decimal.Shortest
import Perimeter.Decoding.Reading
import Perimeter.Text.Case

/-!
Reading settings that are written in another form than their own: a number or a truth value where
a text is wanted, words and numbers for truth values, texts, fractions and truth values for whole
numbers. Nothing stands for a list or a record but itself.
-/

namespace Perimeter.Reading

/-- The text of a single value. -/
def convertedText? : Document → Option String
  | .text s => some s
  | .bool b => some (if b then "true" else "false")
  | .integer n => some (toString n)
  | .real x => some x.text
  | _ => none

/-- A truth value: a number counts as true unless it is zero. -/
def convertedTruth? : Document → Option Bool
  | .bool b => some b
  | .integer n => some (n != 0)
  | .real x => some !x.isZero
  | .text s =>
    let word := Text.lowerCase s
    if ["1", "true", "on", "yes"].contains word then some true
    else if ["0", "false", "off", "no"].contains word then some false
    else none
  | _ => none

/-- A whole number of 64 bits that a text stands for. -/
def wordNumber? (s : String) : Option Nat :=
  let word := Text.lowerCase s
  if ["true", "on", "yes"].contains word then some 1
  else if ["false", "off", "no"].contains word then some 0
  else (Decimal.nat64? s.toList).map UInt64.toNat

/-- A whole number below a bound: fractions are rounded, and what is out of bounds after a point
goes to the nearer bound. -/
def convertedNatural? (bound : Nat) : Document → Option Nat
  | .integer n => if 0 ≤ n ∧ n < bound then some n.toNat else none
  | .bool b => some (if b then 1 else 0)
  | .real x => some (x.clampRound (bound - 1))
  | .text s => (wordNumber? s).filter (· < bound)
  | _ => none

/-- Values in any form that stands for what is wanted. -/
def converting : Reading := ⟨convertedText?, convertedTruth?, convertedNatural?, true⟩

end Perimeter.Reading
