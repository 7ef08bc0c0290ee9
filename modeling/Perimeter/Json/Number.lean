import Perimeter.Decimal.Reader
import Perimeter.Document.Basic

/-!
Numbers of JSON texts. A number without fraction and exponent that fits into 64 bits is kept as it
is. Every other one becomes a floating-point number, from as many leading digits as fit into 64
bits and a multiplication or division by a power of ten, each step rounded; a number beyond the
largest one is refused.
-/

namespace Perimeter.Json

/-- The largest exponent of a power of ten that is itself a floating-point number. -/
def maxPower : Nat := 308

/-- The product of a number with a power of ten that is itself a floating-point number. -/
def raised (x : Binary64) (power : Nat) : Binary64 :=
  match Binary64.ofDecimal false 1 power with
  | .finite _ mantissa exponent =>
    let (num, den) := Binary64.magnitude mantissa exponent
    x.scaleUp num den
  | _ => x

/-- The quotient of a number and a power of ten that is itself a floating-point number. -/
def lowered (x : Binary64) (power : Nat) : Binary64 :=
  match Binary64.ofDecimal false 1 power with
  | .finite _ mantissa exponent =>
    let (num, den) := Binary64.magnitude mantissa exponent
    x.scaleDown num den
  | _ => x

/-- The number `significand * 10 ^ exponent` as far as single steps give it. Two divisions by the
largest power of ten leave nothing of a significand of 64 bits. -/
def fromParts (significand : Nat) (exponent : Int) : Option Binary64 :=
  let start := Binary64.ofNat significand
  let power := exponent.natAbs
  if significand = 0 then some start
  else if exponent < 0 then
    if power ≤ maxPower then some (lowered start power)
    else if power ≤ 2 * maxPower then some (lowered (lowered start maxPower) (power - maxPower))
    else some (Binary64.zero false)
  else if power ≤ maxPower then
    match raised start power with
    | .infinite _ => none
    | x => some x
  else none

/-- Appends digits to a significand while it fits into 64 bits; the digits left over come back. -/
def fill (significand : Nat) : List Nat → Nat × List Nat
  | [] => (significand, [])
  | d :: ds =>
    if 0x10000000000000000 ≤ significand * 10 + d then (significand, d :: ds)
    else fill (significand * 10 + d) ds

/-- The digits at the start of a text, and what follows them. -/
def digits : List Char → List Nat × List Char
  | [] => ([], [])
  | c :: cs =>
    match Decimal.digit? c with
    | some d => (digits cs).map (d :: ·) id
    | none => ([], c :: cs)

/-- The digits behind a point, if there is one; there is at least one digit then. -/
def fraction (cs : List Char) : Option (Option (List Nat) × List Char) :=
  match cs with
  | '.' :: rest =>
    match digits rest with
    | ([], _) => none
    | (ds, rest) => some (some ds, rest)
  | _ => some (none, cs)

/-- The exponent behind a number, if there is one; it has at least one digit then. -/
def exponent (cs : List Char) : Option (Option Int × List Char) :=
  match cs with
  | [] => some (none, cs)
  | c :: rest =>
    if c = 'e' ∨ c = 'E' then
      let (negative, rest) := Decimal.sign rest
      match digits rest with
      | ([], _) => none
      | (ds, rest) =>
        let n : Nat := ds.foldl (fun n d => n * 10 + d) 0
        some (some (if negative then -(n : Int) else n), rest)
    else some (none, cs)

/-- A whole number. A zero with a minus, and a number that does not fit into 64 bits with its sign,
is a floating-point number. -/
def whole (negative : Bool) (n : Nat) : Document :=
  if !negative then .integer n
  else if 0 < n ∧ n ≤ 0x8000000000000000 then .integer (-n)
  else .real (Binary64.ofNat n).neg

/-- A number with its sign, as a value. -/
def real (negative : Bool) (x : Binary64) : Document := .real (if negative then x.neg else x)

/-- A number at the start of a text, and what follows it. Superfluous zeros are refused. -/
def number (cs : List Char) : Option (Document × List Char) := do
  let (negative, cs) := match cs with
    | '-' :: rest => (true, rest)
    | _ => (false, cs)
  let (ds, cs) := digits cs
  if ds.isEmpty || (ds.head? == some 0 && 1 < ds.length) then none
  let (decimals, cs) ← fraction cs
  let (power, cs) ← exponent cs
  let (significand, dropped) := fill 0 ds
  match decimals, power, dropped with
  | none, none, [] => return (whole negative significand, cs)
  | _, _, _ =>
    let decimals := decimals.getD []
    let (significand, unused) := fill significand decimals
    let taken := decimals.length - unused.length
    let x ← fromParts significand (power.getD 0 + (dropped.length : Int) - (taken : Int))
    return (real negative x, cs)

end Perimeter.Json
