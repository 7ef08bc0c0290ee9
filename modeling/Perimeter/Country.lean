import Perimeter.Ascending
import Perimeter.Error

/-!
Countries by their two-letter code. Any two upper-case letters are taken; whether a country has
the code is not asked.
-/

namespace Perimeter

/-- A country code, by the positions of its two letters in the alphabet. -/
structure Country where
  first : Fin 26
  second : Fin 26
deriving DecidableEq, Repr

namespace Country

/-- The upper-case letter at a position of the alphabet. -/
def letter (n : Fin 26) : Char :=
  Char.ofNat ('A'.toNat + n.val)

/-- The position of an upper-case letter in the alphabet. -/
def position? (c : Char) : Option (Fin 26) :=
  if h : c.toNat - 'A'.toNat < 26 then
    if 'A'.toNat ≤ c.toNat then some ⟨c.toNat - 'A'.toNat, h⟩ else none
  else none

/-- The two letters of a code. -/
def text (c : Country) : String :=
  String.ofList [letter c.first, letter c.second]

/-- Alphabetical order. -/
def rank (c : Country) : Nat :=
  c.first.val * 26 + c.second.val

theorem rank_injective {a b : Country} (same : a.rank = b.rank) : a = b := by
  have := a.second.isLt
  have := b.second.isLt
  simp only [rank] at same
  have first : a.first = b.first := Fin.ext (by omega)
  have second : a.second = b.second := Fin.ext (by omega)
  cases a; cases b
  simp_all

instance : Ranked Country := ⟨rank, rank_injective⟩

/-- The failure to read a code. -/
def malformed (s : String) : Error :=
  .validation ("'" ++ s ++ "' is not a two-letter upper-case ISO country code")
    (some "allowed_country_codes")

/-- The country whose code a text is. -/
def ofText (s : String) : Except Error Country :=
  match s.toList with
  | [a, b] =>
    match position? a, position? b with
    | some first, some second => .ok ⟨first, second⟩
    | _, _ => .error (malformed s)
  | _ => .error (malformed s)

end Country

end Perimeter
