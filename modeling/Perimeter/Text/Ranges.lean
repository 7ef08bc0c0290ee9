/-!
Sets of characters as lists of ranges.
-/

namespace Perimeter.Text

/-- Ranges of characters by their codes, both ends included. -/
abbrev Ranges := List (Nat × Nat)

namespace Ranges

/-- Whether a character is in one of the ranges. -/
def contains (rs : Ranges) (c : Char) : Bool :=
  rs.any fun (first, last) => first ≤ c.toNat && c.toNat ≤ last

/-- A character is in the ranges of two lists together if it is in those of one of them. -/
theorem contains_append (rs ss : Ranges) (c : Char) :
    contains (rs ++ ss) c = (contains rs c || contains ss c) :=
  List.any_append

end Ranges

end Perimeter.Text
