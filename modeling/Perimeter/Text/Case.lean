/-!
Lower case, as far as it can meet a text in the basic Latin letters: those letters themselves, and
the Kelvin sign, which is the one other character whose lower case is a single such letter.
-/

namespace Perimeter.Text

/-- The lower case of a character among the basic Latin letters and the Kelvin sign. -/
def lowerChar (c : Char) : Char :=
  if c = '\u212A' then 'k' else c.toLower

/-- A text with its basic Latin letters in lower case. -/
def lower (cs : List Char) : List Char :=
  cs.map lowerChar

/-- A string with its basic Latin letters in lower case. -/
def lowerCase (s : String) : String :=
  String.ofList (lower s.toList)

end Perimeter.Text
