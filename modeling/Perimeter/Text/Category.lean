import Perimeter.Text.Combining
import Perimeter.Text.Letter
import Perimeter.Text.Numeral
import Perimeter.Text.Sign

/-!
General categories of characters, and the properties that are made of them. A character that is not
assigned belongs to `other`.
-/

namespace Perimeter.Text

/-- The general categories of Unicode. -/
inductive Category where
  | letter
  | mark
  | number
  | punctuation
  | symbol
  | separator
  /-- Controls, and what is not assigned to a character. -/
  | other
deriving DecidableEq, Repr

/-- Whether a character belongs to a category. -/
def Category.contains : Category → Char → Bool
  | letter, c => letters.contains c
  | mark, c => marks.contains c
  | number, c => numbers.contains c
  | punctuation, c => Text.punctuation.contains c
  | symbol, c => symbols.contains c
  | separator, c => separators.contains c
  | other, c =>
    !(letters.contains c || marks.contains c || numbers.contains c || Text.punctuation.contains c
      || symbols.contains c || separators.contains c)

/-- Whether a character is alphabetic: a letter, or a mark, number or symbol that counts as one. -/
def isAlphabetic (c : Char) : Bool :=
  letters.contains c || alphabeticMarks.contains c || letterNumbers.contains c
    || alphabeticSymbols.contains c

/-- Whether a character is a letter or a number. -/
def isAlphanumeric (c : Char) : Bool :=
  if c.toNat < 0x80 then c.isAlphanum else isAlphabetic c || numbers.contains c

/-- Whether a character is part of a word: alphabetic, a mark, a digit, a connector, or one of the
two invisible characters that join letters or keep them apart. -/
def isWordPart (c : Char) : Bool :=
  isAlphabetic c || otherMarks.contains c || digits.contains c || connectors.contains c
    || c == '\u200C' || c == '\u200D'

end Perimeter.Text
