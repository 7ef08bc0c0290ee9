import Perimeter.Text.Blank

/-!
Flags of regular expressions: how what follows them is read. A flag is a letter, which switches it
on, or behind a hyphen off.
-/

namespace Perimeter.Regex

/-- How an expression is read. -/
structure Flags where
  /-- Case does not matter. -/
  anyCase : Bool
  /-- Lines have starts and ends of their own. -/
  multiLine : Bool
  /-- The point stands for line ends as well. -/
  dotAll : Bool
  /-- Repetitions are greedy if a question mark follows. -/
  lazyFirst : Bool
  /-- Classes with a name go beyond ASCII. -/
  unicode : Bool
  /-- Carriage returns end lines as well. -/
  anyLine : Bool
  /-- White space and comments do not count. -/
  spaced : Bool
deriving DecidableEq, Repr

namespace Flags

/-- The flags at the start of an expression. -/
def initial : Flags := ⟨false, false, false, false, true, false, false⟩

/-- The flags with the one of a letter switched on or off. -/
def set? (flags : Flags) (letter : Char) (value : Bool) : Option Flags :=
  match letter with
  | 'i' => some { flags with anyCase := value }
  | 'm' => some { flags with multiLine := value }
  | 's' => some { flags with dotAll := value }
  | 'U' => some { flags with lazyFirst := value }
  | 'u' => some { flags with unicode := value }
  | 'R' => some { flags with anyLine := value }
  | 'x' => some { flags with spaced := value }
  | _ => none

/-- Reads letters and at most one hyphen up to a colon or a closing parenthesis, which comes back
with the text behind it. No letter may stand twice, and one has to stand behind the hyphen. `seen`
holds what has been read, the last character first. -/
def read? (flags : Flags) (seen : List Char) : List Char → Option (Flags × List Char)
  | [] => none
  | c :: cs =>
    if c == ':' || c == ')' then
      if seen.head? == some '-' || (c == ')' && seen.isEmpty) then none else some (flags, c :: cs)
    else if seen.contains c then none
    else if c == '-' then flags.read? (c :: seen) cs
    else do
      let flags ← flags.set? c (!seen.contains '-')
      flags.read? (c :: seen) cs

end Flags

/-- A text from the first character that counts, where white space and comments do not; a comment
runs from a number sign to the end of the line. -/
def skipFrom : (inComment : Bool) → List Char → List Char
  | _, [] => []
  | true, c :: cs => skipFrom (c != '\n') cs
  | false, c :: cs =>
    if Text.isBlank c then skipFrom false cs else if c == '#' then skipFrom true cs else c :: cs

/-- A text from the first character that counts. -/
def Flags.skip (flags : Flags) (cs : List Char) : List Char :=
  if flags.spaced then skipFrom false cs else cs

/-- What follows when a hyphen in a class is looked at: white space and the sign of a comment do not
count. -/
def Flags.peek? (flags : Flags) (cs : List Char) : Option Char :=
  if flags.spaced then
    match cs.dropWhile Text.isBlank with
    | '#' :: rest => (rest.dropWhile Text.isBlank).head?
    | rest => rest.head?
  else cs.head?

end Perimeter.Regex
