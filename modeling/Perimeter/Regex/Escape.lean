import Perimeter.Decimal.Reader
import Perimeter.Regex.Basic
import Perimeter.Regex.Flags
import Perimeter.Text.Code

/-!
Escapes in regular expressions: a backslash and what it makes of the character behind it.
-/

namespace Perimeter.Regex

/-- What a single sign of an expression stands for. -/
inductive Sign where
  | char (c : Char)
  | many (c : CharClass)
  | look (l : Look)
deriving DecidableEq, Repr

namespace Sign

/-- The number that hexadecimal digits make, with what follows them. -/
def hex? (flags : Flags) : (count code : Nat) → List Char → Option (Nat × List Char)
  | 0, code, cs => some (code, cs)
  | n + 1, code, cs =>
    match flags.skip cs with
    | [] => none
    | c :: rest => do
      let digit ← Decimal.digitOf? 16 c
      hex? flags n (code * 16 + digit) rest

/-- A character given by the digits of its code. Where classes keep to ASCII, two digits may not
lead beyond it. -/
def coded? (flags : Flags) (count : Nat) (cs : List Char) : Option (Sign × List Char) := do
  let (code, rest) ← hex? flags count 0 cs
  if count == 2 && !flags.unicode && 0x80 ≤ code then none
  return (char (← Text.charOfCode? code), rest)

/-- A set of characters or, where it is negated, all others; beyond ASCII only where classes go
there. -/
def negatedIf (flags : Flags) (negated : Bool) (c : CharClass) : Option CharClass :=
  if !negated then some c else if flags.unicode then some (.complement c) else none

/-- A set of characters, and all that differ from them in case only where case does not matter. -/
def folded (flags : Flags) (c : CharClass) : CharClass :=
  if !flags.anyCase then c else if flags.unicode then .anyCase c else .anyLatinCase c

/-- The category that a letter in either case names. -/
def category? (letter : Char) : Option Text.Category :=
  match letter.toLower with
  | 'l' => some .letter
  | 'm' => some .mark
  | 'n' => some .number
  | 'p' => some .punctuation
  | 's' => some .symbol
  | 'z' => some .separator
  | 'c' => some .other
  | _ => none

/-- The class of a category with a name of one letter. -/
def named? (flags : Flags) (negated : Bool) (cs : List Char) : Option (Sign × List Char) :=
  match flags.skip cs with
  | [] => none
  | c :: rest => do
    if !flags.unicode then none
    let k ← category? c
    return (many (← negatedIf flags negated (folded flags (.category k))), rest)

/-- The white space of ASCII. -/
def asciiBlank : CharClass := .union (.range '\t' '\r') (.single ' ')

/-- The letters and digits of ASCII and the underscore. -/
def asciiWord : CharClass :=
  .unions [.range '0' '9', .range 'A' 'Z', .single '_', .range 'a' 'z']

/-- The class of digits, white space or parts of words that a letter stands for. -/
def common? (flags : Flags) (letter : Char) : Option CharClass :=
  match letter, flags.unicode with
  | 'd', true => some .digit
  | 's', true => some .blank
  | 'w', true => some .wordPart
  | 'd', false => some (.range '0' '9')
  | 's', false => some asciiBlank
  | 'w', false => some asciiWord
  | _, _ => none

/-- The edge of a word that a letter stands for. -/
def edge? (letter : Char) : Option Look :=
  match letter with
  | 'b' => some .wordEdge
  | 'B' => some .noWordEdge
  | '<' => some .wordStart
  | '>' => some .wordEnd
  | _ => none

/-- The place in a text that a letter stands for. Edges of words are known in ASCII only. -/
def place? (flags : Flags) (letter : Char) : Option Look :=
  match letter with
  | 'A' => some .textStart
  | 'z' => some .textEnd
  | _ => if flags.unicode then none else edge? letter

/-- The control characters with letters of their own. -/
def controls : List (Char × Char) :=
  [('a', '\x07'), ('f', '\x0c'), ('t', '\t'), ('n', '\n'), ('r', '\r'), ('v', '\x0b')]

/-- Whether a character stands for itself behind a backslash. -/
def isLiteral (c : Char) : Bool :=
  c.toNat < 0x80 && !c.isAlphanum && c != '<' && c != '>'

/-- What a letter behind a backslash stands for. -/
def letter? (flags : Flags) (c : Char) : Option Sign :=
  if isLiteral c then some (char c)
  else
    match controls.lookup c, common? flags c, common? flags c.toLower with
    | some control, _, _ => some (char control)
    | none, some k, _ => some (many k)
    | none, none, some k => (negatedIf flags true k).map many
    | none, none, none => (place? flags c).map look

/-- What stands behind a backslash. -/
def escape? (flags : Flags) : List Char → Option (Sign × List Char)
  | [] => none
  | 'x' :: cs => coded? flags 2 cs
  | 'u' :: cs => coded? flags 4 cs
  | 'U' :: cs => coded? flags 8 cs
  | 'p' :: cs => named? flags false cs
  | 'P' :: cs => named? flags true cs
  | c :: cs => (letter? flags c).map fun sign => (sign, cs)

end Sign

end Perimeter.Regex
