/-!
A place in a YAML text: what is left of it, and where in which line that starts. A text ends at its
first zero character; beyond the end every character reads as zero.
-/

namespace Perimeter.Yaml

/-- Spaces and tabulators. -/
def isSpacing (c : Char) : Bool := c == ' ' || c == '\t'

/-- Characters that end a line of a text that is read. -/
def isLineEnd (c : Char) : Bool := c == '\n' || c == '\r'

/-- The end of a line or of the text. -/
def isLineEndOrEnd (c : Char) : Bool := isLineEnd c || c == '\x00'

/-- Spacing, or the end of a line or of the text. -/
def isEdge (c : Char) : Bool := isSpacing c || isLineEndOrEnd c

/-- Indicators of lists and records between brackets. -/
def isFlowIndicator (c : Char) : Bool :=
  c == ',' || c == '[' || c == ']' || c == '\x7b' || c == '\x7d'

/-- Letters, digits, underscores and hyphens. -/
def isWordChar (c : Char) : Bool := c.isAlphanum || c == '_' || c == '-'

/-- A place in a text. -/
structure Cursor where
  rest : List Char
  /-- The number of characters in front. -/
  index : Nat
  line : Nat
  column : Nat
  /-- Only spacing stands in front on the same line. -/
  fresh : Bool
deriving DecidableEq, Repr

namespace Cursor

/-- The start of a text. -/
def ofList (cs : List Char) : Cursor := ⟨cs.takeWhile (· != '\x00'), 0, 0, 0, true⟩

/-- The character at a distance. -/
def ahead (c : Cursor) (n : Nat) : Char := (c.rest[n]?).getD '\x00'

/-- The next character. -/
def char (c : Cursor) : Char := c.rest.headD '\x00'

def atEnd (c : Cursor) : Bool := c.rest.isEmpty

/-- Past one character of content. -/
def step (c : Cursor) : Cursor :=
  { c with rest := c.rest.tail, index := c.index + 1, column := c.column + 1, fresh := false }

/-- Past one space or tabulator. -/
def stepSpacing (c : Cursor) : Cursor := { c.step with fresh := c.fresh }

/-- Past the end of a line, which may take two characters. -/
def stepLine (c : Cursor) : Cursor :=
  let width := match c.rest with
    | '\r' :: '\n' :: _ => 2
    | _ => 1
  ⟨c.rest.drop width, c.index + width, c.line + 1, 0, true⟩

/-- Past a number of characters of content. -/
def steps : Nat → Cursor → Cursor
  | 0, c => c
  | n + 1, c => steps n c.step

/-- Past characters with a property, with `move` for a single one; the characters come back. -/
def takeWhile (p : Char → Bool) (c : Cursor) : List Char × Cursor :=
  let taken := c.rest.takeWhile p
  (taken, c.steps taken.length)

/-- Past a comment. -/
def skipComment (c : Cursor) : Cursor := (c.takeWhile fun ch => !isLineEndOrEnd ch).2

/-- Past spaces and tabulators. -/
def skipSpacing (c : Cursor) : Cursor :=
  let taken := c.rest.takeWhile isSpacing
  { c with
    rest := c.rest.drop taken.length
    index := c.index + taken.length
    column := c.column + taken.length }

/-- Three hyphens or three points at the start of a line, with an edge behind. -/
def isDocumentMark (c : Cursor) : Bool :=
  c.column == 0 && isEdge (c.ahead 3) &&
    (['-', '-', '-'].isPrefixOf c.rest || ['.', '.', '.'].isPrefixOf c.rest)

/-- What stood between a token and the end of its line. -/
structure Trail where
  cursor : Cursor
  /-- There was a tabulator. -/
  tab : Bool
  /-- There was a space. -/
  space : Bool

/-- Past spacing and a comment, up to the end of the line or the next token. A comment needs
spacing in front. -/
def trail? (tabs : Bool) (c : Cursor) : Option Trail :=
  let taken := c.rest.takeWhile fun ch => ch == ' ' || (tabs && ch == '\t')
  let c := { c with
    rest := c.rest.drop taken.length
    index := c.index + taken.length
    column := c.column + taken.length }
  if c.char == '#' then
    if taken.isEmpty then none else some ⟨c.skipComment, taken.contains '\t', taken.contains ' '⟩
  else some ⟨c, taken.contains '\t', taken.contains ' '⟩

end Cursor

end Perimeter.Yaml
