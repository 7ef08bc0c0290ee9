import Perimeter.Decimal.Reader
import Perimeter.Text.Code
import Perimeter.Yaml.Cursor

/-!
Scalars of YAML texts: without quotes, between single or double quotes, and as blocks of lines.
Lines of a scalar are folded: a single line end reads as a space, and of several ones the first is
dropped. Every reader returns the text and the place behind it.
-/

namespace Perimeter.Yaml.Scalar

/-- What stands between two words of a scalar. -/
inductive Gap where
  | spacing (blanks : List Char)
  /-- Line ends; `joined` says that the first one was escaped, `more` counts those behind it. -/
  | lines (joined : Bool) (more : Nat)
deriving DecidableEq, Repr

/-- The text that a gap reads as. -/
def Gap.text : Gap → List Char
  | spacing blanks => blanks
  | lines joined more =>
    if joined || 0 < more then List.replicate more '\n' else [' ']

/-! ## Plain scalars -/

/-- Whether a character belongs to a plain scalar, by itself and the one behind it. -/
def isPlain (flow : Bool) (ch behind : Char) : Bool :=
  if ch == ':' then !(isEdge behind || (flow && isFlowIndicator behind))
  else !(flow && isFlowIndicator ch)

/-- Characters of a plain scalar up to the next edge. -/
def plainWord (flow : Bool) : List Char → List Char
  | [] => []
  | ch :: rest =>
    if isEdge ch || !isPlain flow ch (rest.headD '\x00') then [] else ch :: plainWord flow rest

/-- The gap in front of the next word of a plain scalar. A tabulator may not take the place of
indentation, unless nothing follows it on its line. -/
def plainGap (indent : Int) : (fuel : Nat) → Gap → Cursor → Option (Gap × Cursor)
  | 0, gap, c => some (gap, c)
  | fuel + 1, gap, c =>
    if isSpacing c.char then
      match gap with
      | .spacing blanks => plainGap indent fuel (.spacing (blanks ++ [c.char])) c.stepSpacing
      | .lines .. =>
        if c.column < indent && c.char == '\t' then do
          let trail ← c.trail? true
          if isLineEndOrEnd trail.cursor.char then plainGap indent fuel gap trail.cursor else none
        else plainGap indent fuel gap c.stepSpacing
    else if isLineEnd c.char then
      match gap with
      | .spacing _ => plainGap indent fuel (.lines false 0) c.stepLine
      | .lines joined more => plainGap indent fuel (.lines joined (more + 1)) c.stepLine
    else some (gap, c)

/-- The words of a plain scalar behind a gap. -/
def plainWords (flow : Bool) (indent : Int) : (fuel : Nat) → Gap → Cursor →
    Option (List Char × Cursor)
  | 0, _, c => some ([], c)
  | fuel + 1, gap, c =>
    if c.isDocumentMark || c.char == '#' then some ([], c)
    else if flow && c.char == '-' && isFlowIndicator (c.ahead 1) then none
    else
      let word := plainWord flow c.rest
      let shown := if word.isEmpty then [] else gap.text ++ word
      let c := c.steps word.length
      if !(isSpacing c.char || isLineEnd c.char) then some (shown, c)
      else do
        let (gap, c) ← plainGap indent (c.rest.length + 1) (.spacing []) c
        if !flow && c.column < indent then some (shown, c)
        else
          let (more, c) ← plainWords flow indent fuel gap c
          return (shown ++ more, c)

/-- A plain scalar whose lines stand at the given column or behind it. -/
def plain? (flow : Bool) (indent : Int) (c : Cursor) : Option (String × Cursor) := do
  if flow && c.column < indent then none
  let (cs, c) ← plainWords flow indent (c.rest.length + 1) (.spacing []) c
  return (String.ofList cs, c)

/-! ## Quoted scalars -/

/-- The characters that stand for others behind a backslash. -/
def escapes : List (Char × Char) := [
  ('0', '\x00'), ('a', '\x07'), ('b', '\x08'), ('t', '\t'), ('\t', '\t'), ('n', '\n'),
  ('v', '\x0b'), ('f', '\x0c'), ('r', '\r'), ('e', '\x1b'), (' ', ' '), ('\x22', '\x22'),
  ('/', '/'), ('\\', '\\'), ('N', '\u0085'), ('_', '\u00a0'), ('L', '\u2028'), ('P', '\u2029')]

/-- The number of hexadecimal digits behind a backslash and a letter. -/
def codeLength : Char → Option Nat
  | 'x' => some 2
  | 'u' => some 4
  | 'U' => some 8
  | _ => none

/-- The character that an escape stands for, and the length of the escape behind the backslash. -/
def escape? (cs : List Char) : Option (Char × Nat) :=
  match cs with
  | [] => none
  | letter :: rest =>
    match escapes.lookup letter, codeLength letter with
    | some ch, _ => some (ch, 1)
    | none, some n => do
      if rest.length < n then none
      let code ← Decimal.natural? 16 (rest.take n)
      return (← Text.charOfCode? code, n + 1)
    | none, none => none

/-- Characters between quotes up to the next edge or the closing quote; an escaped line end comes
back as a gap. -/
def quotedWord (single : Bool) : (fuel : Nat) → Cursor → Option (List Char × Option Gap × Cursor)
  | 0, c => some ([], none, c)
  | fuel + 1, c =>
    if isEdge c.char then some ([], none, c)
    else if single then
      if c.char == '\x27' then
        if c.ahead 1 == '\x27' then do
          let (cs, gap, c) ← quotedWord single fuel (c.steps 2)
          return ('\x27' :: cs, gap, c)
        else some ([], none, c)
      else do
        let (cs, gap, next) ← quotedWord single fuel c.step
        return (c.char :: cs, gap, next)
    else if c.char == '\x22' then some ([], none, c)
    else if c.char == '\\' then
      if isLineEnd (c.ahead 1) then some ([], some (.lines true 0), c.step.stepLine)
      else do
        let (ch, length) ← escape? c.rest.tail
        let (cs, gap, c) ← quotedWord single fuel (c.steps (length + 1))
        return (ch :: cs, gap, c)
    else do
      let (cs, gap, next) ← quotedWord single fuel c.step
      return (c.char :: cs, gap, next)

/-- The gap in front of the next word between quotes. A tabulator may not take the place of
indentation. -/
def quotedGap (indent : Int) : (fuel : Nat) → Gap → Cursor → Option (Gap × Cursor)
  | 0, gap, c => some (gap, c)
  | fuel + 1, gap, c =>
    if isSpacing c.char then
      match gap with
      | .spacing blanks => quotedGap indent fuel (.spacing (blanks ++ [c.char])) c.stepSpacing
      | .lines .. =>
        if c.char == '\t' && c.column < indent then none
        else quotedGap indent fuel gap c.stepSpacing
    else if isLineEnd c.char then
      match gap with
      | .spacing _ => quotedGap indent fuel (.lines false 0) c.stepLine
      | .lines joined more => quotedGap indent fuel (.lines joined (more + 1)) c.stepLine
    else some (gap, c)

/-- The words and gaps between quotes up to the closing quote. Lines may not start before the
indentation, nor be marks of a document. -/
def quotedBody (single : Bool) (indent : Int) : (fuel : Nat) → Cursor →
    Option (List Char × Cursor)
  | 0, _ => none
  | fuel + 1, c => do
    if c.isDocumentMark || c.atEnd || c.column < indent then none
    let (word, escaped, c) ← quotedWord single (c.rest.length + 1) c
    if c.char == (if single then '\x27' else '\x22') then return (word, c)
    let (gap, c) ← quotedGap indent (c.rest.length + 1) (escaped.getD (.spacing [])) c
    let (more, c) ← quotedBody single indent fuel c
    return (word ++ gap.text ++ more, c)

/-- A quoted scalar, whose opening quote is next. -/
def quoted? (single : Bool) (indent : Int) (c : Cursor) : Option (String × Cursor) := do
  let (cs, c) ← quotedBody single indent (c.rest.length + 1) c.step
  return (String.ofList cs, c.step)

/-! ## Blocks of lines -/

/-- What becomes of the line ends at the end of a block. -/
inductive Ending where
  | clip
  | strip
  | keep
deriving DecidableEq, Repr

/-- The head of a block: what becomes of its ending, and the digit of its indentation if there is
one. -/
structure Head where
  ending : Ending
  digit : Option Nat
deriving DecidableEq, Repr

/-- A sign for the ending. -/
def ending? : Char → Option Ending
  | '+' => some .keep
  | '-' => some .strip
  | _ => none

/-- A digit of the indentation, which is not zero. -/
def digit? (c : Cursor) : Option (Option Nat × Cursor) :=
  match Decimal.digit? c.char with
  | some 0 => none
  | some n => some (some n, c.step)
  | none => some (none, c)

/-- The head of a block behind its first character: a sign and a digit in either order. -/
def head? (c : Cursor) : Option (Head × Cursor) :=
  match ending? c.char with
  | some ending => do
    let (digit, c) ← digit? c.step
    return (⟨ending, digit⟩, c)
  | none => do
    let (digit, c) ← digit? c
    match digit, ending? c.char with
    | some _, some ending => return (⟨ending, digit⟩, c.step)
    | _, _ => return (⟨.clip, digit⟩, c)

/-- Past empty lines and the indentation of the next line; empty lines are counted. -/
def skipIndent (indent : Nat) : (fuel : Nat) → Nat → Cursor → Nat × Cursor
  | 0, lines, c => (lines, c)
  | fuel + 1, lines, c =>
    if c.char == ' ' && c.column < indent then skipIndent indent fuel lines c.stepSpacing
    else if isLineEnd c.char then skipIndent indent fuel (lines + 1) c.stepLine
    else (lines, c)

/-- Past empty lines and the spaces of the first line with content; the empty lines are counted,
and the longest run of spaces is measured. -/
def firstIndent : (fuel : Nat) → (lines longest : Nat) → Cursor → Nat × Nat × Cursor
  | 0, lines, longest, c => (lines, longest, c)
  | fuel + 1, lines, longest, c =>
    if c.char == ' ' then firstIndent fuel lines longest c.stepSpacing
    else
      let longest := max longest c.column
      if isLineEnd c.char then firstIndent fuel (lines + 1) longest c.stepLine
      else (lines, longest, c)

/-- How the lines of a block are read. -/
structure Layout where
  literal : Bool
  ending : Ending
  indent : Nat

/-- What has been read of a block. -/
structure Lines where
  text : List Char
  /-- Whether the last line had an end. -/
  ended : Bool
  /-- Whether the last line started with spacing. -/
  spaced : Bool
  /-- The empty lines behind it. -/
  empty : Nat

/-- What stands between a line and the next one. -/
def Lines.separator (literal : Bool) (ls : Lines) (spaced : Bool) : List Char :=
  if !literal && ls.ended && !ls.spaced && !spaced then
    if ls.empty = 0 then [' '] else List.replicate ls.empty '\n'
  else (if ls.ended then ['\n'] else []) ++ List.replicate ls.empty '\n'

/-- The lines of a block with content. -/
def blockLines (layout : Layout) : (fuel : Nat) → Lines → Cursor → Lines × Cursor
  | 0, ls, c => (ls, c)
  | fuel + 1, ls, c =>
    if c.column != layout.indent || c.atEnd || (layout.indent == 0 && c.isDocumentMark) then (ls, c)
    else
      let spaced := isSpacing c.char
      let (line, c) := c.takeWhile fun ch => !isLineEndOrEnd ch
      let text := ls.text ++ ls.separator layout.literal spaced ++ line
      if c.atEnd then (⟨text, false, spaced, 0⟩, c)
      else
        let c := c.stepLine
        let (empty, c) := skipIndent layout.indent (c.rest.length + 1) 0 c
        blockLines layout fuel ⟨text, true, spaced, empty⟩ c

/-- The text of a block of which all lines have been read. A last line that reaches the end of the
text counts as ended if it is indented. -/
def Lines.close (layout : Layout) (ls : Lines) (c : Cursor) : List Char :=
  let ended := if ls.ended then ['\n'] else []
  let last := if c.atEnd && max layout.indent 1 ≤ c.column then ['\n'] else []
  let empty := List.replicate ls.empty '\n'
  match layout.ending with
  | .strip => ls.text
  | .clip => ls.text ++ ended ++ last
  | .keep => ls.text ++ ended ++ last ++ empty

/-- The text of a block without any line of content. -/
def emptyBlock (ending : Ending) (sameLine : Bool) (ended : Bool) (lines : Nat) : List Char :=
  let first := if ended then ['\n'] else []
  match ending with
  | .strip => []
  | .clip => if sameLine then [] else first
  | .keep =>
    if sameLine then [] else if lines = 0 then first else List.replicate lines '\n'

/-- A block of lines, whose first character is next; `outer` is the indentation around it. -/
def block? (literal : Bool) (outer : Int) (start : Cursor) : Option (String × Cursor) := do
  let (head, c) ← head? start.step
  let trail ← c.trail? true
  let c := trail.cursor
  if !isLineEndOrEnd c.char then none
  let ended := isLineEnd c.char
  let c := if ended then c.stepLine else c
  if c.char == '\t' then none
  let (lines, indent, c) := match head.digit with
    | some n =>
      let indent := if 0 ≤ outer then outer.toNat + n else n
      let (lines, c) := skipIndent indent (c.rest.length + 1) 0 c
      (lines, indent, c)
    | none =>
      let (lines, longest, c) := firstIndent (c.rest.length + 1) 0 0 c
      (lines, max longest (outer + 1).toNat, c)
  if c.atEnd then
    return (String.ofList (emptyBlock head.ending (c.line == start.line) ended lines), c)
  if c.column < indent && outer < c.column then none
  let layout : Layout := ⟨literal, head.ending, indent⟩
  let (ls, c) := blockLines layout (c.rest.length + 1) ⟨[], false, false, lines⟩ c
  return (String.ofList (ls.close layout c), c)

end Perimeter.Yaml.Scalar
