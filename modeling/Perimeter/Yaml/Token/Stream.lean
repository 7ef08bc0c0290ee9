import Perimeter.Yaml.Token.Basic
import Perimeter.Yaml.Token.Scalar

/-!
Cutting a YAML text into tokens (`Token.ofText?`). Indentation opens and closes blocks. A token that
may turn out to be a key is remembered until a colon follows, and the token for the key, and for
the start of the record, are put in front of it then.
-/

namespace Perimeter.Yaml

/-- A token that may turn out to be a key. -/
structure Candidate where
  /-- How many tokens stand in front of it. -/
  number : Nat
  line : Nat
  index : Nat
  column : Nat
  /-- It can be nothing but a key. -/
  required : Bool
deriving DecidableEq, Repr

/-- An indentation that has been left for a deeper one. -/
structure Indent where
  column : Int
  /-- The deeper one is that of a block, and not only of what belongs to a key or an item. -/
  block : Bool
deriving DecidableEq, Repr

/-- The state of cutting a text into tokens. -/
structure Lexer where
  cursor : Cursor
  /-- The tokens so far, the last one first. -/
  tokens : List Token
  /-- The column of the last token. -/
  lastColumn : Nat
  /-- The candidates for keys, one for each level of brackets, the innermost one first. -/
  candidates : List (Option Candidate)
  /-- Whether the next token may be a key, or start an item or an entry. -/
  keyAllowed : Bool
  indent : Int
  indents : List Indent
  /-- How many brackets are open. -/
  depth : Nat
  /-- A colon here needs no spacing behind it. -/
  adjacent : Option Nat
  /-- The innermost record between brackets has been started by a brace or a question mark. -/
  braced : Bool
  /-- The last colon between brackets belongs to an entry without braces. -/
  unbraced : Bool

namespace Lexer

/-- The state at the start of a text. -/
def ofCursor (c : Cursor) : Lexer where
  cursor := c
  tokens := []
  lastColumn := 0
  candidates := [none]
  keyAllowed := true
  indent := -1
  indents := []
  depth := 0
  adjacent := none
  braced := false
  unbraced := false

/-- Appends a token that stands at a column. -/
def push (s : Lexer) (column : Nat) (t : Token) : Lexer :=
  { s with tokens := t :: s.tokens, lastColumn := column }

/-- Puts a token in front of those from a number on. -/
def insert (s : Lexer) (number : Nat) (t : Token) : Lexer :=
  { s with tokens := s.tokens.insertIdx (s.tokens.length - number) t }

/-- Moves to another place. -/
def moveTo (s : Lexer) (c : Cursor) : Lexer := { s with cursor := c }

/-- Allows or forbids that the next token is a key. -/
def allowKey (s : Lexer) (allowed : Bool) : Lexer := { s with keyAllowed := allowed }

/-! ## Candidates for keys -/

/-- How far behind a candidate its colon may stand. -/
def keyReach : Nat := 1024

/-- A candidate on an earlier line, or too far away, is no key; outside of brackets only. -/
def dropStale (s : Lexer) : Option Lexer :=
  if s.depth != 0 then some s
  else
    let isStale : Candidate → Bool := fun k =>
      decide (k.line < s.cursor.line) || decide (k.index + keyReach < s.cursor.index)
    if s.candidates.any fun k => k.any fun k => isStale k && k.required then none
    else some { s with candidates := s.candidates.map fun k => k.filter fun k => !isStale k }

/-- Gives up the innermost candidate, unless it has to be a key. -/
def dropCandidate (s : Lexer) : Option Lexer :=
  match s.candidates with
  | [] => some s
  | k :: ks =>
    if k.any (·.required) then none else some { s with candidates := none :: ks }

/-- Remembers that the next token may be a key. -/
def remember (s : Lexer) : Option Lexer :=
  if !s.keyAllowed then some s
  else do
    let c := s.cursor
    let required := s.depth == 0 && s.indent == c.column && s.indents.head?.any (·.block)
    let s ← s.dropCandidate
    return { s with
      candidates := some ⟨s.tokens.length, c.line, c.index, c.column, required⟩ :: s.candidates.tail }

/-! ## Indentation -/

/-- Leaves the indentations that are not those of a block, up to the first one that is. -/
def leaveInnerFrom : List Indent → Lexer → Lexer
  | [], s => s
  | i :: is, s =>
    if i.block then s else leaveInnerFrom is { s with indent := i.column, indents := is }

/-- Leaves the indentations that are not those of a block. -/
def leaveInner (s : Lexer) : Lexer := leaveInnerFrom s.indents s

/-- Indents what belongs to a key or an item by one more column. -/
def enterInner (s : Lexer) : Lexer :=
  if s.depth == 0 && s.indents.head?.any (·.block) then
    { s with indents := ⟨s.indent, false⟩ :: s.indents, indent := s.indent + 1 }
  else s

/-- Starts a block at a column, unless it goes on there; `number` says in front of which token. -/
def enterBlock (s : Lexer) (column : Nat) (number : Option Nat) (t : Token) : Lexer :=
  if s.depth != 0 then s
  else
    let s : Lexer := match s.indents with
      | i :: is =>
        if s.indent ≤ column && !i.block then { s with indent := i.column, indents := is } else s
      | [] => s
    if s.indent < column then
      let s := { s with indents := ⟨s.indent, true⟩ :: s.indents, indent := column }
      match number with
      | some n => s.insert n t
      | none => s.push column t
    else s

/-- Ends the blocks that stand deeper than a column. -/
def leaveBlocks (column : Int) : List Indent → Lexer → Lexer
  | [], s => s
  | i :: is, s =>
    if s.indent ≤ column then s
    else
      let s := { s with indent := i.column, indents := is }
      leaveBlocks column is (if i.block then s.push s.cursor.column .blockEnd else s)

/-- Ends the blocks that stand deeper than a column; between brackets there are none. -/
def leave (s : Lexer) (column : Int) : Lexer :=
  if s.depth != 0 then s else leaveBlocks column s.indents s

/-! ## Between tokens -/

/-- Past spacing, comments and line ends. A line that starts with a tabulator instead of its
indentation may hold nothing but a comment. -/
def skip : (fuel : Nat) → Lexer → Option Lexer
  | 0, s => some s
  | fuel + 1, s =>
    let c := s.cursor
    if c.char == '\t' && !s.indents.isEmpty && c.fresh && decide (c.column < s.indent) then do
      let trail ← c.trail? true
      if isLineEndOrEnd trail.cursor.char then skip fuel (s.moveTo trail.cursor) else none
    else if isSpacing c.char then skip fuel (s.moveTo c.stepSpacing)
    else if isLineEnd c.char then
      skip fuel { s with cursor := c.stepLine, keyAllowed := s.keyAllowed || s.depth == 0 }
    else if c.char == '#' then skip fuel (s.moveTo c.skipComment)
    else some s

/-- Past spaces, comments and line ends, at least one of which there must be. -/
def skipSpaces : (fuel : Nat) → (found : Bool) → Lexer → Option Lexer
  | 0, _, s => some s
  | fuel + 1, found, s =>
    let c := s.cursor
    if c.char == ' ' then skipSpaces fuel true (s.moveTo c.stepSpacing)
    else if isLineEnd c.char then
      skipSpaces fuel true { s with cursor := c.stepLine, keyAllowed := s.keyAllowed || s.depth == 0 }
    else if c.char == '#' then skipSpaces fuel found (s.moveTo c.skipComment)
    else if found then some s
    else none

/-- Past spacing and a comment on the same line. -/
def skipTrail (s : Lexer) : Option Lexer := do
  let trail ← s.cursor.trail? true
  return s.moveTo trail.cursor

/-! ## Directives, tags and anchors -/

/-- Characters of an address in a tag. -/
def isAddressChar (c : Char) : Bool :=
  c.isAlphanum || c == '-' || "#;/?:@&=+$,_.!~*\x27()[]%".toList.contains c

/-- Characters of a tag. -/
def isTagChar (c : Char) : Bool := isAddressChar c && !isFlowIndicator c && c != '!'

/-- Characters of the name of an anchor. -/
def isAnchorChar (c : Char) : Bool := !isEdge c && !isFlowIndicator c && c != '\uFEFF'

/-- An escaped byte in a tag, and what follows it. -/
def escapedByte? : List Char → Option (Nat × List Char)
  | '%' :: a :: b :: rest => (Decimal.natural? 16 [a, b]).map fun byte => (byte, rest)
  | _ => none

/-- How many bytes the character has that starts with a byte. -/
def byteCount? (first : Nat) : Option Nat :=
  if first < 0x80 then some 1
  else if 0xC0 ≤ first ∧ first < 0xE0 then some 2
  else if 0xE0 ≤ first ∧ first < 0xF0 then some 3
  else if 0xF0 ≤ first ∧ first < 0xF8 then some 4
  else none

/-- The code of a character whose bytes up to here make a number; the further ones follow. -/
def escapedCode? : (further code : Nat) → List Char → Option Nat
  | 0, code, _ => some code
  | n + 1, code, cs => do
    let (byte, rest) ← escapedByte? cs
    if byte < 0x80 || 0xC0 ≤ byte then none
    escapedCode? n ((code <<< 8) + byte) rest

/-- An escaped character in a tag, and the number of characters that it takes. Its code is the
number that its bytes make one behind the other, so that only characters of one or two bytes can
be escaped. -/
def escapedChar? (cs : List Char) : Option (Char × Nat) := do
  let (first, rest) ← escapedByte? cs
  let count ← byteCount? first
  let code ← escapedCode? (count - 1) first rest
  return (← Text.charOfCode? code, 3 * count)

/-- The characters of a tag with a property; escaped ones are read. -/
def tagText (p : Char → Bool) : (fuel : Nat) → Cursor → Option (List Char × Cursor)
  | 0, c => some ([], c)
  | fuel + 1, c =>
    if !p c.char then some ([], c)
    else if c.char == '%' then do
      let (ch, width) ← escapedChar? c.rest
      let (cs, c) ← tagText p fuel (c.steps width)
      return (ch :: cs, c)
    else do
      let (cs, next) ← tagText p fuel c.step
      return (c.char :: cs, next)

/-- The handle of a tag: an exclamation mark, or a word between two of them. -/
def tagHandle (c : Cursor) : Option (List Char × Cursor) :=
  if c.char != '!' then none
  else
    let (word, c) := c.step.takeWhile isWordChar
    if c.char == '!' then some ('!' :: word ++ ['!'], c.step) else some ('!' :: word, c)

/-- A tag whose address stands between angle brackets. -/
def verbatimTag (c : Cursor) : Option (Token × Cursor) := do
  let (cs, c) ← tagText isAddressChar (c.rest.length + 1) (c.steps 2)
  if c.char == '>' then return (.tag "" (String.ofList cs), c.step) else none

/-- A tag with a handle. -/
def shortTag (c : Cursor) : Option (Token × Cursor) := do
  let (handle, c) ← tagHandle c
  if 2 ≤ handle.length && handle.getLast? == some '!' then
    let (cs, c) ← tagText isTagChar (c.rest.length + 1) c
    if cs.isEmpty then none
    return (.tag (String.ofList handle) (String.ofList cs), c)
  else
    let (cs, c) ← tagText isTagChar (c.rest.length + 1) c
    let suffix := handle.tail ++ cs
    if suffix.isEmpty then return (.tag "" "!", c)
    else return (.tag "!" (String.ofList suffix), c)

/-- A tag, behind which its line or the spacing starts. -/
def tag? (inBrackets : Bool) (c : Cursor) : Option (Token × Cursor) := do
  let (t, c) ← if c.ahead 1 == '<' then verbatimTag c else shortTag c
  if isEdge c.char || (inBrackets && isFlowIndicator c.char) then return (t, c) else none

/-- The name of an anchor or of a reference to one. -/
def anchorName? (c : Cursor) : Option (String × Cursor) :=
  let (name, c) := c.step.takeWhile isAnchorChar
  if name.isEmpty then none else some (String.ofList name, c)

/-- A number of a version. -/
def versionNumber? (c : Cursor) : Option Cursor :=
  let (ds, c) := c.takeWhile Char.isDigit
  if ds.isEmpty || 9 < ds.length then none else some c

/-- The values of the directive for a version. -/
def versionDirective? (c : Cursor) : Option (Token × Cursor) := do
  let c ← versionNumber? c.skipSpacing
  if c.char != '.' then none
  let c ← versionNumber? c.step
  return (.version, c)

/-- The values of the directive for a tag. -/
def tagDirective? (c : Cursor) : Option (Token × Cursor) := do
  let (handle, c) ← tagHandle c.skipSpacing
  if handle.length != 1 && handle.getLast? != some '!' then none
  let c := c.skipSpacing
  if !(c.char == '!' || isTagChar c.char) then none
  let (cs, c) ← tagText isAddressChar (c.rest.length + 1) c
  if isEdge c.char then return (.tagDirective (String.ofList handle) (String.ofList cs), c) else none

/-- A directive with the end of its line. Unknown ones are passed over. -/
def directive? (c : Cursor) : Option (Token × Cursor) := do
  let (name, c) := c.step.takeWhile isWordChar
  if name.isEmpty || !isEdge c.char then none
  let (t, c) ←
    match String.ofList name with
    | "YAML" => versionDirective? c
    | "TAG" => tagDirective? c
    | _ => some (.tagDirective "" "", c.skipComment)
  let trail ← c.trail? true
  if isLineEndOrEnd trail.cursor.char then
    return (t, if trail.cursor.atEnd then trail.cursor else trail.cursor.stepLine)
  else none

/-! ## Tokens -/

/-- Leaves all blocks, in front of a mark or a directive. -/
def close (s : Lexer) : Option Lexer := do
  let s ← (s.leave (-1)).dropCandidate
  return s.allowKey false

/-- The end of the text. -/
def finish (s : Lexer) : Option Lexer :=
  if s.candidates.any fun k => k.any (·.required) then none
  else (({ s with candidates := s.candidates.map fun _ => none }).leave (-1)).dropCandidate

def directive (s : Lexer) : Option Lexer := do
  let s ← s.close
  let (t, c) ← directive? s.cursor
  return (s.push 0 t).moveTo c

/-- The mark of the start of a document. -/
def documentStart (s : Lexer) : Option Lexer := do
  let s ← s.close
  return (s.push 0 .documentStart).moveTo (s.cursor.steps 3)

/-- The mark of the end of a document, behind which only a comment may stand. -/
def documentEnd (s : Lexer) : Option Lexer := do
  let s ← s.close
  let s ← ((s.push 0 .documentEnd).moveTo (s.cursor.steps 3)).skipTrail
  if isLineEndOrEnd s.cursor.char then some s else none

/-- How many brackets may be open. -/
def maxDepth : Nat := 255

/-- An opening bracket or brace. -/
def openBracket (isList : Bool) (s : Lexer) : Option Lexer := do
  let s := (← s.remember).enterInner
  if s.depth == maxDepth then none
  let column := s.cursor.column
  let s := { s with
    candidates := none :: s.candidates
    depth := s.depth + 1
    keyAllowed := true
    cursor := s.cursor.step
    braced := s.braced || !isList }
  let s ← s.skipTrail
  return s.push column (if isList then .flowListStart else .flowRecordStart)

/-- Ends an entry without braces. -/
def endEntry (s : Lexer) : Lexer :=
  if s.unbraced then
    ({ s with unbraced := false, braced := false }).push s.cursor.column .flowRecordEnd
  else s

/-- A closing bracket or brace. -/
def shut (isList : Bool) (s : Lexer) : Option Lexer := do
  let s ← s.dropCandidate
  let s := if s.depth == 0 then s
    else { s with depth := s.depth - 1, candidates := s.candidates.tail }
  let s := (s.allowKey false).endEntry
  let column := s.cursor.column
  let s ← (s.moveTo s.cursor.step).skipTrail
  let s := if s.depth == 0 then s else { s with adjacent := some s.cursor.index }
  return s.push column (if isList then .flowListEnd else .flowRecordEnd)

/-- A comma. -/
def flowItem (s : Lexer) : Option Lexer := do
  let s ← s.dropCandidate
  let s := (s.allowKey true).endEntry
  let column := s.cursor.column
  let s ← (s.moveTo s.cursor.step).skipTrail
  return s.push column .flowItem

/-- Whether the last token is a tag or an anchor at the start of a line. -/
def afterOuterProperty (s : Lexer) : Bool :=
  s.lastColumn == 0 &&
    match s.tokens.head? with
    | some (.anchor _) => true
    | some (.tag ..) => true
    | _ => false

/-- A hyphen in front of an item. -/
def blockItem (s : Lexer) : Option Lexer := do
  if s.depth != 0 || !s.keyAllowed then none
  if s.cursor.column == 0 && s.afterOuterProperty && decide (-1 < s.indent) then none
  let column := s.cursor.column
  let s := (s.moveTo s.cursor.step).enterBlock column none .blockListStart
  let trail ← s.cursor.trail? true
  let c := trail.cursor
  if trail.tab && c.char == '-' && isEdge (c.ahead 1) then none
  let s := s.moveTo c
  let s := if isLineEnd c.char || isFlowIndicator c.char then s.enterInner else s
  let s ← s.dropCandidate
  return (s.allowKey true).push c.column .blockItem

/-- A question mark in front of a key. -/
def explicitKey (s : Lexer) : Option Lexer := do
  let column := s.cursor.column
  if s.depth == 0 && !s.keyAllowed then none
  let s := if s.depth == 0 then s.enterBlock column none .blockRecordStart
    else { s with braced := true }
  let s ← s.dropCandidate
  let s := s.allowKey (s.depth == 0)
  let s := s.moveTo s.cursor.step
  let s ← s.skipSpaces (s.cursor.rest.length + 1) false
  if s.cursor.char == '\t' then none
  return s.push column .key

/-- The colon behind a candidate, which is a key then. -/
def valueOf (k : Candidate) (start : Cursor) (single : Bool) (s : Lexer) : Option Lexer := do
  let s := s.insert k.number .key
  if single && k.line < start.line then none
  let s := if single then s.insert k.number .flowRecordStart else s
  let s := (s.enterBlock k.column (some k.number) .blockRecordStart).enterInner
  return { s with candidates := none :: s.candidates.tail, keyAllowed := false }

/-- A colon behind no candidate. -/
def valueAlone (start : Cursor) (single : Bool) (s : Lexer) : Option Lexer := do
  let s := if single then s.push start.column .flowRecordStart else s
  if s.depth == 0 && !s.keyAllowed then none
  let s := if s.depth == 0 then s.enterBlock start.column none .blockRecordStart else s
  return s.enterInner.allowKey (s.depth == 0)

/-- A colon in front of a value. A tabulator behind it may not take the place of the space. -/
def value (s : Lexer) : Option Lexer := do
  let start := s.cursor
  let single := s.depth != 0 && !s.braced
  let s := { s with unbraced := single, cursor := start.step }
  let s ←
    if s.cursor.char == '\t' then do
      let trail ← s.cursor.trail? true
      if !trail.space && (trail.cursor.char == '-' || isWordChar trail.cursor.char) then none
      some (s.moveTo trail.cursor)
    else some s
  let s ←
    match s.candidates.head?.join with
    | some k => s.valueOf k start single
    | none => s.valueAlone start single
  return s.push start.column .value

/-- A reference or an anchor. -/
def anchor (isReference : Bool) (s : Lexer) : Option Lexer := do
  let s := (← s.remember).allowKey false
  let (name, c) ← anchorName? s.cursor
  let t := if isReference then Token.reference name else .anchor name
  return (s.push s.cursor.column t).moveTo c

def tag (s : Lexer) : Option Lexer := do
  let s := (← s.remember).allowKey false
  let (t, c) ← tag? (s.depth != 0) s.cursor
  return (s.push s.cursor.column t).moveTo c

/-- A block of lines. -/
def block (literal : Bool) (s : Lexer) : Option Lexer := do
  let s := ((← s.remember).allowKey true).leaveInner
  let (text, c) ← Scalar.block? literal s.indent s.cursor
  return (s.push s.cursor.column (.scalar false text)).moveTo c

/-- Whether a quoted scalar may end here: in front of the end of the line, of a bracket or a comma
between brackets, or of a colon. -/
def quotedMayEnd (s : Lexer) (startLine : Nat) (c : Cursor) : Bool :=
  isLineEndOrEnd c.char
    || (s.depth != 0 && (c.char == ',' || c.char == '\x7d' || c.char == ']' || c.char == ':'))
    || (s.depth == 0 && c.char == ':' && startLine == c.line)

def quoted (single : Bool) (s : Lexer) : Option Lexer := do
  let s := (← s.remember).allowKey false
  let start := s.cursor
  let (text, c) ← Scalar.quoted? single s.indent start
  let trail ← c.trail? true
  if !s.quotedMayEnd start.line trail.cursor then none
  let s ← (s.moveTo trail.cursor).skip (trail.cursor.rest.length + 1)
  return ({ s with adjacent := some s.cursor.index }).push start.column (.scalar false text)

def plain (s : Lexer) : Option Lexer := do
  let s := ((← s.remember).allowKey false).leaveInner
  let start := s.cursor
  let (text, c) ← Scalar.plain? (s.depth != 0) (s.indent + 1) start
  let s := s.allowKey (s.keyAllowed || c.fresh)
  return (s.push start.column (.scalar true text)).moveTo c

/-- The token at the next character that starts one. -/
def token (s : Lexer) : Option Lexer :=
  let c := s.cursor
  let spaced := isEdge (c.ahead 1)
  let inBrackets := s.depth != 0
  let bare := inBrackets && (isFlowIndicator (c.ahead 1) || s.adjacent == some c.index)
  if c.column == 0 && c.char == '%' then s.directive
  else if c.isDocumentMark then if c.char == '-' then s.documentStart else s.documentEnd
  else if c.column < s.indent then none
  else if c.char == '[' then s.openBracket true
  else if c.char == '\x7b' then s.openBracket false
  else if c.char == ']' then s.shut true
  else if c.char == '\x7d' then s.shut false
  else if c.char == ',' then s.flowItem
  else if c.char == '-' && spaced then s.blockItem
  else if c.char == '?' && spaced then s.explicitKey
  else if c.char == ':' && (spaced || bare) then s.value
  else if c.char == '*' then s.anchor true
  else if c.char == '&' then s.anchor false
  else if c.char == '!' then s.tag
  else if c.char == '|' && !inBrackets then s.block true
  else if c.char == '>' && !inBrackets then s.block false
  else if c.char == '\x27' then s.quoted true
  else if c.char == '\x22' then s.quoted false
  else if c.char == '%' || c.char == '@' || c.char == '\x60' then none
  else s.plain

/-- All tokens up to the end of the text, each of which takes at least one character. -/
def run : (fuel : Nat) → Lexer → Option Lexer
  | 0, _ => none
  | fuel + 1, s => do
    let s ← s.skip (s.cursor.rest.length + 1)
    let s ← s.dropStale
    let s := s.leave s.cursor.column
    if s.cursor.atEnd then s.finish
    else
      let s ← s.token
      run fuel s

end Lexer

/-- The tokens of a text. -/
def Token.ofText? (cs : List Char) : Option (List Token) :=
  let c := Cursor.ofList cs
  ((Lexer.ofCursor c).run (c.rest.length + 2)).map fun s => s.tokens.reverse

end Perimeter.Yaml
