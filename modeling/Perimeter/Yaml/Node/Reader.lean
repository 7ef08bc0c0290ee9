import Perimeter.Yaml.Node.Basic
import Perimeter.Yaml.Token.Stream

/-!
Reading YAML texts: from tokens to nodes, and from nodes to a document (`Yaml.read?`). A text holds
at most one document; without any it stands for the empty record.
-/

namespace Perimeter.Yaml

/-- What is known while tokens are read. -/
structure Composer where
  /-- The tokens that have not been read. -/
  tokens : List Token
  /-- The number of the last anchor of each name. -/
  anchors : List (String × Nat)
  /-- The nodes of the anchors that are complete. -/
  nodes : List (Nat × Node)
  /-- How many anchors there have been. -/
  count : Nat
  /-- What the handles of tags stand for. -/
  handles : List (String × String)

namespace Composer

def ofTokens (tokens : List Token) : Composer := ⟨tokens, [], [], 0, []⟩

/-- The next token. -/
def next? (s : Composer) : Option Token := s.tokens.head?

/-- Past the next token. -/
def drop (s : Composer) : Composer := { s with tokens := s.tokens.tail }

/-- Whether the next token is one of several. -/
def nextIs (s : Composer) (ts : List Token) : Bool := s.next?.any ts.contains

/-- The node of a scalar of no characters. -/
def emptyNode : Node := .single (Value.ofPlain "")

/-- The handle of the tags for common kinds. -/
def commonHandle : String := "tag:yaml.org,2002:"

/-- The full handle of a tag. A handle of a word has to be declared. -/
def resolve (s : Composer) (handle suffix : String) : Option (String × String) :=
  match s.handles.lookup handle with
  | some start => some (start, suffix)
  | none =>
    if handle == "!!" then some (commonHandle, suffix)
    else if 2 ≤ handle.length && handle.toList.getLast? == some '!' then none
    else some (handle, suffix)

/-- The value of a scalar with its tag. -/
def leaf (tag : Option (String × String)) (isPlain : Bool) (s : String) : Value :=
  if !isPlain then .text s
  else
    match tag with
    | some (handle, kind) => if handle == commonHandle then .ofKind kind s else .text s
    | none => .ofPlain s

/-- The tag and the anchor in front of a node. -/
structure Properties where
  anchor : Option Nat
  tag : Option (String × String)

/-- Numbers an anchor. -/
def register (name : String) (s : Composer) : Nat × Composer :=
  let n := s.count + 1
  (n, { s with anchors := (name, n) :: s.anchors, count := n })

/-- An anchor, if it comes next. -/
def anchor? (s : Composer) : Option Nat × Composer :=
  match s.next? with
  | some (.anchor name) =>
    let (n, s) := s.drop.register name
    (some n, s)
  | _ => (none, s)

/-- A tag, if it comes next. -/
def tag? (s : Composer) : Option (Option (String × String) × Composer) :=
  match s.next? with
  | some (.tag handle suffix) => do
    let tag ← s.resolve handle suffix
    return (some tag, s.drop)
  | _ => some (none, s)

/-- The properties in front of a node, in either order. -/
def properties (s : Composer) : Option (Properties × Composer) := do
  match s.anchor? with
  | (some n, s) =>
    let (tag, s) ← s.tag?
    return (⟨some n, tag⟩, s)
  | (none, s) =>
    let (tag, s) ← s.tag?
    match tag with
    | some tag =>
      let (anchor, s) := s.anchor?
      return (⟨anchor, some tag⟩, s)
    | none => return (⟨none, none⟩, s)

/-- Keeps a complete node for its anchor. -/
def keep (p : Properties) (n : Node) (s : Composer) : Node × Composer :=
  match p.anchor with
  | some i => (n, { s with nodes := (i, n) :: s.nodes })
  | none => (n, s)

/-- The node that a name refers to; an incomplete one cannot be read. -/
def referred (name : String) (s : Composer) : Option Node := do
  let i ← s.anchors.lookup name
  return (s.nodes.lookup i).getD (.single .bad)

/-- Tokens in front of which a value of a block is empty. -/
def endsBlockValue : List Token := [.key, .value, .blockEnd]

mutual

/-- A node. Outside of brackets it may be a block, and, as the value of a key, a list whose items
are not indented. -/
def node : (fuel : Nat) → (block indentless : Bool) → Composer → Option (Node × Composer)
  | 0, _, _, _ => none
  | fuel + 1, block, indentless, s =>
    match s.next? with
    | some (.reference name) => do return (← s.referred name, s.drop)
    | _ => do
      let (p, s) ← s.properties
      match s.next? with
      | some .blockItem =>
        if indentless then
          let (items, s) ← indentlessItems fuel s
          return s.keep p (.list items)
        else if p.anchor.isSome || p.tag.isSome then
          return s.keep p (.single (leaf p.tag true ""))
        else none
      | some (.scalar isPlain text) => return s.drop.keep p (.single (leaf p.tag isPlain text))
      | some .flowListStart =>
        let (items, s) ← flowItems fuel true s.drop
        return s.keep p (.list items)
      | some .flowRecordStart =>
        let (entries, s) ← flowEntries fuel true s.drop
        return s.keep p (← Node.recordOf? entries)
      | some t =>
        if t == .blockListStart && block then
          let (items, s) ← blockItems fuel s.drop
          return s.keep p (.list items)
        else if t == .blockRecordStart && block then
          let (entries, s) ← blockEntries fuel s.drop
          return s.keep p (← Node.recordOf? entries)
        else if p.anchor.isSome || p.tag.isSome then
          return s.keep p (.single (leaf p.tag true ""))
        else none
      | none =>
        if p.anchor.isSome || p.tag.isSome then return s.keep p (.single (leaf p.tag true ""))
        else none
termination_by structural fuel => fuel

/-- The items of a list, up to the end of its block. -/
def blockItems : (fuel : Nat) → Composer → Option (List Node × Composer)
  | 0, _ => none
  | fuel + 1, s =>
    match s.next? with
    | some .blockEnd => some ([], s.drop)
    | some .blockItem => do
      let s := s.drop
      let (item, s) ←
        if s.nextIs [.blockItem, .blockEnd] then some (emptyNode, s) else node fuel true false s
      let (items, s) ← blockItems fuel s
      return (item :: items, s)
    | _ => none
termination_by structural fuel => fuel

/-- The items of a list that is not indented. -/
def indentlessItems : (fuel : Nat) → Composer → Option (List Node × Composer)
  | 0, _ => none
  | fuel + 1, s =>
    match s.next? with
    | some .blockItem => do
      let s := s.drop
      let (item, s) ←
        if s.nextIs (.blockItem :: endsBlockValue) then some (emptyNode, s)
        else node fuel true false s
      let (items, s) ← indentlessItems fuel s
      return (item :: items, s)
    | _ => some ([], s)
termination_by structural fuel => fuel

/-- The keys and values of a record in turn, up to the end of its block. -/
def blockEntries : (fuel : Nat) → Composer → Option (List Node × Composer)
  | 0, _ => none
  | fuel + 1, s =>
    match s.next? with
    | some .blockEnd => some ([], s.drop)
    | some .key => do
      let s := s.drop
      let (k, s) ←
        if s.nextIs endsBlockValue then some (emptyNode, s) else node fuel true true s
      let (v, s) ← blockValue fuel s
      let (rest, s) ← blockEntries fuel s
      return (k :: v :: rest, s)
    | some .value => do
      let (v, s) ← blockValue fuel s
      let (rest, s) ← blockEntries fuel s
      return (emptyNode :: v :: rest, s)
    | _ => none
termination_by structural fuel => fuel

/-- The value of a key of a block. -/
def blockValue : (fuel : Nat) → Composer → Option (Node × Composer)
  | 0, _ => none
  | fuel + 1, s =>
    if s.nextIs [.value] then
      let s := s.drop
      if s.nextIs endsBlockValue then some (emptyNode, s) else node fuel true true s
    else some (emptyNode, s)
termination_by structural fuel => fuel

/-- The items of a list between brackets, up to the closing one. A key here is a record of a
single entry. -/
def flowItems : (fuel : Nat) → (first : Bool) → Composer → Option (List Node × Composer)
  | 0, _, _ => none
  | fuel + 1, first, s =>
    if s.nextIs [.flowListEnd] then some ([], s.drop)
    else do
      let s ← if first then some s else if s.nextIs [.flowItem] then some s.drop else none
      if s.nextIs [.flowListEnd] then return ([], s.drop)
      let (item, s) ← if s.nextIs [.key] then flowPair fuel s.drop else node fuel false false s
      let (items, s) ← flowItems fuel false s
      return (item :: items, s)
termination_by structural fuel => fuel

/-- A record of a single entry in a list between brackets. -/
def flowPair : (fuel : Nat) → Composer → Option (Node × Composer)
  | 0, _ => none
  | fuel + 1, s => do
    let (k, s) ←
      if s.nextIs [.value, .flowItem, .flowListEnd] then some (emptyNode, s.drop)
      else node fuel false false s
    let (v, s) ←
      if s.nextIs [.value] then
        let s := s.drop
        if s.nextIs [.flowItem, .flowListEnd] then some (emptyNode, s)
        else node fuel false false s
      else some (emptyNode, s)
    return (← Node.recordOf? [k, v], s)
termination_by structural fuel => fuel

/-- The keys and values of a record between braces in turn, up to the closing one. -/
def flowEntries : (fuel : Nat) → (first : Bool) → Composer → Option (List Node × Composer)
  | 0, _, _ => none
  | fuel + 1, first, s =>
    if s.nextIs [.flowRecordEnd] then some ([], s.drop)
    else do
      let s ← if first then some s else if s.nextIs [.flowItem] then some s.drop else none
      if s.nextIs [.flowRecordEnd] then return ([], s.drop)
      let (k, v, s) ← flowEntry fuel s
      let (rest, s) ← flowEntries fuel false s
      return (k :: v :: rest, s)
termination_by structural fuel => fuel

/-- A key with its value in a record between braces; either may be missing. -/
def flowEntry : (fuel : Nat) → Composer → Option (Node × Node × Composer)
  | 0, _ => none
  | fuel + 1, s =>
    if s.nextIs [.key] then do
      let s := s.drop
      let (k, s) ←
        if s.nextIs [.value, .flowItem, .flowRecordEnd] then some (emptyNode, s)
        else node fuel false false s
      let (v, s) ← flowValue fuel s
      return (k, v, s)
    else if s.nextIs [.value] then do
      let (v, s) ← flowValue fuel s
      return (emptyNode, v, s)
    else do
      let (k, s) ← node fuel false false s
      return (k, emptyNode, s)
termination_by structural fuel => fuel

/-- The value of a key between braces. -/
def flowValue : (fuel : Nat) → Composer → Option (Node × Composer)
  | 0, _ => none
  | fuel + 1, s =>
    if s.nextIs [.value] then
      let s := s.drop
      if s.nextIs [.flowItem, .flowRecordEnd] then some (emptyNode, s)
      else node fuel false false s
    else some (emptyNode, s)
termination_by structural fuel => fuel

end

/-! ## Documents -/

/-- Whether the next token is a directive. -/
def atDirective (s : Composer) : Bool :=
  match s.next? with
  | some .version => true
  | some (.tagDirective ..) => true
  | _ => false

/-- Reads directives; the version may be given once, and the last tag directive counts. -/
def directives : (fuel : Nat) → (versioned : Bool) → Composer → Option Composer
  | 0, _, s => some s
  | fuel + 1, versioned, s =>
    match s.next? with
    | some .version => if versioned then none else directives fuel true { s.drop with handles := [] }
    | some (.tagDirective handle start) =>
      directives fuel versioned { s.drop with handles := [(handle, start)] }
    | _ => some s

/-- Past the marks of ends of documents. -/
def skipEnds (s : Composer) : Composer :=
  { s with tokens := s.tokens.dropWhile (· == .documentEnd) }

/-- The content of a document behind its mark. -/
def content (s : Composer) : Option (Node × Composer) :=
  if s.next?.isNone || s.atDirective || s.nextIs [.documentStart, .documentEnd] then
    some (emptyNode, s)
  else node (2 * s.tokens.length + 4) true false s

/-- One document; its mark may be missing if it is `implicit`. -/
def document (implicit : Bool) (s : Composer) : Option (Node × Composer) := do
  if s.atDirective || s.nextIs [.documentStart] || !implicit then
    let s ← s.directives s.tokens.length false
    if s.nextIs [.documentStart] then s.drop.content else none
  else node (2 * s.tokens.length + 4) true false s

/-- All documents. -/
def documents : (fuel : Nat) → (implicit : Bool) → Composer → Option (List Node)
  | 0, _, _ => none
  | fuel + 1, implicit, s => do
    let s := s.skipEnds
    if s.tokens.isEmpty then return []
    let (n, s) ← s.document implicit
    let s := { s with handles := [] }
    if s.nextIs [.documentEnd] then return n :: (← documents fuel true s.drop)
    else if s.atDirective then none
    else return n :: (← documents fuel false s)

end Composer

/-- The nodes of the documents of a text. -/
def Node.ofText? (cs : List Char) : Option (List Node) := do
  let tokens ← Token.ofText? cs
  (Composer.ofTokens tokens).documents (tokens.length + 1) true

/-- The document that a text stands for. -/
def read? (s : String) : Option Document := do
  match ← Node.ofText? s.toList with
  | [] => return .record []
  | [n] => n.toDocument?
  | _ => none

end Perimeter.Yaml
