import Perimeter.Regex.Bracket

/-!
Reading regular expressions. Repetitions are written with a star, a plus or a question mark; braces
are not known, neither for repetitions nor for names of classes.
-/

namespace Perimeter.Regex

/-- A part of an expression that has been read. -/
structure Part where
  regex : Regex
  /-- How deep it is nested. -/
  depth : Nat
  /-- Whether it can be repeated: flags cannot. -/
  repeatable : Bool
deriving DecidableEq, Repr

namespace Part

/-- A part that is not nested. -/
def leaf (r : Regex) : Part := ⟨r, 0, true⟩

/-- Parts one after another, the last one first. -/
def join (parts : List Part) : Part :=
  match parts with
  | [] => leaf .empty
  | [part] => part
  | parts => ⟨.sequences (parts.reverse.map (·.regex)), 1 + (parts.map (·.depth)).foldl max 0, true⟩

/-- A choice of branches, the last one first. -/
def choose (last : Part) (branches : List Part) : Part :=
  match branches.reverse with
  | [] => last
  | first :: rest =>
    ⟨.choices first.regex ((rest ++ [last]).map (·.regex)),
      1 + ((last :: branches).map (·.depth)).foldl max 0, true⟩

/-- The repetition of a part that a sign stands for. -/
def repeated? (greedy : Bool) (sign : Char) (part : Part) : Option Part :=
  if !part.repeatable then none
  else
    let build : Option (Regex → Regex) := match sign with
      | '?' => some (.optional greedy)
      | '*' => some (.star greedy)
      | '+' => some (.plus greedy)
      | _ => none
    build.map fun build => ⟨build part.regex, part.depth + 1, true⟩

end Part

/-- How far an expression has been read. -/
structure Reader where
  rest : List Char
  flags : Flags
  /-- The names of the groups so far. -/
  names : List String

namespace Reader

/-- The reader at another place. -/
def moveTo (s : Reader) (rest : List Char) : Reader := { s with rest := rest }

/-- Whether a character may be part of the name of a group. -/
def isNamePart (first : Bool) (c : Char) : Bool :=
  if first then c == '_' || Text.isAlphabetic c
  else c == '_' || c == '.' || c == '[' || c == ']' || Text.isAlphanumeric c

/-- Reads the name of a group up to the closing angle bracket. No two groups have the same name. -/
def name? (s : Reader) (cs : List Char) : Option Reader :=
  let name := cs.takeWhile (· != '>')
  match name, cs.dropWhile (· != '>') with
  | c :: letters, _ :: rest =>
    if !isNamePart true c || !letters.all (isNamePart false) || s.names.contains (String.ofList name)
    then none
    else some { s with rest := rest, names := String.ofList name :: s.names }
  | _, _ => none

/-- What a group starts with. -/
inductive Opening where
  /-- Flags for what follows up to the end of the group around them. -/
  | flags (s : Reader)
  /-- A group of its own. -/
  | group (s : Reader)

/-- Reads the start of a group behind the parenthesis. What is ahead or behind cannot be asked for. -/
def opening? (s : Reader) : Option Opening :=
  match s.flags.skip s.rest with
  | '?' :: 'P' :: '<' :: cs => (s.name? cs).map .group
  | '?' :: '<' :: cs =>
    if cs.head? == some '=' || cs.head? == some '!' then none else (s.name? cs).map .group
  | '?' :: cs => do
    let (flags, cs) ← s.flags.read? [] cs
    match cs with
    | ')' :: cs => return .flags { s with flags := flags, rest := cs }
    | _ :: cs => return .group { s with flags := flags, rest := cs }
    | [] => none
  | cs => some (.group (s.moveTo cs))

/-- The set that the point stands for; it goes beyond ASCII. -/
def point? (flags : Flags) : Option CharClass :=
  if !flags.unicode then none
  else if flags.dotAll then some .all
  else if flags.anyLine then some (.complement (.union (.single '\n') (.single '\r')))
  else some (.complement (.single '\n'))

/-- The place in a text that a circumflex stands for. -/
def lineStart (flags : Flags) : Look :=
  if !flags.multiLine then .textStart else if flags.anyLine then .anyLineStart else .lineStart

/-- The place in a text that a dollar sign stands for. -/
def lineEnd (flags : Flags) : Look :=
  if !flags.multiLine then .textEnd else if flags.anyLine then .anyLineEnd else .lineEnd

/-- The expression of a sign. -/
def ofSign (flags : Flags) : Sign → Regex
  | .char c => .one (Sign.folded flags (.single c))
  | .many k => .one k
  | .look l => .look l

/-- Reads a single sign. -/
def sign? (s : Reader) (c : Char) (cs : List Char) : Option (Part × Reader) :=
  match c with
  | '\\' => (Sign.escape? s.flags cs).map fun (sign, rest) =>
      (.leaf (ofSign s.flags sign), s.moveTo rest)
  | '.' => (point? s.flags).map fun k => (.leaf (.one k), s.moveTo cs)
  | '^' => some (.leaf (.look (lineStart s.flags)), s.moveTo cs)
  | '$' => some (.leaf (.look (lineEnd s.flags)), s.moveTo cs)
  | '\x7b' => none
  | c => some (.leaf (ofSign s.flags (.char c)), s.moveTo cs)

/-- Reads a repetition of the last part. A question mark right behind it swaps what it prefers. -/
def repetition? (s : Reader) (parts : List Part) (sign : Char) (cs : List Char) :
    Option (List Part × Reader) := do
  let (swapped, cs) := match cs with
    | '?' :: cs => (true, cs)
    | _ => (false, cs)
  match parts with
  | [] => none
  | part :: parts =>
    let part ← part.repeated? (swapped == s.flags.lazyFirst) sign
    return (part :: parts, s.moveTo cs)

mutual

/-- Reads branches of a choice up to the end of the group or of the text; `branches` are those in
front, the last one first. -/
def choice? : (fuel : Nat) → (branches : List Part) → Reader → Option (Part × Reader)
  | 0, _, _ => none
  | fuel + 1, branches, s => do
    let (part, s) ← branch? fuel [] s
    match s.rest with
    | '|' :: rest => choice? fuel (part :: branches) (s.moveTo rest)
    | _ => return (part.choose branches, s)
termination_by structural fuel => fuel

/-- Reads the parts of a branch; `parts` are those in front, the last one first. -/
def branch? : (fuel : Nat) → (parts : List Part) → Reader → Option (Part × Reader)
  | 0, _, _ => none
  | fuel + 1, parts, s =>
    match s.flags.skip s.rest with
    | [] => some (.join parts, s.moveTo [])
    | '|' :: cs => some (.join parts, s.moveTo ('|' :: cs))
    | ')' :: cs => some (.join parts, s.moveTo (')' :: cs))
    | '(' :: cs => do
      match ← (s.moveTo cs).opening? with
      | .flags s => branch? fuel (⟨.empty, 0, false⟩ :: parts) s
      | .group inner => do
        let (part, inner) ← choice? fuel [] inner
        match inner.rest with
        | ')' :: rest =>
          branch? fuel (⟨part.regex, part.depth + 1, true⟩ :: parts)
            { inner with rest := rest, flags := s.flags }
        | _ => none
    | '[' :: cs => do
      let (set, rest) ← Bracket.class? s.flags fuel cs
      branch? fuel (⟨.one set.set, set.depth, true⟩ :: parts) (s.moveTo rest)
    | c :: cs =>
      if c == '?' || c == '*' || c == '+' then do
        let (parts, s) ← s.repetition? parts c cs
        branch? fuel parts s
      else do
        let (part, s) ← s.sign? c cs
        branch? fuel (part :: parts) s
termination_by structural fuel => fuel

end

end Reader

/-- How deep an expression may be nested. -/
def maxDepth : Nat := 250

/-- The expression that a text stands for. -/
def ofText? (cs : List Char) : Option Regex := do
  let (part, s) ← Reader.choice? (2 * cs.length + 4) [] ⟨cs, .initial, []⟩
  if s.rest.isEmpty && part.depth ≤ maxDepth then some part.regex else none

end Perimeter.Regex
