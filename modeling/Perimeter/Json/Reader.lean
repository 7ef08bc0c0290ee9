import Perimeter.Json.Number

/-!
Reading JSON texts. Of the fields with the same key the last one counts; lists and records may be
nested 127 deep. Every reader returns what it read and what is left of the text.
-/

namespace Perimeter.Json

/-- How deep lists and records may be nested. -/
def maxDepth : Nat := 127

/-- White space between the parts of a text. -/
def isSpace (c : Char) : Bool := c == ' ' || c == '\n' || c == '\t' || c == '\r'

/-- A text without the white space at its start. -/
def skip (cs : List Char) : List Char := cs.dropWhile isSpace

/-- The code unit that four hexadecimal digits stand for. -/
def unit? (a b c d : Char) : Option Nat := Decimal.natural? 16 [a, b, c, d]

/-- The character that a single code unit stands for. -/
def charOfUnit? (n : Nat) : Option Char :=
  if h : n.isValidChar then some (Char.ofNatAux n h) else none

/-- The character that two code units stand for. -/
def charOfPair? (high low : Nat) : Option Char :=
  if 0xD800 ≤ high ∧ high < 0xDC00 ∧ 0xDC00 ≤ low ∧ low < 0xE000 then
    charOfUnit? (0x10000 + (high - 0xD800) * 0x400 + (low - 0xDC00))
  else none

/-- The character that stands for another one behind a backslash. -/
def unescape? (c : Char) : Option Char :=
  if c = '\x22' ∨ c = '\\' ∨ c = '/' then some c
  else if c = 'b' then some '\x08'
  else if c = 'f' then some '\x0c'
  else if c = 'n' then some '\n'
  else if c = 'r' then some '\r'
  else if c = 't' then some '\t'
  else none

/-- Puts a character in front of what was read behind it. -/
def push (c : Option Char) (r : Option (List Char × List Char)) : Option (List Char × List Char) :=
  match c, r with
  | some c, some (cs, rest) => some (c :: cs, rest)
  | _, _ => none

/-- What is left of a text between quotes, up to the closing one. -/
def stringTail : List Char → Option (List Char × List Char)
  | [] => none
  | '\x22' :: rest => some ([], rest)
  | '\\' :: 'u' :: a :: b :: c :: d :: rest =>
    match unit? a b c d, rest with
    | none, _ => none
    | some n, '\\' :: 'u' :: e :: f :: g :: h :: rest' =>
      match charOfUnit? n with
      | some ch => push (some ch) (stringTail ('\\' :: 'u' :: e :: f :: g :: h :: rest'))
      | none => push ((unit? e f g h).bind (charOfPair? n)) (stringTail rest')
    | some n, rest => push (charOfUnit? n) (stringTail rest)
  | '\\' :: c :: rest => push (unescape? c) (stringTail rest)
  | c :: rest => if c.toNat < 0x20 then none else push (some c) (stringTail rest)

/-- A given word at the start of a text. -/
def word (expected : String) (value : Document) (cs : List Char) : Option (Document × List Char) :=
  if expected.toList.isPrefixOf cs then some (value, cs.drop expected.length) else none

mutual

/-- A value. Each value and each item costs one unit of `fuel`. -/
def value : (fuel depth : Nat) → List Char → Option (Document × List Char)
  | 0, _, _ => none
  | fuel + 1, depth, cs =>
    match skip cs with
    | '\x22' :: rest => (stringTail rest).map fun (s, rest) => (.text (String.ofList s), rest)
    | '[' :: rest =>
      match depth with
      | 0 => none
      | depth + 1 =>
        match skip rest with
        | ']' :: rest => some (.list [], rest)
        | rest => (items fuel depth rest).map fun (ds, rest) => (.list ds, rest)
    | '\x7b' :: rest =>
      match depth with
      | 0 => none
      | depth + 1 =>
        match skip rest with
        | '\x7d' :: rest => some (.record [], rest)
        | rest => (fields fuel depth [] rest).map fun (fs, rest) => (.record fs, rest)
    | 'n' :: rest => word "ull" .null rest
    | 't' :: rest => word "rue" (.bool true) rest
    | 'f' :: rest => word "alse" (.bool false) rest
    | rest => number rest
termination_by structural fuel => fuel

/-- The items of a list, at least one, up to the closing bracket. -/
def items : (fuel depth : Nat) → List Char → Option (List Document × List Char)
  | 0, _, _ => none
  | fuel + 1, depth, cs => do
    let (d, rest) ← value fuel depth cs
    match skip rest with
    | ',' :: rest =>
      let (ds, rest) ← items fuel depth rest
      return (d :: ds, rest)
    | ']' :: rest => return ([d], rest)
    | _ => none
termination_by structural fuel => fuel

/-- The fields of a record, at least one, up to the closing brace, after those read before. -/
def fields : (fuel depth : Nat) → List (String × Document) → List Char →
    Option (List (String × Document) × List Char)
  | 0, _, _, _ => none
  | fuel + 1, depth, before, cs =>
    match skip cs with
    | '\x22' :: rest => do
      let (key, rest) ← stringTail rest
      match skip rest with
      | ':' :: rest =>
        let (d, rest) ← value fuel depth rest
        let before := Document.assign (String.ofList key) d before
        match skip rest with
        | ',' :: rest => fields fuel depth before rest
        | '\x7d' :: rest => return (before, rest)
        | _ => none
      | _ => none
    | _ => none
termination_by structural fuel => fuel

end

/-- The document that a whole text stands for. Every value and item takes at least one character,
so that the fuel suffices. -/
def read? (s : String) : Option Document :=
  let cs := s.toList
  match value (2 * cs.length + 1) maxDepth cs with
  | some (d, rest) => if (skip rest).isEmpty then some d else none
  | none => none

end Perimeter.Json
