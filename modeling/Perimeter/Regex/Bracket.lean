import Perimeter.Regex.Escape

/-!
Classes in brackets: characters, ranges, classes with a name and other brackets, and operations on
what stands between them.
-/

namespace Perimeter.Regex

/-- An operation on sets of characters. -/
inductive ClassOperator where
  | intersection
  | difference
  | either
deriving DecidableEq, Repr

namespace ClassOperator

/-- The set that an operation makes of two sets. -/
def apply : ClassOperator → CharClass → CharClass → CharClass
  | intersection, a, b => .intersection a b
  | difference, a, b => .difference a b
  | either, a, b => .either a b

/-- The operator that two equal signs at the start of a text stand for, and what follows them. -/
def read? : List Char → Option (ClassOperator × List Char)
  | '&' :: '&' :: cs => some (intersection, cs)
  | '-' :: '-' :: cs => some (difference, cs)
  | '~' :: '~' :: cs => some (either, cs)
  | _ => none

end ClassOperator

/-- A set of characters, and how deep its description is nested. -/
structure Nested where
  set : CharClass
  depth : Nat
deriving DecidableEq, Repr

/-- The items of a class, the last one first. -/
abbrev Items := List Nested

/-- The union of items. -/
def Items.join (items : Items) : Nested :=
  match items with
  | [item] => item
  | [] => ⟨.none, 0⟩
  | items => ⟨.unions (items.map (·.set)), 1 + (items.map (·.depth)).foldl max 0⟩

/-- A class up to an operator, and the operator. -/
structure Pending where
  left : Nested
  operator : ClassOperator
deriving DecidableEq, Repr

/-- What an operation that is pending makes with what follows it. -/
def Pending.close (flags : Flags) (pending : Option Pending) (right : Nested) : Nested :=
  match pending with
  | none => right
  | some ⟨left, operator⟩ =>
    ⟨operator.apply (Sign.folded flags left.set) (Sign.folded flags right.set),
      1 + max left.depth right.depth⟩

namespace Bracket

/-- The classes of ASCII characters with a name. -/
def asciiClasses : List (String × List CharClass) := [
  ("alnum", [.range '0' '9', .range 'A' 'Z', .range 'a' 'z']),
  ("alpha", [.range 'A' 'Z', .range 'a' 'z']),
  ("ascii", [.range '\x00' '\x7f']),
  ("blank", [.single '\t', .single ' ']),
  ("cntrl", [.range '\x00' '\x1f', .single '\x7f']),
  ("digit", [.range '0' '9']),
  ("graph", [.range '!' '~']),
  ("lower", [.range 'a' 'z']),
  ("print", [.range ' ' '~']),
  ("punct", [.range '!' '/', .range ':' '@', .range '[' '\x60', .range '\x7b' '~']),
  ("space", [Sign.asciiBlank]),
  ("upper", [.range 'A' 'Z']),
  ("word", [Sign.asciiWord]),
  ("xdigit", [.range '0' '9', .range 'A' 'F', .range 'a' 'f'])]

/-- A class with a name between colons, behind the opening bracket: whether it is negated, the
class, and what follows the closing bracket. -/
def ascii? (cs : List Char) : Option (Bool × CharClass × List Char) :=
  match cs with
  | ':' :: cs =>
    let (negated, cs) := match cs with
      | '^' :: cs => (true, cs)
      | _ => (false, cs)
    match cs.dropWhile (· != ':') with
    | ':' :: ']' :: rest =>
      (asciiClasses.lookup (String.ofList (cs.takeWhile (· != ':')))).map fun parts =>
        (negated, .unions parts, rest)
    | _ => none
  | _ => none

/-- A character, or a class with a name. A character beyond ASCII is known only where classes go
there. -/
def member? (flags : Flags) : List Char → Option (Sign × List Char)
  | [] => none
  | '\\' :: cs => Sign.escape? flags cs
  | c :: cs => some (.char c, cs)

/-- A sign as an item. -/
def item? (flags : Flags) : Sign → Option CharClass
  | .char c => if !flags.unicode && 0x80 ≤ c.toNat then none else some (.single c)
  | .many k => some k
  | .look _ => none

/-- The range between two signs. -/
def range? (flags : Flags) : Sign → Sign → Option CharClass
  | .char a, .char b =>
    if b < a || (!flags.unicode && 0x80 ≤ b.toNat) then none else some (.range a b)
  | _, _ => none

/-- A single character, a class with a name, or a range. -/
def entry? (flags : Flags) (cs : List Char) : Option (CharClass × List Char) := do
  let (a, cs) ← member? flags cs
  match flags.skip cs with
  | [] => none
  | c :: rest =>
    let ahead := flags.peek? rest
    if c != '-' || ahead == some ']' || ahead == some '-' then return (← item? flags a, c :: rest)
    else do
      let (b, rest) ← member? flags (flags.skip rest)
      return (← range? flags a b, rest)

/-- The hyphens at the start of a class, which stand for themselves. -/
def hyphens (flags : Flags) : (fuel : Nat) → Items → List Char → Items × List Char
  | 0, items, cs => (items, cs)
  | fuel + 1, items, cs =>
    match cs with
    | '-' :: rest => hyphens flags fuel (⟨.single '-', 0⟩ :: items) (flags.skip rest)
    | _ => (items, cs)

/-- The start of a class behind the opening bracket: whether it is negated, and the characters that
stand for themselves only there. -/
def opening (flags : Flags) (cs : List Char) : Bool × Items × List Char :=
  let cs := flags.skip cs
  let (negated, cs) := match cs with
    | '^' :: rest => (true, flags.skip rest)
    | _ => (false, cs)
  match hyphens flags (cs.length + 1) [] cs with
  | ([], ']' :: rest) => (negated, [⟨.single ']', 0⟩], flags.skip rest)
  | (items, cs) => (negated, items, cs)

mutual

/-- A class behind the opening bracket, and what follows the closing one. -/
def class? (flags : Flags) : (fuel : Nat) → List Char → Option (Nested × List Char)
  | 0, _ => none
  | fuel + 1, cs => do
    let (negated, items, cs) := opening flags cs
    let (inner, rest) ← items? flags fuel none items cs
    let set ← Sign.negatedIf flags negated (Sign.folded flags inner.set)
    return (⟨set, inner.depth + 1⟩, rest)
termination_by structural fuel => fuel

/-- The items of a class up to the closing bracket. -/
def items? (flags : Flags) : (fuel : Nat) → (pending : Option Pending) → Items → List Char →
    Option (Nested × List Char)
  | 0, _, _, _ => none
  | fuel + 1, pending, items, cs =>
    match flags.skip cs with
    | [] => none
    | ']' :: rest => some (Pending.close flags pending items.join, rest)
    | '[' :: rest =>
      match ascii? rest with
      | some (negated, set, rest) => do
        let set ← Sign.negatedIf flags negated (Sign.folded flags set)
        items? flags fuel pending (⟨set, 0⟩ :: items) rest
      | none => do
        let (item, rest) ← class? flags fuel rest
        items? flags fuel pending (item :: items) rest
    | c :: rest =>
      match ClassOperator.read? (c :: rest) with
      | some (operator, rest) =>
        let left := Pending.close flags pending items.join
        items? flags fuel (some ⟨left, operator⟩) [] rest
      | none => do
        let (set, rest) ← entry? flags (c :: rest)
        items? flags fuel pending (⟨set, 0⟩ :: items) rest
termination_by structural fuel => fuel

end

end Bracket

end Perimeter.Regex
