import Perimeter.Net.Address

/-!
Reading addresses. Both spellings in use differ in two points only: whether an octet may start
with superfluous zeros, and whether `::` must stand for at least one group. A `Spelling` says so.
Every reader returns what it read and what is left of the text.
-/

namespace Perimeter

/-- The points in which address texts differ. -/
structure Spelling where
  /-- An octet may start with zeros, such as `010`. -/
  leadingZeros : Bool
  /-- The two colons `::` may stand for no group at all. -/
  emptyElision : Bool
deriving DecidableEq, Repr

namespace Spelling

/-- The spelling of an address on its own. -/
def strict : Spelling := ⟨false, false⟩

/-- The spelling of an address in front of a prefix length. -/
def lenient : Spelling := ⟨true, true⟩

end Spelling

namespace Reader

/-- The value of a digit to the base ten or sixteen. -/
def digit? (base : Nat) (c : Char) : Option Nat :=
  if '0' ≤ c ∧ c ≤ '9' then some (c.toNat - '0'.toNat)
  else if base = 16 ∧ 'a' ≤ c ∧ c ≤ 'f' then some (c.toNat - 'a'.toNat + 10)
  else if base = 16 ∧ 'A' ≤ c ∧ c ≤ 'F' then some (c.toNat - 'A'.toNat + 10)
  else none

/-- The digits at the start of a text, and what follows them. -/
def digits (base : Nat) : List Char → List Nat × List Char
  | [] => ([], [])
  | c :: cs =>
    match digit? base c with
    | none => ([], c :: cs)
    | some d => ((digits base cs).map (d :: ·) id)

/-- The number that digits stand for. -/
def value (base : Nat) (ds : List Nat) : Nat :=
  ds.foldl (fun n d => n * base + d) 0

/-- A number below `bound`, of one to `width` digits. -/
def number (base width bound : Nat) (leadingZeros : Bool) (cs : List Char) :
    Option (Nat × List Char) :=
  let (ds, rest) := digits base cs
  let n := value base ds
  if ds.isEmpty || width < ds.length || (!leadingZeros && ds.head? == some 0 && 1 < ds.length)
      || bound ≤ n then none
  else some (n, rest)

/-- One given character. -/
def char (expected : Char) : List Char → Option (List Char)
  | [] => none
  | c :: cs => if c = expected then some cs else none

/-- An octet, after a point unless it is the first. -/
def octet (spelling : Spelling) (first : Bool) (cs : List Char) : Option (Nat × List Char) := do
  let cs ← if first then some cs else char '.' cs
  number 10 3 256 spelling.leadingZeros cs

/-- The four octets of an IPv4 address. -/
def octets (spelling : Spelling) (cs : List Char) : Option (List Nat × List Char) := do
  let (a, cs) ← octet spelling true cs
  let (b, cs) ← octet spelling false cs
  let (c, cs) ← octet spelling false cs
  let (d, cs) ← octet spelling false cs
  return ([a, b, c, d], cs)

/-- The two groups that the octets of an embedded IPv4 address fill. -/
def octetGroups : List Nat → List Nat
  | [a, b, c, d] => [a * 256 + b, c * 256 + d]
  | _ => []

/-- Groups that were read, and whether an embedded IPv4 address ended them. -/
structure Groups where
  groups : List Nat
  embedded : Bool
  rest : List Char

/-- As many groups as there are, at most `limit`. An IPv4 address can take the place of two groups
and ends them; `first` says that no colon stands before the next group. -/
def groups (spelling : Spelling) : (limit : Nat) → (first : Bool) → List Char → Groups
  | 0, _, cs => ⟨[], false, cs⟩
  | limit + 1, first, cs =>
    match (if first then some cs else char ':' cs) with
    | none => ⟨[], false, cs⟩
    | some after =>
      match (if limit = 0 then none else octets spelling after) with
      | some (os, rest) => ⟨octetGroups os, true, rest⟩
      | none =>
        match number 16 4 65536 true after with
        | none => ⟨[], false, cs⟩
        | some (g, rest) =>
          let more := groups spelling limit false rest
          ⟨g :: more.groups, more.embedded, more.rest⟩

/-- The bits of an IPv4 address. -/
def ipv4 (spelling : Spelling) (cs : List Char) : Option (BitVec 32 × List Char) := do
  let (os, rest) ← octets spelling cs
  return (Ipv4.ofOctets os, rest)

/-- The bits of an IPv6 address: eight groups, or fewer on the two sides of `::`. -/
def ipv6 (spelling : Spelling) (cs : List Char) : Option (BitVec 128 × List Char) := do
  let head := groups spelling 8 true cs
  if head.groups.length = 8 then
    return (Ipv6.ofGroups head.groups, head.rest)
  if head.embedded then none
  let cs ← char ':' head.rest
  let cs ← char ':' cs
  let room := 8 - head.groups.length
  let tail := groups spelling (if spelling.emptyElision then room else room - 1) true cs
  let elided := 8 - head.groups.length - tail.groups.length
  return (Ipv6.ofGroups (head.groups ++ List.replicate elided 0 ++ tail.groups), tail.rest)

/-- What was read, provided that nothing is left. -/
def whole {α : Type} : Option (α × List Char) → Option α
  | some (a, []) => some a
  | _ => none

end Reader

/-- The address that a whole text stands for, in the spelling of an address on its own. -/
def Address.ofText? (s : String) : Option Address :=
  match Reader.whole (Reader.ipv4 .strict s.toList) with
  | some a => some (.v4 a)
  | none => (Reader.whole (Reader.ipv6 .strict s.toList)).map .v6

end Perimeter
