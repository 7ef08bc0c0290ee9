/-!
Path patterns. The load balancer reads `*` as any run of characters, `?` as any one character and
everything else as itself (`Pattern.Matches`). `Pattern.covers` is a cheap test on the texts of
two patterns, which looks only at a final `*`.
-/

namespace Perimeter.Pattern

/-- A path has the form of a pattern. -/
inductive Matches : List Char → List Char → Prop where
  | nil : Matches [] []
  /-- `*` stands for nothing more. -/
  | starDone {ps xs : List Char} : Matches ps xs → Matches ('*' :: ps) xs
  /-- `*` stands for one character more. -/
  | starMore {ps xs : List Char} {x : Char} : Matches ('*' :: ps) xs → Matches ('*' :: ps) (x :: xs)
  | anyOne {ps xs : List Char} {x : Char} : Matches ps xs → Matches ('?' :: ps) (x :: xs)
  | same {ps xs : List Char} {c : Char} : c ≠ '*' → c ≠ '?' → Matches ps xs →
      Matches (c :: ps) (c :: xs)

/-- Whether a path has the form of a pattern. -/
def matchesList : List Char → List Char → Bool
  | [], [] => true
  | [], _ :: _ => false
  | p :: ps, [] => p = '*' && matchesList ps []
  | p :: ps, x :: xs =>
    if p = '*' then matchesList ps (x :: xs) || matchesList (p :: ps) xs
    else (p = '?' || p = x) && matchesList ps xs
termination_by ps xs => ps.length + xs.length

/-- The part of a pattern before its final `*`, if it ends in one. -/
def stem? (pattern : List Char) : Option (List Char) :=
  if pattern.getLast? = some '*' then some pattern.dropLast else none

/-- Whether an earlier pattern, seen to match everything that a later one matches, leaves nothing
for the later one: the two are equal, or the earlier one ends in `*` and the later one starts with
what stands before it. A `?` and an inner `*` count as plain characters. -/
def covers (earlier later : String) : Bool :=
  earlier == later ||
    match stem? earlier.toList with
    | some stem => stem.isPrefixOf later.toList
    | none => false

/-- The pattern for everything below a path. -/
def below (path : String) : String :=
  if path.toList.getLast? = some '/' then path ++ "*" else path ++ "/*"

end Perimeter.Pattern
