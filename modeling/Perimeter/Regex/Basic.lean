import Perimeter.Regex.CharClass

/-!
Regular expressions. Of two ways to match the one that the expression prefers counts: a choice
prefers its first branch, and a greedy repetition prefers to go on.
-/

namespace Perimeter

namespace Regex

/-- Whether a character is an ASCII letter, a digit or an underscore. -/
def isWord (c : Char) : Bool := c.isAlphanum || c == '_'

/-- What a place in a text has to be. -/
inductive Look where
  | textStart
  | textEnd
  | lineStart
  | lineEnd
  /-- The start of a line, where a line feed, a carriage return or both end lines. -/
  | anyLineStart
  /-- The end of such a line. -/
  | anyLineEnd
  | wordEdge
  | noWordEdge
  | wordStart
  | wordEnd
deriving DecidableEq, Repr

/-- Whether a place is what it has to be, by the characters in front of it and behind it. -/
def Look.holds (before after : Option Char) : Look → Bool
  | textStart => before.isNone
  | textEnd => after.isNone
  | lineStart => before.all (· == '\n')
  | lineEnd => after.all (· == '\n')
  | anyLineStart => before.all fun c => c == '\n' || (c == '\r' && after != some '\n')
  | anyLineEnd => after.all fun c => c == '\r' || (c == '\n' && before != some '\r')
  | wordEdge => before.any isWord != after.any isWord
  | noWordEdge => before.any isWord == after.any isWord
  | wordStart => !before.any isWord && after.any isWord
  | wordEnd => before.any isWord && !after.any isWord

end Regex

/-- A regular expression. -/
inductive Regex where
  | empty
  | one (c : Regex.CharClass)
  | look (l : Regex.Look)
  | sequence (a b : Regex)
  | choice (a b : Regex)
  /-- At most once. -/
  | optional (greedy : Bool) (a : Regex)
  /-- Any number of times. -/
  | star (greedy : Bool) (a : Regex)
  /-- At least once. -/
  | plus (greedy : Bool) (a : Regex)
deriving DecidableEq, Repr

namespace Regex

/-- Whether every match takes at least one character. -/
def consumes : Regex → Bool
  | empty => false
  | one _ => true
  | look _ => false
  | sequence a b => a.consumes || b.consumes
  | choice a b => a.consumes && b.consumes
  | optional _ _ => false
  | star _ _ => false
  | plus _ a => a.consumes

/-- Expressions one after another. -/
def sequences : List Regex → Regex
  | [] => empty
  | [a] => a
  | a :: b :: rest => sequence a (sequences (b :: rest))

/-- A choice of branches, of which there is at least one. -/
def choices (a : Regex) : List Regex → Regex
  | [] => a
  | b :: rest => choice a (choices b rest)

end Regex

end Perimeter
